/-
What the steps of a client do to the deck of candidates.

Decisions, reloads and prefetches may be on the way together and be answered in any order; a
decision may arrive when another page has replaced the one it was made on, ids may be shared between
pages or repeated on one, and one candidate may be decided about twice. What `DiscoveryState` shows
is determined all the same. Of a deck only the page, the cursor and the pending match matter, which
together are its *hand*; and of a step only what it amounts to matters. `Hand.after` is what one
happening does to a hand, and `step_deck` says that every deck published in a step has the hand that
the happening of the step makes of the one before.
-/
import Rendezvous.Proofs.Client.Steps

set_option autoImplicit false

namespace Rendezvous.Client

open Credential (Storage)
open Service (Endpoint Failure)
open Web (Response)

variable {σ : Type}

namespace Hand

/-- The candidate under the cursor. -/
def current? (h : Hand) : Option Wire.Candidate :=
  h.candidates[h.cursor]?

/-- The identifier of the candidate under the cursor. -/
def currentId? (h : Hand) : Option String :=
  h.current?.map Wire.Candidate.id

/-- What a happening makes of a hand. A page replaces the page and puts the cursor back; the answer
to a decision moves the cursor only if the card that was decided about is still under it, and keeps
a pending match unless it brings another; `dismiss_match` takes the match away. -/
def after (x : Option Happening) (h : Hand) : Hand :=
  match x with
  | some (.brought (.page page)) => { h with candidates := page.profiles, cursor := 0 }
  | some (.brought (.decision id answer)) =>
    { h with
      cursor := if h.currentId? = some id then h.cursor + 1 else h.cursor
      pendingMatch := answer.matched.or h.pendingMatch }
  | some .dismissed => { h with pendingMatch := none }
  | _ => h

@[simp]
theorem after_none (h : Hand) : h.after none = h := rfl

end Hand

theorem holds_of_deck_eq {c c' : Client σ} (h : c'.deck = c.deck) :
    Holds c.deck.value.hand c.deck c'.deck := by
  rw [h]
  exact Cell.Grows.refl rfl

/-! ## Conclusions -/

/-- Storing tokens does not touch the deck. -/
theorem deck_takeTokens [Storage σ] (pair : Wire.TokenPair) (c : Client σ) :
    (c.takeTokens pair).deck = c.deck := by
  have hkeep : (c.keepTokens pair.accessToken pair.refreshToken).1.deck = c.deck := rfl
  unfold takeTokens
  generalize c.keepTokens pair.accessToken pair.refreshToken = r at hkeep
  obtain ⟨c₁, why | ⟨⟩⟩ := r
  · exact hkeep
  · exact hkeep

/-- Carrying out a payload leaves every deck with the hand that the payload makes of the one
before. -/
theorem holds_apply [Storage σ] (x : Payload) (c : Client σ) :
    Holds (c.deck.value.hand.after (some (.brought x))) c.deck (c.apply x.reply).1.deck := by
  cases x with
  | tokens way pair => exact holds_of_deck_eq (deck_takeTokens pair c)
  | page cards => exact Cell.Grows.modify rfl
  | decision id answer =>
    -- the decision is published first, and the claim of the next page on top of it
    have hdecided : Holds (c.deck.value.hand.after (some (.brought (.decision id answer)))) c.deck
        (c.onDeck (Deck.decided id answer)).deck := Cell.Grows.modify rfl
    exact hdecided.trans (Prepared.claimAhead (c.onDeck (Deck.decided id answer))).deck
  | matchList list => exact Cell.Grows.modify rfl
  | conversations | thread | message | profile => exact holds_of_deck_eq rfl

/-- **What an answer does to the deck.** Every deck published when an operation is concluded has the
hand that its payload makes of the one before. For a decision this needs that the request named the
candidate that the operation remembers; this is an invariant of the requests on the way
(`Traffic.Faithful`). -/
theorem conclude_deck [Storage σ] (purpose : Purpose) (e : Endpoint)
    (result : Except Failure Response) (c : Client σ)
    (hid : NamesCandidate purpose e) :
    Holds (c.deck.value.hand.after ((purpose.payload? e result).map .brought)) c.deck
      (c.conclude purpose e result).1.deck := by
  have hverdict := purpose.verdict result
  obtain ⟨c₁, hn, hn', _⟩ := conclude_spec purpose e result c
  have hprepared (hdiscreet : (purpose.reply result).Discreet) :=
    (Prepared.conclude hdiscreet e c).deck
  generalize purpose.reply result = reply at hverdict hn' hprepared
  -- an answer without a payload publishes an error, and an error leaves the hand alone
  cases hverdict with
  | unseen _ hx =>
    rw [hx e]
    exact hprepared trivial
  | @refused b why _ _ hx =>
    rw [hx e]
    exact hprepared (b.discreet_report _)
  | @brought x _ hx =>
    have happly := holds_apply x c₁
    rw [hn.deck, ← hn'.deck] at happly
    rw [hx e hid]
    exact happly

/-! ## Whole steps -/

theorem resume_deck [Storage σ] (c : Client σ) : c.resume.deck = c.deck := by
  have ht := notes_token (c := c) .access
  unfold resume
  generalize c.token .access = r at ht
  obtain ⟨c₁, _ | token⟩ := r
  · exact ht.deck
  · exact ht.deck

theorem logOut_deck [Storage σ] (c : Client σ) : c.logOut.deck = c.deck := by
  have hforget : c.forgetTokens.1.deck = c.deck := rfl
  unfold logOut
  generalize c.forgetTokens = r at hforget
  obtain ⟨c₁, why | ⟨⟩⟩ := r
  · exact hforget
  · exact hforget

/-- **What a step does to the deck.** Every deck published in a step has the hand that the happening
of the step makes of the one before. All interleavings are covered by this one statement, since it
speaks of any state with faithful requests. -/
theorem step_deck [Storage σ] {t : Traffic σ} (ht : t.Faithful) (e : Event σ) :
    Holds (t.client.deck.value.hand.after (t.happening? e)) t.client.deck
      (t.step e).client.deck := by
  cases e with
  | begin op =>
    rw [Traffic.begin_client]
    exact (Prepared.begin op t.client).deck
  | fetchDue =>
    rcases Traffic.fetchDue_cases t with heq | ⟨n, _, heq⟩
    · rw [heq]
      exact holds_of_deck_eq rfl
    · rw [heq, Traffic.proceed_client, fetchPage]
      exact (Prepared.ask (.candidates t.client.paging.pageSize) .page t.client).deck
  -- an answer to no request changes nothing
  | answer ticket result =>
    rcases Traffic.answer_cases ticket result t with ⟨hlookup, heq⟩ | ⟨p, hlookup, heq, _⟩
    · rw [heq, Traffic.happening?, hlookup]
      exact holds_of_deck_eq rfl
    · rw [heq, Traffic.happening?, hlookup]
      have hmem : (ticket, p) ∈ t.waiting := Traffic.mem_waiting_of_lookup hlookup
      exact conclude_deck p.purpose p.endpoint result t.client (ht (ticket, p) hmem)
  | resume => exact holds_of_deck_eq (resume_deck t.client)
  | logOut => exact holds_of_deck_eq (logOut_deck t.client)
  | dismissMatch => exact Cell.Grows.modify rfl
  | openRoom id => exact holds_of_deck_eq rfl
  | drift f => exact holds_of_deck_eq rfl

end Rendezvous.Client
