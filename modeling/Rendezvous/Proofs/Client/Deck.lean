/-
The deck of `DiscoveryController` under any interleaving.

The history of a run says which answers came, and the deck follows from it alone: its page is the
one that came last, every candidate before the cursor was decided about since then, and the match it
announces is the last one that was brought and not dismissed. Each of the three is read off the
history from its end. `Hand.Follows` is the agreement of a hand with a history, and a happening
extends it (`Follows.after`), so it holds after every run, by the induction over runs, and for every
deck that is published on the way.

That the cursor stays on the page is part of the invariant and not a consequence of the rest: it
only moves on from a candidate that is there.
-/
import Rendezvous.Proofs.Client.Hand

set_option autoImplicit false

namespace Rendezvous.Client

open Credential (Storage)

variable {σ : Type}

/-! ## What a history says -/

namespace Happening

/-- The page that came, if one came. -/
def page? : Happening → Option Wire.Page
  | brought (.page page) => some page
  | _ => none

/-- Whom a decision was about whose answer came. -/
def decided? : Happening → Option String
  | brought (.decision id _) => some id
  | _ => none

/-- The match that came with a decision. -/
def match? : Happening → Option Wire.Match
  | brought (.decision _ answer) => answer.matched
  | _ => none

/-- Whether a match was acknowledged (`dismiss_match`). -/
def isDismissal : Happening → Bool
  | dismissed => true
  | _ => false

end Happening

/-- The candidates of the page that came last; none if no page came. -/
def lastPage (h : List Happening) : List Wire.Candidate :=
  (h.reverse.findSome? Happening.page?).elim [] Wire.Page.profiles

/-- Whom the decisions were about whose answers came after the last page, in that order. The same
candidate may be in it twice. -/
def decidedSince (h : List Happening) : List String :=
  ((h.reverse.takeWhile fun x => x.page?.isNone).filterMap Happening.decided?).reverse

/-- The match that came last after the last dismissal. -/
def pendingMatch (h : List Happening) : Option Wire.Match :=
  (h.reverse.takeWhile fun x => !x.isDismissal).findSome? Happening.match?

/-- One happening more: it is a page, or the last page stays. -/
theorem lastPage_concat (h : List Happening) (x : Happening) :
    lastPage (h ++ [x]) = x.page?.elim (lastPage h) Wire.Page.profiles := by
  rw [lastPage, List.reverse_append]
  rcases hx : x.page? with _ | page
  · simp [hx, lastPage]
  · simp [hx]

/-- One happening more: after a page the decisions before it no longer count. -/
theorem decidedSince_concat (h : List Happening) (x : Happening) :
    decidedSince (h ++ [x]) =
      if x.page?.isSome then [] else decidedSince h ++ x.decided?.toList := by
  rw [decidedSince, List.reverse_append]
  rcases hx : x.page? with _ | page
  · rcases hd : x.decided? with _ | id <;> simp [hx, hd, decidedSince]
  · simp [hx]

/-- A match stays until another one comes, or until it is dismissed. -/
theorem pendingMatch_concat (h : List Happening) (x : Happening) :
    pendingMatch (h ++ [x]) =
      if x.isDismissal then none else x.match?.or (pendingMatch h) := by
  rw [pendingMatch, List.reverse_append]
  rcases hx : x.isDismissal with _ | _
  · rcases hm : x.match? with _ | m <;> simp [hx, hm, pendingMatch]
  · simp [hx]

/-! ## The invariant -/

namespace Hand

/-- A hand is the one that a history leads to. The candidates before the cursor are a sublist of
those decided about, and not all of them: a decision whose card was not on top any more does not
move the cursor. -/
structure Follows (h : List Happening) (hand : Hand) : Prop where
  candidates : hand.candidates = lastPage h
  cursor_le : hand.cursor ≤ hand.candidates.length
  decided : ((hand.candidates.take hand.cursor).map Wire.Candidate.id).Sublist (decidedSince h)
  pendingMatch : hand.pendingMatch = Client.pendingMatch h

theorem follows_nil : Follows [] {} where
  candidates := rfl
  cursor_le := Nat.le_refl 0
  decided := List.Sublist.refl []
  pendingMatch := rfl

/-- Moving on from a candidate adds that candidate to those before the cursor. -/
theorem take_succ_of_currentId? {hand : Hand} {id : String} (hid : hand.currentId? = some id) :
    hand.cursor + 1 ≤ hand.candidates.length ∧
      (hand.candidates.take (hand.cursor + 1)).map Wire.Candidate.id =
        (hand.candidates.take hand.cursor).map Wire.Candidate.id ++ [id] := by
  obtain ⟨candidate, hget, rfl⟩ := Option.map_eq_some_iff.mp hid
  obtain ⟨hlt, hget'⟩ := List.getElem?_eq_some_iff.mp hget
  refine ⟨hlt, ?_⟩
  rw [List.take_succ_eq_append_getElem hlt, List.map_append, hget', List.map_singleton]

/-- Whatever is neither a page nor a decision nor a dismissal leaves both sides as they are: it adds
nothing to any of the lists that the deck is compared with. -/
theorem Follows.of_unrelated {h : List Happening} {hand : Hand} (hf : Follows h hand)
    {x : Happening} (hpage : x.page? = none) (hdecided : x.decided? = none)
    (hmatch : x.match? = none) (hdismissal : x.isDismissal = false) :
    Follows (h ++ [x]) hand where
  candidates := by rw [lastPage_concat, hpage]; exact hf.candidates
  cursor_le := hf.cursor_le
  decided := by
    rw [decidedSince_concat, hpage, hdecided]
    simpa using hf.decided
  pendingMatch := by
    rw [pendingMatch_concat, hdismissal, hmatch]
    simpa using hf.pendingMatch

/-- A decision always counts among those made, but it moves the cursor only if its card is on top.
The card may have gone from there, by another decision or with its page. -/
theorem Follows.after_decision {h : List Happening} {hand : Hand} (hf : Follows h hand)
    (id : String) (answer : Wire.SwipeResult) :
    Follows (h ++ [.brought (.decision id answer)])
      (hand.after (some (.brought (.decision id answer)))) := by
  have hsince : decidedSince (h ++ [.brought (.decision id answer)]) = decidedSince h ++ [id] := by
    rw [decidedSince_concat]
    simp [Happening.page?, Happening.decided?]
  have hmatch : answer.matched.or hand.pendingMatch =
      Client.pendingMatch (h ++ [.brought (.decision id answer)]) := by
    rw [pendingMatch_concat, hf.pendingMatch]
    rfl
  by_cases hid : hand.currentId? = some id
  · obtain ⟨hle, htake⟩ := take_succ_of_currentId? hid
    have hafter : hand.after (some (.brought (.decision id answer))) =
        { hand with
          cursor := hand.cursor + 1
          pendingMatch := answer.matched.or hand.pendingMatch } := by
      simp only [Hand.after, if_pos hid]
    rw [hafter]
    exact {
      candidates := by rw [lastPage_concat]; exact hf.candidates
      cursor_le := hle
      decided := by
        rw [hsince]
        show ((hand.candidates.take (hand.cursor + 1)).map _).Sublist _
        rw [htake]
        exact hf.decided.append (List.Sublist.refl [id])
      pendingMatch := hmatch }
  · have hafter : hand.after (some (.brought (.decision id answer))) =
        { hand with pendingMatch := answer.matched.or hand.pendingMatch } := by
      simp only [Hand.after, if_neg hid]
    rw [hafter]
    exact {
      candidates := by rw [lastPage_concat]; exact hf.candidates
      cursor_le := hf.cursor_le
      decided := by
        rw [hsince]
        exact hf.decided.trans (List.sublist_append_left _ _)
      pendingMatch := hmatch }

/-- **One happening.** The hand after it is the one that the longer history leads to. A page starts
the hand afresh and a decision moves it on; no other happening is about the deck. -/
theorem Follows.after {h : List Happening} {hand : Hand} (hf : Follows h hand)
    (x : Option Happening) : Follows (h ++ x.toList) (hand.after x) := by
  rcases x with _ | x
  · simpa only [Option.toList_none, List.append_nil, after_none] using hf
  rw [Option.toList_some]
  match x with
  | .loggedOut => exact hf.of_unrelated rfl rfl rfl rfl
  | .dismissed =>
    have hsince : decidedSince (h ++ [.dismissed]) = decidedSince h := by
      rw [decidedSince_concat]
      simp [Happening.page?, Happening.decided?]
    exact {
      candidates := by rw [lastPage_concat]; exact hf.candidates
      cursor_le := hf.cursor_le
      decided := by rw [hsince]; exact hf.decided
      pendingMatch := by rw [pendingMatch_concat]; rfl }
  | .brought (.page page) =>
    exact {
      candidates := by rw [lastPage_concat]; rfl
      cursor_le := Nat.zero_le _
      decided := by
        -- no decision has been made since the page came
        show ((page.profiles.take 0).map _).Sublist _
        rw [List.take_zero, List.map_nil]
        exact List.nil_sublist _
      pendingMatch := by
        rw [pendingMatch_concat]
        exact hf.pendingMatch }
  | .brought (.decision id answer) => exact hf.after_decision id answer
  | .brought (.tokens _ _) => exact hf.of_unrelated rfl rfl rfl rfl
  | .brought (.matchList _) => exact hf.of_unrelated rfl rfl rfl rfl
  | .brought (.conversations _) => exact hf.of_unrelated rfl rfl rfl rfl
  | .brought (.thread _ _) => exact hf.of_unrelated rfl rfl rfl rfl
  | .brought (.message _ _) => exact hf.of_unrelated rfl rfl rfl rfl
  | .brought (.profile _) => exact hf.of_unrelated rfl rfl rfl rfl

/-- The cursor only ever moves on to the next candidate, and only when the answer to a decision
about the candidate under it comes; a page takes it back to the start. -/
theorem cursor_after (hand : Hand) (x : Option Happening) :
    (∀ page, x = some (.brought (.page page)) → (hand.after x).cursor = 0) ∧
    (∀ id answer, x = some (.brought (.decision id answer)) → hand.currentId? = some id →
      (hand.after x).cursor = hand.cursor + 1) ∧
    (hand.cursor < (hand.after x).cursor →
      ∃ id answer, x = some (.brought (.decision id answer)) ∧ hand.currentId? = some id) := by
  refine ⟨?_, ?_, ?_⟩
  · rintro page rfl
    rfl
  · rintro id answer rfl hid
    simp only [after, if_pos hid]
  · -- a page puts the cursor back, and of the rest only a decision about the current candidate
    -- moves it
    intro hlt
    unfold after at hlt
    split at hlt
    · exact absurd hlt (Nat.not_lt_zero _)
    · rename_i id answer
      by_cases hid : hand.currentId? = some id
      · exact ⟨id, answer, rfl, hid⟩
      · simp only [if_neg hid, Nat.lt_irrefl] at hlt
    · exact absurd hlt (Nat.lt_irrefl _)
    · exact absurd hlt (Nat.lt_irrefl _)

/-- The candidate under the cursor stays there until the answer to a decision comes or a page
does. -/
theorem current?_after (hand : Hand) {x : Option Happening}
    (hx : ∀ id answer, x ≠ some (.brought (.decision id answer))) :
    (hand.after x).current? =
      (x.bind Happening.page?).elim hand.current? fun page => page.profiles.head? := by
  match x with
  | none => rfl
  | some .loggedOut => rfl
  | some .dismissed => rfl
  | some (.brought (.page page)) => exact List.head?_eq_getElem?.symm
  | some (.brought (.decision id answer)) => exact absurd rfl (hx id answer)
  | some (.brought (.tokens _ _)) => rfl
  | some (.brought (.matchList _)) => rfl
  | some (.brought (.conversations _)) => rfl
  | some (.brought (.thread _ _)) => rfl
  | some (.brought (.message _ _)) => rfl
  | some (.brought (.profile _)) => rfl

end Hand

/-! ## Every run -/

/-- What the induction over a run carries: the requests on the way are remembered for what they say,
and the hand is the one that the history leads to. -/
structure DeckInvariant (h : List Happening) (t : Traffic σ) : Prop where
  faithful : t.Faithful
  follows : t.client.deck.value.hand.Follows h

variable [Storage σ]

theorem deckInvariant_started (address : String) (paging : Service.Paging)
    (store : Credential.Store σ) :
    DeckInvariant [] (Traffic.started address paging store) where
  faithful := fun _ hw => nomatch hw
  follows := by
    rw [show (Traffic.started address paging store).client.deck = _ from resume_deck _]
    exact Hand.follows_nil

theorem DeckInvariant.step {h : List Happening} {t : Traffic σ} (hi : DeckInvariant h t)
    (e : Event σ) : DeckInvariant (h ++ (t.happening? e).toList) (t.step e) where
  faithful := hi.faithful.step e
  follows := by
    rw [(step_deck hi.faithful e).value]
    exact hi.follows.after _

theorem deckInvariant_run (address : String) (paging : Service.Paging)
    (store : Credential.Store σ) (es : List (Event σ)) :
    DeckInvariant ((Traffic.started address paging store).history es)
      ((Traffic.started address paging store).run es) :=
  Traffic.run_invariant (fun _ => True) (deckInvariant_started address paging store)
    (fun _ _ e _ hi => hi.step e) es fun _ _ => trivial

/-- **The deck follows the history.** Let anything happen to a client, in any order, and then one
thing more. Every deck that can be seen in this last step has its cursor on its page, so that moving
on and counting what remains cannot go wrong; its page is the one that came last; the candidates
before the cursor were each decided about since, by a decision of their own; the cursor moves on by
one when the answer to a decision about its candidate comes, and at no other time; and the match it
announces is the last one since the last dismissal. -/
theorem deck_follows_history (address : String) (paging : Service.Paging)
    (store : Credential.Store σ) (es : List (Event σ)) (e : Event σ) :
    let start := Traffic.started address paging store
    let before := start.run es
    let heard := start.history (es ++ [e])
    ∀ d ∈ Cell.shown before.client.deck (before.step e).client.deck,
      (d.cursor ≤ d.candidates.length ∧ d.cursor + d.remaining = d.candidates.length) ∧
      (d.candidates = lastPage heard ∧
        ∀ page, before.happening? e = some (.brought (.page page)) → d.cursor = 0) ∧
      ((d.candidates.take d.cursor).map Wire.Candidate.id).Sublist (decidedSince heard) ∧
      ((∀ id answer, before.happening? e = some (.brought (.decision id answer)) →
          before.client.deck.value.current?.map Wire.Candidate.id = some id →
          d.cursor = before.client.deck.value.cursor + 1) ∧
        (before.client.deck.value.cursor < d.cursor →
          ∃ id answer, before.happening? e = some (.brought (.decision id answer)) ∧
            before.client.deck.value.current?.map Wire.Candidate.id = some id)) ∧
      d.pendingMatch = pendingMatch heard := by
  intro start before heard d hd
  have hi := deckInvariant_run address paging store es
  have hhand : d.hand = before.client.deck.value.hand.after (before.happening? e) :=
    (step_deck hi.faithful e).of_mem_shown hd
  have hfollows : d.hand.Follows heard := by
    rw [hhand, show heard = _ from Traffic.history_concat _ _ _]
    exact hi.follows.after _
  -- how the cursor moved is read off the hand before the step and the one after it
  have hcursor := Hand.cursor_after before.client.deck.value.hand (before.happening? e)
  rw [← hhand] at hcursor
  obtain ⟨hpage, hdecision, honly⟩ := hcursor
  have hle : d.cursor ≤ d.candidates.length := hfollows.cursor_le
  refine ⟨⟨hle, ?_⟩, ⟨hfollows.candidates, hpage⟩, hfollows.decided, ⟨hdecision, honly⟩,
    hfollows.pendingMatch⟩
  unfold Deck.remaining
  omega

end Rendezvous.Client
