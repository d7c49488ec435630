/-
Every operation keeps to its own screen.

The five controllers do not know of each other. An operation publishes on the screen of one of them,
its answer on the same one, and neither changes anything on another, nor the base URL or the paging.
`Confined` says so about any stretch of time, as equations about the whole rest of the client, and
`confined_step` is the one place where every event is looked through for it. Whatever a statement
needs to know about a screen that an event is not about follows from there, without another look at
what the event does.

The tokens are not on a screen; what happens to them is said in `Session`.
-/
import Rendezvous.Proofs.Client.Spared

set_option autoImplicit false

namespace Rendezvous.Client

open Credential (Storage)
open Service (Endpoint Failure)
open Web (Response)

variable {σ : Type} {c c' c'' : Client σ}

/-! ## Keeping to a screen -/

/-- From one client to a later one nothing has changed but the log, the tokens, and what is on the
screen `s`, if there is one. -/
structure Confined (s : Option Screen) (c c' : Client σ) : Prop where
  address : c'.address = c.address
  paging : c'.paging = c.paging
  poisoned : c'.store.poisoned = c.store.poisoned
  session : s ≠ some .session → c'.session = c.session
  deck : s ≠ some .deck → c'.deck = c.deck
  inbox : s ≠ some .inbox → c'.inbox = c.inbox
  own : s ≠ some .own → c'.own = c.own
  rooms : ∀ room, s ≠ some (.thread room) → c'.rooms[room]? = c.rooms[room]?

variable {s : Option Screen}

theorem Confined.of_notes (h : Notes c c') : Confined s c c' := by
  obtain ⟨ns, rfl⟩ := h
  exact {
    address := rfl
    paging := rfl
    poisoned := rfl
    session := fun _ => rfl
    deck := fun _ => rfl
    inbox := fun _ => rfl
    own := fun _ => rfl
    rooms := fun _ _ => rfl }

theorem Confined.refl (s : Option Screen) (c : Client σ) : Confined s c c :=
  .of_notes .refl

theorem Confined.trans (h : Confined s c c') (h' : Confined s c' c'') : Confined s c c'' where
  address := h'.address.trans h.address
  paging := h'.paging.trans h.paging
  poisoned := h'.poisoned.trans h.poisoned
  session hs := (h'.session hs).trans (h.session hs)
  deck hs := (h'.deck hs).trans (h.deck hs)
  inbox hs := (h'.inbox hs).trans (h.inbox hs)
  own hs := (h'.own hs).trans (h.own hs)
  rooms room hs := (h'.rooms room hs).trans (h.rooms room hs)

theorem Confined.of_none (h : Confined none c c') : Confined s c c' where
  address := h.address
  paging := h.paging
  poisoned := h.poisoned
  session _ := h.session nofun
  deck _ := h.deck nofun
  inbox _ := h.inbox nofun
  own _ := h.own nofun
  rooms room _ := h.rooms room nofun

/-- **A publication keeps to its screen.** -/
theorem confined_publish (u : Publication) (c : Client σ) :
    Confined (some u.screen) c (c.publish u) := by
  cases u with
  | session f => exact { Confined.refl _ c with session := fun hs => absurd rfl hs }
  | deck f => exact { Confined.refl _ c with deck := fun hs => absurd rfl hs }
  | inbox f => exact { Confined.refl _ c with inbox := fun hs => absurd rfl hs }
  | own f => exact { Confined.refl _ c with own := fun hs => absurd rfl hs }
  | thread room f =>
    refine { Confined.refl _ c with rooms := fun n hs => ?_ }
    have hne : room ≠ n := fun h => hs (by rw [h]; rfl)
    exact List.getElem?_modify_ne _ _ hne

/-- A publication on the screen of a business. -/
theorem confined_publish_business {u : Publication} {b : Business} (hu : u.screen = b.screen)
    (c : Client σ) : Confined (some b.screen) c (c.publish u) :=
  hu ▸ confined_publish u c

theorem confined_claimAhead (c : Client σ) : Confined (some .deck) c c.claimAhead.1 := by
  rcases claimAhead_cases c with ⟨_, _, hclaim⟩ | ⟨_, hnothing⟩
  · rw [hclaim]
    exact (confined_publish Business.page.announcement c).trans
      (.of_notes (notes_note .fetchingAhead))
  · rw [hnothing]
    exact .refl _ _

/-! ## Operations -/

/-- What is published without asking is published on the screen of the operation. -/
theorem Operation.confined_reportUnasked? (op : Operation) (c : Client σ) :
    Confined op.screen? c (c.publish? op.reportUnasked?) := by
  cases op with
  | renew => exact confined_publish (.session (Session.blocked _)) c
  | _ => exact .refl _ c

section

variable [Storage σ]

theorem confined_takeTokens (pair : Wire.TokenPair) (c : Client σ) :
    Confined (some .session) c (c.takeTokens pair) := by
  -- the tokens are kept first, and they are on no screen
  have hkeep : Confined (some .session) c (c.keepTokens pair.accessToken pair.refreshToken).1 :=
    { Confined.refl _ c with poisoned := c.store.poisoned_save _ _ }
  unfold takeTokens
  generalize c.keepTokens pair.accessToken pair.refreshToken = r at hkeep
  obtain ⟨c₁, why | ⟨⟩⟩ := r
  · exact hkeep.trans (confined_publish (Business.tokens.report _) c₁)
  · exact hkeep.trans (confined_publish (.session Session.granted) c₁)

theorem confined_apply (reply : Reply) (c : Client σ) :
    Confined reply.screen? c (c.apply reply).1 := by
  cases reply with
  | shown u => exact confined_publish u c
  | tokens pair => exact confined_takeTokens pair c
  | decision id answer =>
    exact (confined_publish (.deck (Deck.decided id answer)) c).trans (confined_claimAhead _)
  | unseen => exact .refl _ _

/-- **Answers keep to their screen.** -/
theorem confined_conclude (purpose : Purpose) (e : Endpoint) (result : Except Failure Response)
    (c : Client σ) : Confined purpose.screen? c (c.conclude purpose e result).1 := by
  obtain ⟨c₁, hn, hn', _⟩ := conclude_spec purpose e result c
  have happly := confined_apply (purpose.reply result) c₁
  have hscreen : Confined purpose.screen? c₁ (c₁.apply (purpose.reply result)).1 := by
    rcases hs : (purpose.reply result).screen? with _ | s
    · rw [hs] at happly
      exact happly.of_none
    · rw [hs, ← Purpose.screen_reply hs] at happly
      exact happly
  exact ((Confined.of_notes hn).trans hscreen).trans (.of_notes hn')

theorem confined_ask (e : Endpoint) (purpose : Purpose) (c : Client σ) :
    Confined purpose.screen? c (c.ask e purpose).1 := by
  rcases ask_cases e purpose c with ⟨c', url, hn, _, hask⟩ | ⟨why, _, hask⟩
  · rw [hask]
    exact .of_notes hn
  · rw [hask]
    exact confined_conclude ..

/-- **Operations keep to their screen.** What the first half publishes is on the screen of the
operation, so every other screen is untouched; an operation without a screen touches none. -/
theorem confined_begin (op : Operation) (c : Client σ) :
    Confined op.screen? c (c.begin op).1 := by
  obtain ⟨c₁, hn, ⟨_, hbegin⟩ | ⟨e, _, hbegin⟩⟩ := begin_inversion op c
  · rw [hbegin]
    exact (Confined.of_notes hn).trans (op.confined_reportUnasked? c₁)
  · have hannounced : Confined op.screen? c₁
        (c₁.publish? (op.business?.map Business.announcement)) := by
      rw [Operation.screen?]
      rcases op.business? with _ | b
      · exact .refl _ _
      · exact confined_publish_business b.screen_announcement c₁
    have hask := confined_ask e (op.purpose c)
      (c₁.publish? (op.business?.map Business.announcement))
    rw [Purpose.screen?, Operation.business?_purpose] at hask
    rw [hbegin]
    exact ((Confined.of_notes hn).trans hannounced).trans hask

theorem confined_resume (c : Client σ) : Confined (some .session) c c.resume := by
  have ht : Confined (some .session) c (c.token .access).1 := .of_notes (notes_token .access)
  unfold resume
  generalize c.token .access = r at ht
  obtain ⟨c₁, _ | token⟩ := r
  · exact ht
  · exact (ht.trans (.of_notes (notes_note .resumed))).trans
      (confined_publish (.session Session.opened) _)

theorem confined_logOut (c : Client σ) : Confined (some .session) c c.logOut := by
  have hforget : Confined (some .session) c c.forgetTokens.1 :=
    { Confined.refl _ c with poisoned := c.store.poisoned_clear }
  unfold logOut
  generalize c.forgetTokens = r at hforget
  obtain ⟨c₁, why | ⟨⟩⟩ := r
  · exact (hforget.trans (.of_notes (notes_note .loggedOut))).trans
      (confined_publish (.session (Session.closed _)) _)
  · exact (hforget.trans (.of_notes (notes_note .loggedOut))).trans
      (confined_publish (.session (Session.closed none)) _)

end

/-! ## Whole steps -/

/-- The screen that an event is about, if any. A conversation that is opened is a new screen. -/
def Traffic.screen? (t : Traffic σ) : Event σ → Option Screen
  | .begin op => op.screen?
  | .fetchDue | .dismissMatch => some .deck
  | .answer ticket _ => (t.waiting.lookup ticket).bind fun p => p.purpose.screen?
  | .resume | .logOut => some .session
  | .openRoom _ => some (.thread t.client.rooms.length)
  | .drift _ => none

variable [Storage σ]

/-- **Every event keeps to its screen.** This is the frame that other results are proved through: a
fact about one screen needs a proof only for the events of that screen. -/
theorem confined_step (t : Traffic σ) (e : Event σ) :
    Confined (t.screen? e) t.client (t.step e).client := by
  cases e with
  | begin op =>
    rw [Traffic.begin_client]
    exact confined_begin ..
  | fetchDue =>
    rcases Traffic.fetchDue_cases t with heq | ⟨n, _, heq⟩
    · rw [heq]
      exact .refl _ _
    · rw [heq, Traffic.proceed_client, fetchPage]
      exact confined_ask _ .page _
  | answer ticket result =>
    rcases Traffic.answer_cases ticket result t with ⟨_, heq⟩ | ⟨p, hlookup, heq, _⟩
    · rw [heq]
      exact .refl _ _
    · rw [heq, Traffic.screen?, hlookup]
      exact confined_conclude ..
  | resume => exact confined_resume _
  | logOut => exact confined_logOut _
  | dismissMatch => exact confined_publish (.deck Deck.noted) _
  | openRoom id =>
    refine { Confined.refl _ t.client with rooms := fun room hs => ?_ }
    have hne : room ≠ t.client.rooms.length := fun h => hs (by rw [h]; rfl)
    -- a number that has not been given out yet stands for no conversation, before and after
    show (t.client.rooms ++ [_])[room]? = _
    rcases Nat.lt_or_gt_of_ne hne with hlt | hgt
    · exact List.getElem?_append_left hlt
    · rw [List.getElem?_append_right (Nat.le_of_lt hgt), List.getElem?_eq_none (Nat.le_of_lt hgt)]
      exact List.getElem?_eq_none (Nat.le_sub_of_add_le (by rw [Nat.add_comm]; exact hgt))
  | drift f => exact { Confined.refl none t.client with }

/-- The base URL and the paging never change, nor does whether the store can be used. They are set
by the configuration, and no event is about them. -/
theorem settings_run (t : Traffic σ) (es : List (Event σ)) :
    (t.run es).client.address = t.client.address ∧ (t.run es).client.paging = t.client.paging ∧
      (t.run es).client.store.poisoned = t.client.store.poisoned := by
  induction es generalizing t with
  | nil => exact ⟨rfl, rfl, rfl⟩
  | cons e es ih =>
    have hstep := confined_step t e
    obtain ⟨haddress, hpaging, hpoisoned⟩ := ih (t.step e)
    rw [Traffic.run_cons]
    exact ⟨haddress.trans hstep.address, hpaging.trans hstep.paging,
      hpoisoned.trans hstep.poisoned⟩

end Rendezvous.Client
