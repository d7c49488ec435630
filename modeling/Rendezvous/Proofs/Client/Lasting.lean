/-
What lasts, whatever happens to a client.

A ticket is given out once: what waits has a smaller one than the next that will be given out
(`Numbered`), so what waits under a ticket later on waited under it from the beginning
(`of_mem_waiting_run`). And a conversation that has been opened stays open, under the number that it
got (`roomIds_run`): answers are published on conversations, but none is ever closed.
-/
import Rendezvous.Proofs.Client.Steps

set_option autoImplicit false

namespace Rendezvous.Client

open Credential (Storage)
open Service (Endpoint Failure)
open Web (Response)

variable {σ : Type} {c c' : Client σ}

/-! ## Open conversations -/

theorem roomIds_publish (u : Publication) (c : Client σ) : (c.publish u).roomIds = c.roomIds := by
  cases u with
  | thread room f => exact roomIds_onThread room f c
  | _ => rfl

theorem roomIds_apply [Storage σ] (reply : Reply) (c : Client σ) :
    (c.apply reply).1.roomIds = c.roomIds := by
  cases reply with
  | shown u => exact roomIds_publish u c
  | tokens pair =>
    have hkeep : (c.keepTokens pair.accessToken pair.refreshToken).1.roomIds = c.roomIds := rfl
    simp only [apply, takeTokens]
    generalize c.keepTokens pair.accessToken pair.refreshToken = r at hkeep
    obtain ⟨c₁, why | ⟨⟩⟩ := r
    · exact hkeep
    · exact hkeep
  | decision id answer => exact (Prepared.claimAhead (c.onDeck (Deck.decided id answer))).roomIds
  | unseen => rfl

/-- No answer opens or closes a conversation. -/
theorem roomIds_conclude [Storage σ] (purpose : Purpose) (e : Endpoint)
    (result : Except Failure Response) (c : Client σ) :
    (c.conclude purpose e result).1.roomIds = c.roomIds := by
  obtain ⟨c₁, hn, hn', _⟩ := conclude_spec purpose e result c
  exact hn'.roomIds.trans ((roomIds_apply _ c₁).trans hn.roomIds)

theorem roomIds_resume [Storage σ] (c : Client σ) : c.resume.roomIds = c.roomIds := by
  have ht := notes_token (c := c) .access
  unfold resume
  generalize c.token .access = r at ht
  obtain ⟨c₁, _ | token⟩ := r
  · exact ht.roomIds
  · exact ht.roomIds

theorem roomIds_logOut [Storage σ] (c : Client σ) : c.logOut.roomIds = c.roomIds := by
  have hforget : c.forgetTokens.1.roomIds = c.roomIds := rfl
  unfold logOut
  generalize c.forgetTokens = r at hforget
  obtain ⟨c₁, why | ⟨⟩⟩ := r
  · exact hforget
  · exact hforget

/-- The conversation that an event opens, if it opens one. -/
def Event.opened? : Event σ → Option String
  | openRoom id => some id
  | _ => none

namespace Traffic

theorem next_proceed (r : Client σ × Progress) (t : Traffic σ) :
    (t.proceed r).1.next = t.next + 1 := by
  obtain ⟨c, p | e⟩ := r
  · rfl
  · simp only [proceed, withDue]
    split
    · rfl
    · rfl

variable [Storage σ] {t : Traffic σ}

/-- **One step.** The conversation that an event opens is put behind the others, and that is all
that happens to them. -/
theorem roomIds_step_eq (t : Traffic σ) (e : Event σ) :
    (t.step e).client.roomIds = t.client.roomIds ++ e.opened?.toList := by
  -- but for one event, no conversation is opened
  have stays {t' : Traffic σ} (h : t'.client.roomIds = t.client.roomIds) :
      t'.client.roomIds = t.client.roomIds ++ [] := by
    rw [List.append_nil, h]
  cases e with
  | begin op =>
    apply stays
    rw [begin_client]
    exact (Prepared.begin op t.client).roomIds
  | fetchDue =>
    apply stays
    rcases fetchDue_cases t with heq | ⟨n, _, heq⟩
    · rw [heq]
    · rw [heq, proceed_client]
      exact (Prepared.ask _ .page t.client).roomIds
  | answer ticket result =>
    apply stays
    rcases answer_cases ticket result t with ⟨_, heq⟩ | ⟨p, _, heq, _⟩
    · rw [heq]
    · rw [heq]
      exact roomIds_conclude ..
  | resume => exact stays (roomIds_resume _)
  | logOut => exact stays (roomIds_logOut _)
  | dismissMatch => exact stays rfl
  | openRoom id => exact List.map_append
  | drift f => exact stays rfl

/-- In a step at most one more conversation is opened, and none is closed. -/
theorem roomIds_step (t : Traffic σ) (e : Event σ) :
    t.client.roomIds <+: (t.step e).client.roomIds :=
  ⟨e.opened?.toList, (roomIds_step_eq t e).symm⟩

/-- **Conversations stay open**, under their numbers. -/
theorem roomIds_run (t : Traffic σ) (es : List (Event σ)) :
    t.client.roomIds <+: (t.run es).client.roomIds := by
  induction es generalizing t with
  | nil => exact List.prefix_rfl
  | cons e es ih => exact (roomIds_step t e).trans (ih (t.step e))

/-! ## Tickets -/

/-- What waits has a smaller ticket than the next one that will be given out. -/
def Numbered (t : Traffic σ) : Prop :=
  ∀ w ∈ t.waiting, w.1 < t.next

/-- In a step nothing comes to wait but under the next ticket, which is then given out. So a ticket
names one request for good, and an answer cannot be taken for that of another. -/
theorem waiting_step (t : Traffic σ) (e : Event σ) :
    t.next ≤ (t.step e).next ∧
      ∀ w ∈ (t.step e).waiting, w ∈ t.waiting ∨ w.1 = t.next ∧ t.next < (t.step e).next := by
  -- two shapes cover every event: nothing new is under way, or a request with the next ticket is
  have same {t' : Traffic σ} (hnext : t'.next = t.next) (hwaiting : t'.waiting = t.waiting) :
      t.next ≤ t'.next ∧ ∀ w ∈ t'.waiting, w ∈ t.waiting ∨ w.1 = t.next ∧ t.next < t'.next := by
    refine ⟨Nat.le_of_eq hnext.symm, fun w hw => .inl ?_⟩
    rwa [hwaiting] at hw
  have proceeds (r : Client σ × Progress) {t₀ : Traffic σ} (hnext : t₀.next = t.next)
      (hwaiting : t₀.waiting = t.waiting) : t.next ≤ (t₀.proceed r).1.next ∧
        ∀ w ∈ (t₀.proceed r).1.waiting,
          w ∈ t.waiting ∨ w.1 = t.next ∧ t.next < (t₀.proceed r).1.next := by
    rw [next_proceed, hnext]
    refine ⟨Nat.le_succ _, fun w hw => ?_⟩
    rcases mem_waiting_proceed hw with hw | ⟨hw, _⟩
    · rw [hwaiting] at hw
      exact .inl hw
    · exact .inr ⟨hw.trans hnext, Nat.lt_succ_self _⟩
  cases e with
  | begin op => exact proceeds _ rfl rfl
  | fetchDue =>
    rcases fetchDue_cases t with heq | ⟨n, _, heq⟩
    · rw [heq]
      exact same rfl rfl
    · rw [heq]
      exact proceeds _ rfl rfl
  | answer ticket result =>
    have hnext : (t.step (.answer ticket result)).next = t.next := by
      simp only [step, Traffic.answer]
      split
      · rfl
      · simp only [withDue]
        split
        · rfl
        · rfl
    rw [hnext]
    refine ⟨Nat.le_refl _, fun w hw => .inl ?_⟩
    rcases answer_cases ticket result t with ⟨_, heq⟩ | ⟨p, _, _, hwaiting⟩
    · rwa [heq] at hw
    · rw [hwaiting] at hw
      exact (List.mem_filter.mp hw).1
  | resume => exact same rfl rfl
  | logOut => exact same rfl rfl
  | dismissMatch => exact same rfl rfl
  | openRoom id => exact same rfl rfl
  | drift f => exact same rfl rfl

theorem Numbered.step (h : t.Numbered) (e : Event σ) : (t.step e).Numbered := by
  obtain ⟨hnext, hwaiting⟩ := waiting_step t e
  intro w hw
  rcases hwaiting w hw with hw | ⟨hw, hlt⟩
  · exact Nat.lt_of_lt_of_le (h w hw) hnext
  · rw [hw]
    exact hlt

theorem numbered_run (address : String) (paging : Service.Paging) (store : Credential.Store σ)
    (es : List (Event σ)) : ((started address paging store).run es).Numbered := by
  have hrun (t : Traffic σ) (h : t.Numbered) : (t.run es).Numbered := by
    induction es generalizing t with
    | nil => exact h
    | cons e es ih => exact ih (t.step e) (h.step e)
  refine hrun _ fun w hw => ?_
  have hnil : (started address paging store).waiting = [] := rfl
  rw [hnil] at hw
  cases hw

/-- **A ticket is given out once.** What waits under one that had been given out was waiting then,
so an answer that comes later goes to the operation that was begun under the ticket. -/
theorem of_mem_waiting_run {es : List (Event σ)} {w : Ticket × Pending}
    (hw : w ∈ (t.run es).waiting) (hlt : w.1 < t.next) : w ∈ t.waiting := by
  induction es generalizing t with
  | nil => exact hw
  | cons e es ih =>
    obtain ⟨hnext, hwaiting⟩ := waiting_step t e
    rcases hwaiting w (ih hw (Nat.lt_of_lt_of_le hlt hnext)) with hw | ⟨hw, _⟩
    · exact hw
    · rw [hw] at hlt
      exact (Nat.lt_irrefl _ hlt).elim

end Traffic

end Rendezvous.Client
