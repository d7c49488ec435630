/-
The loading flags of the screens: which of them are up, and that none of them stays up.

`SessionState`, `ChatListState` and `ProfileState` have one flag each, `DiscoveryState` one for the
page and one for the matches, `ChatDetailState` one for loading and one for sending. Operations on
one screen overlap as they like. Two of them may have the same flag, and then the first answer
lowers it for both; nothing here says that a flag is up while something is under way. What holds is
the other half, and it is the one that keeps a screen from loading for ever: a flag that is up
belongs to something that is still under way (`no_flag_stuck`).

It rests on three facts about the halves of an operation, each of which looks at every exit once. A
first half that leaves its flag up leaves a request on the way, or the flag was up before
(`begin_raises`); a second half lowers its flag, whatever the answer is (`raised_conclude`); and
neither of them touches the flag of another business, not even between two publications
(`keepsFlag_step`). For the last one a flag is followed as a cell of its own, so that everything
that was published in between is spoken of. The page is the exception to all three, since a decision
claims it for an operation that begins later; the number of its claims is kept in `Paging`.
-/
import Rendezvous.Proofs.Client.Asked

set_option autoImplicit false

namespace Rendezvous.Client

open Credential (Storage)
open Service (Endpoint Failure)
open Web (Response)

variable {σ : Type} {c c' c'' : Client σ} {b : Business}

/-! ## A flag as a cell -/

/-- A part of what a cell holds, as a cell of its own. -/
def Cell.map {α β : Type} (f : α → β) (a : Cell α) : Cell β :=
  ⟨f a.value, a.published.map f⟩

theorem Cell.Keeps.map {α β : Type} {f : α → β} {g : α → α} (hg : ∀ x, f (g x) = f x)
    (a : Cell α) : Cell.Keeps id (a.map f) ((a.modify g).map f) :=
  Cell.Grows.put (a := a.map f) (x := f (g a.value)) (hg a.value)

/-- Everything that the flag of a business has been. A business without a flag counts as one whose
flag is down, and so does a conversation that is not open. -/
def flag (b : Business) (c : Client σ) : Cell Bool :=
  match b with
  | .tokens => c.session.map Session.loading
  | .page => c.deck.map Deck.loading
  | .decision => ⟨false, []⟩
  | .matchList => c.deck.map Deck.loadingMatches
  | .conversations => c.inbox.map Inbox.loading
  | .thread room => (c.rooms[room]?).elim ⟨false, []⟩ fun r => r.thread.map Thread.loading
  | .message room => (c.rooms[room]?).elim ⟨false, []⟩ fun r => r.thread.map Thread.sending
  | .profile => c.own.map OwnProfile.loading

theorem value_flag (b : Business) (c : Client σ) : (c.flag b).value = c.raised b := by
  cases b with
  | thread room | message room =>
    simp only [flag, raised]
    rcases c.rooms[room]? with _ | r
    · rfl
    · rfl
  | _ => rfl

/-- From one client to a later one the flag of a business has been what it was, in all that was
published. -/
abbrev KeepsFlag (b : Business) (c c' : Client σ) : Prop :=
  Cell.Keeps id (c.flag b) (c'.flag b)

theorem KeepsFlag.of_eq (h : c'.flag b = c.flag b) : KeepsFlag b c c' := by
  rw [KeepsFlag, h]
  exact .refl _ _

theorem KeepsFlag.raised (h : KeepsFlag b c c') : c'.raised b = c.raised b := by
  rw [← value_flag, ← value_flag]
  exact h.value

/-- Whatever the flag shows on the way is what it was before. -/
theorem KeepsFlag.eq_of_mem_shown (h : KeepsFlag b c c') {up : Bool}
    (hup : up ∈ Cell.shown (c.flag b) (c'.flag b)) : up = c.raised b := by
  rw [← value_flag]
  exact Cell.Grows.of_mem_shown h hup

/-- What happens on another screen touches no flag of this one. -/
theorem KeepsFlag.of_confined {s : Option Screen} (h : Confined s c c')
    (hs : s ≠ some b.screen) : KeepsFlag b c c' := by
  refine .of_eq ?_
  cases b with
  | tokens => rw [flag, flag, h.session hs]
  | page | matchList => rw [flag, flag, h.deck hs]
  | decision => rfl
  | conversations => rw [flag, flag, h.inbox hs]
  | thread room | message room => rw [flag, flag, h.rooms room hs]
  | profile => rw [flag, flag, h.own hs]

theorem KeepsFlag.of_notes (h : Notes c c') : KeepsFlag b c c' :=
  .of_confined (s := none) (.of_notes h) nofun

/-- A conversation has the flag of a business in one field of its state, or not at all. The flags of
a room count for that room only, so the room has to be compared as well. -/
theorem keepsFlag_onThread {n : Nat} {f : Thread → Thread}
    (hf : (Publication.thread n f).KeepsFlag b) (c : Client σ) :
    KeepsFlag b c (c.onThread n f) := by
  -- another conversation is another screen
  by_cases hs : b.screen = .thread n
  · have hroom := getElem?_onThread_self c n f
    cases b with
    | thread room =>
      obtain rfl := Screen.thread.inj hs
      simp only [KeepsFlag, flag, hroom]
      rcases c.rooms[room]? with _ | r
      · exact .refl _ _
      · exact .map (hf.1 rfl) r.thread
    | message room =>
      obtain rfl := Screen.thread.inj hs
      simp only [KeepsFlag, flag, hroom]
      rcases c.rooms[room]? with _ | r
      · exact .refl _ _
      · exact .map (hf.2 rfl) r.thread
    | _ => cases hs
  · exact .of_confined (confined_publish (.thread n f) c) fun h => hs (Option.some.inj h).symm

/-- **A publication leaves a flag alone** if it says so of each flag on its screen. The flags of all
other screens are out of its reach. -/
theorem keepsFlag_publish {u : Publication} (hu : u.KeepsFlag b) (c : Client σ) :
    KeepsFlag b c (c.publish u) := by
  -- a publication is on one screen, and there it may touch the flags of its own kinds
  cases u with
  | session f =>
    cases b with
    | tokens => exact .map (hu rfl) c.session
    | _ => exact .refl _ _
  | deck f =>
    cases b with
    | page => exact .map (hu.1 rfl) c.deck
    | matchList => exact .map (hu.2 rfl) c.deck
    | _ => exact .refl _ _
  | inbox f =>
    cases b with
    | conversations => exact .map (hu rfl) c.inbox
    | _ => exact .refl _ _
  | own f =>
    cases b with
    | profile => exact .map (hu rfl) c.own
    | _ => exact .refl _ _
  | thread n f => exact keepsFlag_onThread hu c

/-- An operation that has nothing to ask for touches no flag. -/
theorem Operation.keepsFlag_reportUnasked? (op : Operation) (c : Client σ) :
    KeepsFlag b c (c.publish? op.reportUnasked?) := by
  cases op with
  | renew => exact keepsFlag_publish (u := .session (Session.blocked _)) (fun _ _ => rfl) c
  | _ => exact .refl _ _

/-! ## The second half -/

/-- `prefetch` touches no flag unless it claims a page. -/
theorem keepsFlag_claimAhead (c : Client σ) (hclaims : b = .page → c.claimAhead.2 = false) :
    KeepsFlag b c c.claimAhead.1 := by
  rcases claimAhead_cases c with ⟨_, _, hclaim⟩ | ⟨_, hnothing⟩
  · rw [hclaim] at hclaims ⊢
    have hb : Business.page ≠ b := by
      rintro rfl
      exact absurd (hclaims rfl) nofun
    exact (keepsFlag_publish (Business.keepsFlag_announcement hb) c).trans
      (KeepsFlag.of_notes (notes_note .fetchingAhead))
  · rw [hnothing]
    exact .refl _ _

section

variable [Storage σ]

/-- Storing tokens touches no flag but that of the session. -/
theorem keepsFlag_takeTokens (hb : b ≠ .tokens) (pair : Wire.TokenPair) (c : Client σ) :
    KeepsFlag b c (c.takeTokens pair) := by
  refine .of_confined (confined_takeTokens pair c) fun h => hb ?_
  cases b with
  | tokens => rfl
  | _ => cases h

theorem keepsFlag_apply {reply : Reply} (h : reply.KeepsFlag b) (c : Client σ)
    (hclaims : b = .page → (c.apply reply).2 = false) : KeepsFlag b c (c.apply reply).1 := by
  cases reply with
  | shown u => exact keepsFlag_publish h c
  | tokens pair => exact keepsFlag_takeTokens h pair c
  | decision id answer =>
    have hdecided : KeepsFlag b c (c.publish (.deck (Deck.decided id answer))) :=
      keepsFlag_publish (u := .deck (Deck.decided id answer)) ⟨fun _ _ => rfl, fun _ _ => rfl⟩ c
    exact hdecided.trans (keepsFlag_claimAhead _ hclaims)
  | unseen => exact .refl _ _

/-- **A second half touches no other flag**, but for the page that a decision claims. -/
theorem keepsFlag_conclude {purpose : Purpose} (hb : purpose.business? ≠ some b) (e : Endpoint)
    (result : Except Failure Response) (c : Client σ)
    (hclaims : b = .page → (c.conclude purpose e result).2.fetchDue = false) :
    KeepsFlag b c (c.conclude purpose e result).1 := by
  obtain ⟨c₁, hn, hn', hdue⟩ := conclude_spec purpose e result c
  rw [hdue] at hclaims
  exact ((KeepsFlag.of_notes hn).trans
    (keepsFlag_apply (purpose.keepsFlag_reply hb result) c₁ hclaims)).trans
      (KeepsFlag.of_notes hn')

theorem raised_apply {reply : Reply} (h : reply.LowersFlag b) (c : Client σ) :
    (c.apply reply).1.raised b = false := by
  cases reply with
  | shown u => exact raised_publish h c
  | tokens pair =>
    obtain rfl : b = .tokens := h
    simp only [apply, takeTokens]
    rcases c.keepTokens pair.accessToken pair.refreshToken with ⟨c₁, why | ⟨⟩⟩
    · rfl
    · rfl
  | decision id answer =>
    obtain rfl : b = .decision := h
    rfl
  | unseen => exact h.elim

/-- **A second half lowers its flag**, whatever the answer is. -/
theorem raised_conclude {purpose : Purpose} (hb : purpose.business? = some b) (e : Endpoint)
    (result : Except Failure Response) (c : Client σ) :
    (c.conclude purpose e result).1.raised b = false := by
  obtain ⟨c₁, _, hn', _⟩ := conclude_spec purpose e result c
  rw [(KeepsFlag.of_notes hn').raised]
  exact raised_apply (purpose.lowersFlag_reply hb result) c₁

/-! ## The first half -/

/-- A request touches no other flag. -/
theorem keepsFlag_ask {purpose : Purpose} (hb : purpose.business? ≠ some b) (e : Endpoint)
    (c : Client σ) : KeepsFlag b c (c.ask e purpose).1 := by
  rcases ask_cases e purpose c with ⟨c', url, hn, _, hask⟩ | ⟨why, _, hask⟩
  · rw [hask]
    exact .of_notes hn
  · rw [hask]
    exact keepsFlag_conclude hb _ _ _ fun _ => fetchDue_conclude_error ..

/-- A request that leaves its flag up is on the way. -/
theorem ask_raises {e : Endpoint} {purpose : Purpose} (hb : purpose.business? = some b)
    (h : (c.ask e purpose).1.raised b = true) :
    ∃ p, (c.ask e purpose).2 = .waiting p ∧ p.purpose.business? = some b := by
  rcases ask_cases e purpose c with ⟨c', url, _, _, hask⟩ | ⟨why, _, hask⟩
  · rw [hask]
    exact ⟨_, rfl, hb⟩
  · rw [hask, raised_conclude hb] at h
    cases h

/-- A first half touches no other flag than that of its own business, whether it ends at once or
goes on to wait. -/
theorem keepsFlag_begin {op : Operation} (hb : op.business? ≠ some b) (c : Client σ) :
    KeepsFlag b c (c.begin op).1 := by
  obtain ⟨c₁, hn, ⟨_, hbegin⟩ | ⟨e, _, hbegin⟩⟩ := begin_inversion op c
  · rw [hbegin]
    exact (KeepsFlag.of_notes hn).trans (op.keepsFlag_reportUnasked? c₁)
  · have hannounced : KeepsFlag b c₁ (c₁.publish? (op.business?.map Business.announcement)) := by
      rcases hop : op.business? with _ | b'
      · exact .refl _ _
      · have hne : b' ≠ b := by
          rintro rfl
          exact hb hop
        exact keepsFlag_publish (Business.keepsFlag_announcement hne) c₁
    have hpurpose : (op.purpose c).business? ≠ some b := by rwa [op.business?_purpose]
    rw [hbegin]
    exact ((KeepsFlag.of_notes hn).trans hannounced).trans (keepsFlag_ask hpurpose e _)

/-- What an operation asks for is on the way, or the URL cannot be resolved. These are the only two
outcomes, because the endpoint has been found and nothing else can stop the first half. -/
theorem begin_of_endpoint {op : Operation} {e : Endpoint} (he : op.endpoint? c = some e) :
    (∃ p, (c.begin op).2 = .waiting p ∧ p.endpoint = e) ∨
      ∃ why, Service.resolve c.address e = .error why := by
  obtain ⟨c', hprep, ⟨hnone, _⟩ | ⟨e', he', hbegin⟩⟩ := begin_cases op c
  · rw [he] at hnone
    cases hnone
  · obtain rfl := Option.some.inj (he'.symm.trans he)
    rw [hbegin, ← hprep.address]
    rcases ask_cases e' (op.purpose c) c' with ⟨c'', url, _, _, hask⟩ | ⟨why, hwhy, _⟩
    · exact .inl ⟨_, by rw [hask], rfl⟩
    · exact .inr ⟨why, hwhy⟩

/-- **A first half that leaves its flag up** leaves a request on the way, if the flag was not up
before. -/
theorem begin_raises {op : Operation} (hb : op.business? = some b)
    (h : (c.begin op).1.raised b = true) :
    c.raised b = true ∨ ∃ p, (c.begin op).2 = .waiting p ∧ p.purpose.business? = some b := by
  obtain ⟨c₁, hn, ⟨_, hbegin⟩ | ⟨e, _, hbegin⟩⟩ := begin_inversion op c
  · left
    rw [hbegin, op.raised_reportUnasked?, (KeepsFlag.of_notes hn).raised] at h
    exact h
  · right
    rw [hbegin] at h ⊢
    exact ask_raises ((op.business?_purpose c).trans hb) h

end

/-! ## What happens at once -/

theorem keepsFlag_resume [Storage σ] (c : Client σ) : KeepsFlag b c c.resume := by
  have ht : KeepsFlag b c (c.token .access).1 := .of_notes (notes_token .access)
  unfold resume
  generalize c.token .access = r at ht
  obtain ⟨c₁, _ | token⟩ := r
  · exact ht
  · exact (ht.trans (KeepsFlag.of_notes (notes_note .resumed))).trans
      (keepsFlag_publish (u := .session Session.opened) (fun _ _ => rfl) _)

/-- `logout` touches no flag, since it calls off nothing that is under way. -/
theorem keepsFlag_logOut [Storage σ] (c : Client σ) : KeepsFlag b c c.logOut := by
  have hforget : KeepsFlag b c c.forgetTokens.1 := .of_eq (by cases b <;> rfl)
  unfold logOut
  generalize c.forgetTokens = r at hforget
  obtain ⟨c₁, why | ⟨⟩⟩ := r
  · exact (hforget.trans (KeepsFlag.of_notes (notes_note .loggedOut))).trans
      (keepsFlag_publish (u := .session (Session.closed _)) (fun _ _ => rfl) _)
  · exact (hforget.trans (KeepsFlag.of_notes (notes_note .loggedOut))).trans
      (keepsFlag_publish (u := .session (Session.closed _)) (fun _ _ => rfl) _)

/-- A conversation that has just been opened has no flag up. -/
theorem flag_openRoom (id : String) (c : Client σ) : (c.openRoom id).1.flag b = c.flag b := by
  cases b with
  | thread room | message room =>
    simp only [flag, openRoom]
    rcases Nat.lt_trichotomy room c.rooms.length with hlt | rfl | hgt
    · rw [List.getElem?_append_left hlt]
    · rw [List.getElem?_concat_length, List.getElem?_eq_none (Nat.le_refl _)]
      rfl
    · rw [List.getElem?_eq_none (Nat.le_of_lt hgt), List.getElem?_eq_none]
      rw [List.length_append, List.length_singleton]
      exact hgt
  | _ => rfl

/-! ## What is under way -/

namespace Traffic

variable {t : Traffic σ}

/-- Whether an operation with a business is under way: its request has not been answered, or it is a
page that has been claimed and is still to be asked for. -/
def UnderWay (b : Business) (t : Traffic σ) : Prop :=
  (∃ w ∈ t.waiting, w.2.purpose.business? = some b) ∨ b = .page ∧ 0 < t.due

/-- Whether nothing is under way that publishes on a screen. -/
def Idle (s : Screen) (t : Traffic σ) : Prop :=
  (∀ w ∈ t.waiting, w.2.purpose.screen? ≠ some s) ∧ (s = .deck → t.due = 0)

/-- Whether an event is about a business: it begins or ends an operation that is. A decision may
claim a page when it ends, so its answer is about the page as well. -/
def Concerns (t : Traffic σ) (b : Business) : Event σ → Prop
  | .begin op => op.business? = some b
  | .fetchDue => b = .page
  | .answer ticket _ => ∃ p, t.waiting.lookup ticket = some p ∧
      (p.purpose.business? = some b ∨ b = .page ∧ p.purpose.business? = some .decision)
  | _ => False

/-- Nothing is under way on a screen that is idle. -/
theorem Idle.not_underWay (h : t.Idle b.screen) : ¬ t.UnderWay b := by
  rintro (⟨w, hw, hb⟩ | ⟨rfl, hdue⟩)
  · exact h.1 w hw (by rw [Purpose.screen?, hb]; rfl)
  · rw [h.2 rfl] at hdue
    exact Nat.lt_irrefl 0 hdue

/-- What waits goes on waiting while other requests are begun. -/
theorem mem_waiting_of_proceed (r : Client σ × Progress) {w : Ticket × Pending}
    (hw : w ∈ t.waiting) : w ∈ (t.proceed r).1.waiting := by
  rcases proceed_cases r t with ⟨p, _, _, hwaiting⟩ | ⟨e, _, _, hwaiting⟩
  · rw [hwaiting]
    exact List.mem_append_left _ hw
  · rw [hwaiting]
    exact hw

/-- A request that is on the way waits. -/
theorem mem_waiting_of_waiting {r : Client σ × Progress} {p : Pending} (hp : r.2 = .waiting p) :
    (t.next, p) ∈ (t.proceed r).1.waiting := by
  rcases proceed_cases r t with ⟨p', hp', _, hwaiting⟩ | ⟨e, hended, _, _⟩
  · obtain rfl := Progress.waiting.inj (hp'.symm.trans hp)
    rw [hwaiting]
    exact List.mem_append_right _ (List.mem_singleton_self _)
  · rw [hp] at hended
    cases hended

/-- Tickets are distinct, so what waits is found under its own. -/
theorem Distinct.lookup (ht : t.Distinct) {w : Ticket × Pending} (hw : w ∈ t.waiting) :
    t.waiting.lookup w.1 = some w.2 := by
  obtain ⟨before, later, hwaiting⟩ := List.append_of_mem hw
  rw [Distinct, hwaiting, List.map_append, List.map_cons, List.nodup_middle, List.nodup_cons] at ht
  refine List.lookup_eq_some_iff.mpr ⟨before, later, hwaiting, fun v hv => ?_⟩
  refine bne_iff_ne.mpr fun heq => ht.1 (List.mem_append_left _ ?_)
  rw [heq]
  exact List.mem_map_of_mem hv

/-- The flag of the page is up exactly while one page is pending, and a pending page is under
way. -/
theorem Single.underWay_page (ht : t.Single) (hup : t.client.raised .page = true) :
    t.UnderWay .page := by
  have hone : t.pagesPending = 1 := by
    rw [ht.pending]
    exact Bool.toNat_eq_one.mpr hup
  rcases Nat.eq_zero_or_pos t.due with hdue | hdue
  · rw [pagesPending, hdue, Nat.zero_add] at hone
    obtain ⟨w, hw, hpage⟩ := List.countP_pos_iff.mp (Nat.lt_of_lt_of_eq Nat.zero_lt_one hone.symm)
    exact .inl ⟨w, hw, Purpose.isPage_iff.mp hpage⟩
  · exact .inr ⟨rfl, hdue⟩

variable [Storage σ]

/-- **Every event keeps to its flags**: what is about something else does not touch a flag, not even
for a moment. -/
theorem keepsFlag_step {e : Event σ} (he : ¬ t.Concerns b e) :
    KeepsFlag b t.client (t.step e).client := by
  cases e with
  | begin op =>
    rw [begin_client]
    exact keepsFlag_begin he _
  | fetchDue =>
    rcases fetchDue_cases t with heq | ⟨n, _, heq⟩
    · rw [heq]
      exact .refl _ _
    · have hpage : Purpose.page.business? ≠ some b := fun h => he (Option.some.inj h).symm
      rw [heq, proceed_client]
      exact keepsFlag_ask hpage _ _
  | answer ticket result =>
    rcases answer_cases ticket result t with ⟨_, heq⟩ | ⟨p, hp, heq, _⟩
    · rw [heq]
      exact .refl _ _
    · have hb : p.purpose.business? ≠ some b := fun h => he ⟨p, hp, .inl h⟩
      rw [heq]
      -- only a decision claims a page, and this is none
      refine keepsFlag_conclude hb _ _ _ fun hpage => fetchDue_conclude ?_ _ _ _
      refine eq_false_of_ne_true fun hdecision => he ⟨p, hp, .inr ⟨hpage, ?_⟩⟩
      exact Purpose.business?_eq_decision.mpr (Purpose.isDecision_iff.mp hdecision)
  | resume => exact keepsFlag_resume _
  | logOut => exact keepsFlag_logOut _
  | dismissMatch =>
    exact keepsFlag_publish (u := .deck Deck.noted) ⟨fun _ _ => rfl, fun _ _ => rfl⟩ _
  | openRoom id => exact .of_eq (flag_openRoom ..)
  | drift f => exact .of_eq (by cases b <;> rfl)

/-- What waits goes on waiting until something happens to it. The event may be the answer to another
request of the same kind, which is why tickets have to be distinct here. -/
theorem waiting_step_of_not_concerns (ht : t.Distinct) {e : Event σ} (he : ¬ t.Concerns b e)
    (h : ∃ w ∈ t.waiting, w.2.purpose.business? = some b) :
    ∃ w ∈ (t.step e).waiting, w.2.purpose.business? = some b := by
  obtain ⟨w, hw, hb⟩ := h
  cases e with
  | begin op => exact ⟨w, mem_waiting_of_proceed _ hw, hb⟩
  | fetchDue =>
    rcases fetchDue_cases t with heq | ⟨n, _, heq⟩
    · rw [heq]
      exact ⟨w, hw, hb⟩
    · rw [heq]
      exact ⟨w, mem_waiting_of_proceed (t := { t with due := n }) _ hw, hb⟩
  | answer ticket result =>
    rcases answer_cases ticket result t with ⟨_, heq⟩ | ⟨p, hp, _, hwaiting⟩
    · rw [heq]
      exact ⟨w, hw, hb⟩
    · -- under the ticket waits something else
      have hne : w.1 ≠ ticket := by
        rintro rfl
        exact he ⟨w.2, ht.lookup hw, .inl hb⟩
      rw [hwaiting]
      exact ⟨w, List.mem_filter.mpr ⟨hw, bne_iff_ne.mpr hne⟩, hb⟩
  | resume | logOut | dismissMatch | openRoom id | drift f => exact ⟨w, hw, hb⟩

/-- What is about a business and leaves its flag up leaves it under way, or the flag was up
before. -/
theorem underWay_step_of_concerns {e : Event σ} (he : t.Concerns b e) (hpage : b ≠ .page)
    (hup : (t.step e).client.raised b = true) :
    (∃ w ∈ (t.step e).waiting, w.2.purpose.business? = some b) ∨
      t.client.raised b = true ∧ ∀ w ∈ t.waiting, w ∈ (t.step e).waiting := by
  cases e with
  | begin op =>
    rw [begin_client] at hup
    rcases begin_raises he hup with hup | ⟨p, hp, hb⟩
    · exact .inr ⟨hup, fun w hw => mem_waiting_of_proceed _ hw⟩
    · exact .inl ⟨(t.next, p), mem_waiting_of_waiting hp, hb⟩
  | fetchDue => exact absurd he hpage
  | answer ticket result =>
    -- the second half of an operation lowers the flag that the first half has raised
    obtain ⟨p, hp, hb | ⟨hb, _⟩⟩ := he
    · rcases answer_cases ticket result t with ⟨hno, _⟩ | ⟨p', hp', hclient, _⟩
      · rw [hno] at hp
        cases hp
      · obtain rfl := Option.some.inj (hp'.symm.trans hp)
        rw [hclient, settle, raised_conclude hb] at hup
        cases hup
    · exact absurd hb hpage
  | resume | logOut | dismissMatch | openRoom id | drift f => exact he.elim

/-- Every flag that is up belongs to something that is under way. The count of the pages goes with
it, since the flag of the page is known through it. -/
structure Lit (t : Traffic σ) : Prop where
  single : t.Single
  underWay : ∀ {b}, t.client.raised b = true → t.UnderWay b

/-- **One event.** If it is not about the business, the flag was up before and what it belongs to
goes on waiting; if it is, the event leaves something under way or has lowered the flag. -/
theorem Lit.step (h : t.Lit) (e : Event σ) : (t.step e).Lit where
  single := h.single.step e
  underWay {b} hup := by
    by_cases hpage : b = .page
    · subst hpage
      exact (h.single.step e).underWay_page hup
    · have old (hup : t.client.raised b = true) :
          ∃ w ∈ t.waiting, w.2.purpose.business? = some b :=
        (h.underWay hup).resolve_right fun hp => hpage hp.1
      left
      by_cases he : t.Concerns b e
      · rcases underWay_step_of_concerns he hpage hup with hnew | ⟨hup, hwaiting⟩
        · exact hnew
        · obtain ⟨w, hw, hb⟩ := old hup
          exact ⟨w, hwaiting w hw, hb⟩
      · rw [(keepsFlag_step he).raised] at hup
        exact waiting_step_of_not_concerns h.single.distinct he (old hup)

theorem Lit.run (h : t.Lit) (es : List (Event σ)) : (t.run es).Lit := by
  induction es generalizing t with
  | nil => exact h
  | cons e es ih => exact ih (h.step e)

theorem lit_started (address : String) (paging : Service.Paging) (store : Credential.Store σ) :
    (started address paging store).Lit where
  single := single_started address paging store
  underWay {b} hup := by
    have hdown : (started address paging store).client.raised b = false :=
      (keepsFlag_resume ({ address, paging, store } : Client σ)).raised.trans (by cases b <;> rfl)
    rw [hdown] at hup
    cases hup

/-- A flag that is up at some moment of an event belongs to something that is under way before or
after it, or that the event begins. -/
theorem Lit.of_mem_shown (h : t.Lit) {e : Event σ}
    (hup : true ∈ Cell.shown (t.client.flag b) ((t.step e).client.flag b)) :
    t.UnderWay b ∨ (t.step e).UnderWay b ∨ ∃ op, e = .begin op ∧ op.business? = some b := by
  have kept (hkeeps : KeepsFlag b t.client (t.step e).client) : t.UnderWay b :=
    h.underWay (hkeeps.eq_of_mem_shown hup).symm
  by_cases he : t.Concerns b e
  · cases e with
    | begin op => exact .inr (.inr ⟨op, rfl, he⟩)
    | fetchDue =>
      rcases fetchDue_cases t with heq | ⟨n, hdue, _⟩
      · exact .inl (kept (.of_eq (by rw [heq])))
      · exact .inl (.inr ⟨he, by omega⟩)
    | answer ticket result =>
      obtain ⟨p, hp, hb | ⟨rfl, hb⟩⟩ := he
      · exact .inl (.inl ⟨(ticket, p), mem_waiting_of_lookup hp, hb⟩)
      · -- a decision that claims a page leaves it due, and one that does not touches no flag
        rcases answer_cases ticket result t with ⟨hno, _⟩ | ⟨p', hp', hclient, _⟩
        · rw [hno] at hp
          cases hp
        · obtain rfl := Option.some.inj (hp'.symm.trans hp)
          rcases hdue : (t.client.settle p' result).2.fetchDue with _ | _
          · refine .inl (kept ?_)
            rw [hclient]
            exact keepsFlag_conclude (fun hpage => by rw [hb] at hpage; cases hpage) _ _ _
              fun _ => hdue
          · have hstep := due_answer hp result
            rw [hdue] at hstep
            exact .inr (.inl (.inr ⟨rfl, Nat.lt_of_lt_of_eq (Nat.succ_pos _) hstep.symm⟩))
    | resume | logOut | dismissMatch | openRoom id | drift f => exact he.elim
  · exact .inl (kept (keepsFlag_step he))

/-- The flags of a client follow what is under way. The last two fields are about any event that may
come next, and about every state that is published in it, not only the one it ends in: a subscriber
sees those too. -/
structure FlagsFollowWork (t : Traffic σ) : Prop where
  /-- a flag that is up belongs to something that is under way -/
  underWay : ∀ b, t.client.raised b = true → t.UnderWay b
  /-- so on a screen where nothing is under way every flag is down -/
  down_of_idle : ∀ b, t.Idle b.screen → t.client.raised b = false
  /-- an event touches no flag of a business that it is not about -/
  untouched : ∀ b e, ¬ t.Concerns b e →
    ∀ up ∈ Cell.shown (t.client.flag b) ((t.step e).client.flag b), up = t.client.raised b
  /-- a flag that is up at any moment of an event is raised by something that is under way before
  or after it, or begun by it -/
  shown_up : ∀ b e, true ∈ Cell.shown (t.client.flag b) ((t.step e).client.flag b) →
    t.UnderWay b ∨ (t.step e).UnderWay b ∨ ∃ op, e = .begin op ∧ op.business? = some b

/-- **No flag gets stuck.** Let anything happen to a client, in any order, with any answers, and any
number of operations overlap: its flags follow what is under way. Only this direction is promised.
The first of two logins to be answered lowers the flag for both, so a flag may be down while
something is under way; what `Lit` carries from step to step is that it is never up without it. -/
theorem no_flag_stuck (address : String) (paging : Service.Paging) (store : Credential.Store σ)
    (es : List (Event σ)) : ((started address paging store).run es).FlagsFollowWork := by
  have ht : ((started address paging store).run es).Lit :=
    (lit_started address paging store).run es
  generalize (started address paging store).run es = t at ht
  exact {
    underWay := fun b hup => ht.underWay hup
    down_of_idle := fun b hidle =>
      eq_false_of_ne_true fun hup => hidle.not_underWay (ht.underWay hup)
    untouched := fun b e he up hup => (keepsFlag_step he).eq_of_mem_shown hup
    shown_up := fun b e => ht.of_mem_shown }

/-- Two logins overlap, and the first of them is refused; meanwhile the matches are asked for. -/
def overlapping : List (Event Credential.Entries) :=
  [.begin (.logIn ⟨"ada", "secret"⟩), .begin .loadMatches, .begin (.logIn ⟨"ada", "secret"⟩),
    .answer 0 (.ok notKnown)]

theorem no_flag_stuck_overlapping :
    (unknownMember.run overlapping).client.raised .matchList = true ∧
    (unknownMember.run overlapping).UnderWay .matchList ∧
    ¬ (unknownMember.run overlapping).Concerns .matchList (.answer 2 (.ok notKnown)) ∧
    (unknownMember.run (overlapping ++ [.answer 2 (.ok notKnown)])).client.raised .matchList =
      true := by
  have hup : (unknownMember.run overlapping).client.raised .matchList = true := by decide +kernel
  have hother : ¬ (unknownMember.run overlapping).Concerns .matchList
      (.answer 2 (.ok notKnown)) := by
    rintro ⟨p, hp, hb | ⟨hpage, _⟩⟩
    · -- under the ticket waits the second login
      have hscreen : ((unknownMember.run overlapping).waiting.lookup 2).map
          (fun p => p.purpose.screen?) = some (some .session) := by decide +kernel
      rw [hp, Option.map_some, Purpose.screen?, hb] at hscreen
      exact absurd hscreen (by decide)
    · cases hpage
  have hflags := no_flag_stuck "http://host" {} { vault := [] } overlapping
  refine ⟨hup, hflags.underWay _ hup, hother, ?_⟩
  rw [run_concat, ← hup]
  exact hflags.untouched .matchList (.answer 2 (.ok notKnown)) hother _ (List.mem_cons_self ..)

end Traffic

end Rendezvous.Client
