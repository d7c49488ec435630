/-
What an operation leaves alone while nothing has come of it.

Until something has come of an operation, all that it may publish is the flag of its business and
the error message of its screen. `Spares` says so about any stretch of time: of everything that any
screen has published in between, the rest is as it was, and so are the stored tokens. The rest of a
screen is the screen with flag and message blanked out (`Session.rest` and its siblings), so that
the statement is an equation and nothing can be missing from it; a list of fields that stay would be
silent about a field that is added later.

It composes, and a publication keeps to it by one lemma (`spares_publish`). The tables of
announcements and reports are looked through for it once each.
-/
import Rendezvous.Proofs.Client.Session

set_option autoImplicit false

namespace Rendezvous.Client

open Credential (Storage)

variable {σ : Type} {c c' c'' : Client σ}

/-! ## What a business has on its screen -/

/-- Whether the conversation that a business is about, if any, has been opened. -/
def Business.Open (c : Client σ) : Business → Prop
  | thread room | message room => room < c.rooms.length
  | _ => True

/-- The error message on the screen of a business. -/
def error? (b : Business) (c : Client σ) : Option String :=
  match b with
  | .tokens => c.session.value.error
  | .page | .decision | .matchList => c.deck.value.error
  | .conversations => c.inbox.value.error
  | .thread room | .message room => (c.rooms[room]?).bind fun r => r.thread.value.error
  | .profile => c.own.value.error

/-- Whether the flag of a business is up. A conversation that is not open has none. -/
def raised (b : Business) (c : Client σ) : Bool :=
  match b with
  | .tokens => c.session.value.loading
  | .page => c.deck.value.loading
  | .decision => false
  | .matchList => c.deck.value.loadingMatches
  | .conversations => c.inbox.value.loading
  | .thread room => (c.rooms[room]?).any fun r => r.thread.value.loading
  | .message room => (c.rooms[room]?).any fun r => r.thread.value.sending
  | .profile => c.own.value.loading

/-! ## The rest of a screen -/

/-- A session but for the flag and the message of a business. -/
def Session.rest (b : Business) (s : Session) : Session :=
  match b with
  | .tokens => { s with loading := false, error := none }
  | _ => s

/-- A deck but for the flag and the message of a business. -/
def Deck.rest (b : Business) (d : Deck) : Deck :=
  match b with
  | .page => { d with loading := false, error := none }
  | .decision => { d with error := none }
  | .matchList => { d with loadingMatches := false, error := none }
  | _ => d

/-- An inbox but for the flag and the message of a business. -/
def Inbox.rest (b : Business) (i : Inbox) : Inbox :=
  match b with
  | .conversations => { i with loading := false, error := none }
  | _ => i

/-- A conversation but for the flag and the message of a business, if it is about that one. -/
def Thread.rest (b : Business) (room : Nat) (t : Thread) : Thread :=
  match b with
  | .thread n => if n = room then { t with loading := false, error := none } else t
  | .message n => if n = room then { t with sending := false, error := none } else t
  | _ => t

theorem Thread.rest_thread_self (room : Nat) (t : Thread) :
    t.rest (.thread room) room = { t with loading := false, error := none } :=
  if_pos rfl

theorem Thread.rest_message_self (room : Nat) (t : Thread) :
    t.rest (.message room) room = { t with sending := false, error := none } :=
  if_pos rfl

/-- The own profile but for the flag and the message of a business. -/
def OwnProfile.rest (b : Business) (o : OwnProfile) : OwnProfile :=
  match b with
  | .profile => { o with loading := false, error := none }
  | _ => o

/-- From `before` on the cell has only published values that `g` cannot tell from the one then. -/
abbrev Cell.Keeps {α β : Type} (g : α → β) (before after : Cell α) : Prop :=
  Cell.Grows (fun x => g x = g before.value) before after

theorem Cell.Keeps.refl {α β : Type} (g : α → β) (a : Cell α) : Cell.Keeps g a a :=
  Cell.Grows.refl rfl

theorem Cell.Keeps.modify {α β : Type} {g : α → β} {f : α → α} (hf : ∀ x, g (f x) = g x)
    (a : Cell α) : Cell.Keeps g a (a.modify f) :=
  Cell.Grows.modify (hf a.value)

theorem Cell.Keeps.trans {α β : Type} {g : α → β} {a₁ a₂ a₃ : Cell α} (h : Cell.Keeps g a₁ a₂)
    (h' : Cell.Keeps g a₂ a₃) : Cell.Keeps g a₁ a₃ := by
  refine Cell.Grows.trans h ?_
  have heq : g a₂.value = g a₁.value := h.value
  unfold Cell.Keeps at h'
  rwa [heq] at h'

/-! ## Leaving alone -/

/-- An open conversation is still the same one, and of its state only the flag and the message of a
business may have changed. -/
structure Room.Spared (b : Business) (room : Nat) (r r' : Room) : Prop where
  conversationId : r'.conversationId = r.conversationId
  thread : Cell.Keeps (Thread.rest b room) r.thread r'.thread

/-- From one client to a later one: the rest of every screen has stayed as it was in all that was
published, and so have the stored tokens. -/
structure Spares [Storage σ] [Storage.Lawful σ] (b : Business) (c c' : Client σ) : Prop where
  kept : c'.kept = c.kept
  session : Cell.Keeps (Session.rest b) c.session c'.session
  deck : Cell.Keeps (Deck.rest b) c.deck c'.deck
  inbox : Cell.Keeps (Inbox.rest b) c.inbox c'.inbox
  own : Cell.Keeps (OwnProfile.rest b) c.own c'.own
  roomCount : c'.rooms.length = c.rooms.length
  rooms : ∀ {room r r'}, c.rooms[room]? = some r → c'.rooms[room]? = some r' →
    Room.Spared b room r r'

section

variable [Storage σ] [Storage.Lawful σ] {b : Business}

theorem Room.Spared.of_eq {l : List Room} {room : Nat} {r r' : Room} (hr : l[room]? = some r)
    (hr' : l[room]? = some r') : Room.Spared b room r r' := by
  obtain rfl := Option.some.inj (hr.symm.trans hr')
  exact ⟨rfl, .refl _ _⟩

theorem Spares.of_notes (h : Notes c c') : Spares b c c' := by
  obtain ⟨ns, rfl⟩ := h
  exact {
    kept := rfl
    session := .refl _ _
    deck := .refl _ _
    inbox := .refl _ _
    own := .refl _ _
    roomCount := rfl
    rooms := .of_eq }

theorem Spares.refl (b : Business) (c : Client σ) : Spares b c c :=
  .of_notes .refl

theorem Spares.trans (h : Spares b c c') (h' : Spares b c' c'') : Spares b c c'' where
  kept := h'.kept.trans h.kept
  session := h.session.trans h'.session
  deck := h.deck.trans h'.deck
  inbox := h.inbox.trans h'.inbox
  own := h.own.trans h'.own
  roomCount := h'.roomCount.trans h.roomCount
  rooms {room r r''} hr hr'' := by
    -- the conversation was open in between as well
    have hlt : room < c'.rooms.length := by
      rw [← h'.roomCount]
      exact (List.getElem?_eq_some_iff.mp hr'').1
    have hr' := List.getElem?_eq_getElem hlt
    have h₁ := h.rooms hr hr'
    have h₂ := h'.rooms hr' hr''
    exact ⟨h₂.conversationId.trans h₁.conversationId, h₁.thread.trans h₂.thread⟩

/-- A pair that could not be stored leaves the stored tokens as they were. -/
theorem spares_keepTokens {access refresh : String} {why : Credential.Failure}
    (h : (c.store.save access refresh).2.1 = .error why) :
    Spares b c (c.keepTokens access refresh).1 where
  kept := Credential.Store.kept_save_error h
  session := .refl _ _
  deck := .refl _ _
  inbox := .refl _ _
  own := .refl _ _
  roomCount := rfl
  rooms := .of_eq

/-- Whether a publication is about the flag and the message of a business only. -/
def Publication.LeavesRest (b : Business) : Publication → Prop
  | session f => ∀ s, Session.rest b (f s) = Session.rest b s
  | deck f => ∀ d, Deck.rest b (f d) = Deck.rest b d
  | inbox f => ∀ i, Inbox.rest b (f i) = Inbox.rest b i
  | thread room f => ∀ t, Thread.rest b room (f t) = Thread.rest b room t
  | own f => ∀ o, OwnProfile.rest b (f o) = OwnProfile.rest b o

theorem spares_onThread {n : Nat} {f : Thread → Thread}
    (hf : ∀ t, Thread.rest b n (f t) = Thread.rest b n t) (c : Client σ) :
    Spares b c (c.onThread n f) where
  kept := rfl
  session := .refl _ _
  deck := .refl _ _
  inbox := .refl _ _
  own := .refl _ _
  roomCount := List.length_modify ..
  rooms {room r r'} hr hr' := by
    -- only one room is touched
    by_cases hn : n = room
    · subst hn
      rw [getElem?_onThread_self, hr] at hr'
      rw [← Option.some.inj hr']
      exact ⟨rfl, .modify hf _⟩
    · have hother : (c.onThread n f).rooms[room]? = c.rooms[room]? :=
        List.getElem?_modify_ne _ _ hn
      rw [hother] at hr'
      exact .of_eq hr hr'

/-- **A publication spares what it is not about.** -/
theorem spares_publish {u : Publication} (hu : u.LeavesRest b) (c : Client σ) :
    Spares b c (c.publish u) := by
  cases u with
  | session f => exact { Spares.refl b c with session := .modify hu _ }
  | deck f => exact { Spares.refl b c with deck := .modify hu _ }
  | inbox f => exact { Spares.refl b c with inbox := .modify hu _ }
  | own f => exact { Spares.refl b c with own := .modify hu _ }
  | thread room f => exact spares_onThread hu c

/-! What a business announces and reports is its flag and its message. -/

theorem Business.leavesRest_announcement (b : Business) : b.announcement.LeavesRest b := by
  cases b with
  | thread room =>
    intro t
    rw [Thread.rest_thread_self, Thread.rest_thread_self]
    rfl
  | message room =>
    intro t
    rw [Thread.rest_message_self, Thread.rest_message_self]
    rfl
  | _ => exact fun _ => rfl

theorem Business.leavesRest_report (why : String) (b : Business) :
    (b.report why).LeavesRest b := by
  cases b with
  | thread room =>
    intro t
    rw [Thread.rest_thread_self, Thread.rest_thread_self]
    rfl
  | message room =>
    intro t
    rw [Thread.rest_message_self, Thread.rest_message_self]
    rfl
  | _ => exact fun _ => rfl

/-- A renewal without a refresh token publishes an error message and nothing else. -/
theorem Operation.spares_reportUnasked? {op : Operation} (hb : op.business? = some b)
    (c : Client σ) :
    Spares b c (c.publish? op.reportUnasked?) := by
  cases op with
  | renew =>
    obtain rfl := Option.some.inj hb
    exact spares_publish (u := .session (Session.blocked _)) (fun _ => rfl) c
  | _ => exact .refl b c

/-- A conversation that was open stays open. -/
theorem Spares.open (h : Spares b c c') (hopen : b.Open c) : b.Open c' := by
  cases b with
  | thread room => exact Nat.lt_of_lt_of_eq hopen h.roomCount.symm
  | message room => exact Nat.lt_of_lt_of_eq hopen h.roomCount.symm
  | _ => trivial

end

/-! ## Flags -/

variable {b : Business}

/-- Whether a publication leaves the flag of a business as it is. Where a screen has two flags, a
publication answers for both. -/
def Publication.KeepsFlag (b : Business) : Publication → Prop
  | session f => b = .tokens → ∀ s, (f s).loading = s.loading
  | deck f => (b = .page → ∀ d, (f d).loading = d.loading) ∧
      (b = .matchList → ∀ d, (f d).loadingMatches = d.loadingMatches)
  | inbox f => b = .conversations → ∀ i, (f i).loading = i.loading
  | thread room f => (b = .thread room → ∀ t, (f t).loading = t.loading) ∧
      (b = .message room → ∀ t, (f t).sending = t.sending)
  | own f => b = .profile → ∀ o, (f o).loading = o.loading

/-- Whether a publication takes the flag of a business down. A decision has none. -/
def Publication.LowersFlag : Business → Publication → Prop
  | .tokens, session f => ∀ s, (f s).loading = false
  | .page, deck f => ∀ d, (f d).loading = false
  | .matchList, deck f => ∀ d, (f d).loadingMatches = false
  | .conversations, inbox f => ∀ i, (f i).loading = false
  | .thread n, thread room f => n = room ∧ ∀ t, (f t).loading = false
  | .message n, thread room f => n = room ∧ ∀ t, (f t).sending = false
  | .profile, own f => ∀ o, (f o).loading = false
  | .decision, _ => True
  | _, _ => False

/-- The flag of a business is down after a publication that takes it down. The screen is compared
first: a publication on another screen cannot be one that lowers this flag. -/
theorem raised_publish {u : Publication} (hu : u.LowersFlag b) (c : Client σ) :
    (c.publish u).raised b = false := by
  cases b with
  | decision => rfl
  | thread n =>
    cases u with
    | thread room f =>
      obtain ⟨rfl, hf⟩ := hu
      simp only [raised, publish, getElem?_onThread_self]
      rcases c.rooms[n]? with _ | r
      · rfl
      · exact hf r.thread.value
    | _ => exact hu.elim
  | message n =>
    cases u with
    | thread room f =>
      obtain ⟨rfl, hf⟩ := hu
      simp only [raised, publish, getElem?_onThread_self]
      rcases c.rooms[n]? with _ | r
      · rfl
      · exact hf r.thread.value
    | _ => exact hu.elim
  | _ =>
    -- of the remaining businesses each has a screen of its own, and the flag stands on it
    cases u <;> first | exact hu.elim | exact hu _

theorem Business.lowersFlag_report (why : String) (b : Business) :
    (b.report why).LowersFlag b := by
  cases b with
  | thread | message => exact ⟨rfl, fun _ => rfl⟩
  | decision => trivial
  | _ => exact fun _ => rfl

/-- The message of a report is on the screen, if the screen is there. -/
theorem error?_report {why : String} (hopen : b.Open c) :
    (c.publish (b.report why)).error? b = some why := by
  cases b with
  | thread room | message room =>
    simp only [error?, publish, Business.report, getElem?_onThread_self]
    rw [List.getElem?_eq_getElem hopen]
    rfl
  | _ => rfl

/-- What is published without asking raises no flag and lowers none. -/
theorem Operation.raised_reportUnasked? (op : Operation) (c : Client σ) :
    (c.publish? op.reportUnasked?).raised b = c.raised b := by
  cases op with
  | renew => cases b <;> rfl
  | _ => rfl

/-! Where the tables touch a flag, it is the flag of the business. A decision is no exception here:
the page that it may claim is claimed behind its publication. -/

theorem Business.keepsFlag_announcement {b' : Business} (h : b' ≠ b) :
    b'.announcement.KeepsFlag b := by
  cases b' with
  | tokens | conversations | profile => exact fun hb => absurd hb.symm h
  | page => exact ⟨fun hb => absurd hb.symm h, fun _ _ => rfl⟩
  | decision => exact ⟨fun _ _ => rfl, fun _ _ => rfl⟩
  | matchList => exact ⟨fun _ _ => rfl, fun hb => absurd hb.symm h⟩
  | thread room => exact ⟨fun hb => absurd hb.symm h, fun _ _ => rfl⟩
  | message room => exact ⟨fun _ _ => rfl, fun hb => absurd hb.symm h⟩

theorem Business.keepsFlag_report (why : String) {b' : Business} (h : b' ≠ b) :
    (b'.report why).KeepsFlag b := by
  cases b' with
  | tokens | conversations | profile => exact fun hb => absurd hb.symm h
  | page => exact ⟨fun hb => absurd hb.symm h, fun _ _ => rfl⟩
  | decision => exact ⟨fun _ _ => rfl, fun _ _ => rfl⟩
  | matchList => exact ⟨fun _ _ => rfl, fun hb => absurd hb.symm h⟩
  | thread room => exact ⟨fun hb => absurd hb.symm h, fun _ _ => rfl⟩
  | message room => exact ⟨fun _ _ => rfl, fun hb => absurd hb.symm h⟩

/-- Whether carrying out a reply leaves the flag of a business as it is, but for the page that a
decision claims. -/
def Reply.KeepsFlag (b : Business) : Reply → Prop
  | shown u => u.KeepsFlag b
  | tokens _ => b ≠ .tokens
  | decision .. | unseen => True

/-- Whether carrying out a reply takes the flag of a business down. -/
def Reply.LowersFlag (b : Business) : Reply → Prop
  | shown u => u.LowersFlag b
  | tokens _ => b = .tokens
  | decision .. => b = .decision
  | unseen => False

theorem Payload.keepsFlag_reply {x : Payload} (h : x.business ≠ b) : x.reply.KeepsFlag b := by
  cases x with
  | tokens way pair => exact h.symm
  | decision id answer => trivial
  | conversations | profile => exact fun hb => absurd hb.symm h
  | page | thread => exact ⟨fun hb => absurd hb.symm h, fun _ _ => rfl⟩
  | matchList | message => exact ⟨fun _ _ => rfl, fun hb => absurd hb.symm h⟩

theorem Payload.lowersFlag_reply (x : Payload) : x.reply.LowersFlag x.business := by
  cases x with
  | tokens | decision => rfl
  | thread | message => exact ⟨rfl, fun _ => rfl⟩
  | _ => exact fun _ => rfl

theorem Purpose.keepsFlag_reply {purpose : Purpose} (h : purpose.business? ≠ some b)
    (result : Except Service.Failure Web.Response) : (purpose.reply result).KeepsFlag b := by
  have hverdict := purpose.verdict result
  generalize purpose.reply result = reply at hverdict
  cases hverdict with
  | unseen => trivial
  | refused hb => exact Business.keepsFlag_report _ fun heq => h (heq ▸ hb)
  | brought hb => exact Payload.keepsFlag_reply fun heq => h (heq ▸ hb)

theorem Purpose.lowersFlag_reply {purpose : Purpose} (h : purpose.business? = some b)
    (result : Except Service.Failure Web.Response) : (purpose.reply result).LowersFlag b := by
  have hverdict := purpose.verdict result
  generalize purpose.reply result = reply at hverdict
  cases hverdict with
  | unseen hb =>
    rw [h] at hb
    cases hb
  | refused hb =>
    obtain rfl := Option.some.inj (hb.symm.trans h)
    exact Business.lowersFlag_report _ _
  | brought hb =>
    obtain rfl := Option.some.inj (hb.symm.trans h)
    exact Payload.lowersFlag_reply _

end Rendezvous.Client
