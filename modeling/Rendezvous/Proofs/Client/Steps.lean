/-
What the steps of a client leave alone.

An answer decides about the hand of the deck, the session, what is said in the open conversations,
and the stored tokens. The rest of what is published are flags and error messages, and `Prepared`
says of a stretch of time that nothing else happened in it. The first half of every operation is
such a stretch up to its request (`begin_cases`), and so is a second half without a payload; the
invariants on these four therefore have only the answers left to look at.

`Traffic.Faithful` is what ties the second half of a decision to the first: the answer to it counts
for the candidate that the request named.
-/
import Rendezvous.Proofs.Client.Halves
import Rendezvous.Proofs.Client.Published

set_option autoImplicit false

namespace Rendezvous.Client

open Credential (Storage)
open Service (Endpoint Failure)
open Web (Request Response)

variable {σ : Type} {c c' c'' : Client σ} {room : Nat}

/-! ## What answers decide about -/

/-- The part of `DiscoveryState` that only answers and dismissals decide about: the page, the cursor
on it, and the match that has not been acknowledged. -/
structure Hand where
  candidates : List Wire.Candidate := []
  cursor : Nat := 0
  pendingMatch : Option Wire.Match := none

/-- The hand of a deck. -/
def Deck.hand (d : Deck) : Hand :=
  ⟨d.candidates, d.cursor, d.pendingMatch⟩

/-- From `before` on the cell has only published decks with the hand `h`. -/
abbrev Holds (h : Hand) (before after : Cell Deck) : Prop :=
  Cell.Grows (fun d => d.hand = h) before after

/-- The part of `ChatDetailState` that only answers decide about: the header and the messages. -/
structure Talk where
  conversation : Option Wire.Conversation := none
  messages : List Wire.Message := []

/-- The talk of a thread. -/
def Thread.talk (t : Thread) : Talk :=
  ⟨t.conversation, t.messages⟩

/-- A conversation that something was published on. -/
theorem getElem?_onThread_self (c : Client σ) (room : Nat) (f : Thread → Thread) :
    (c.onThread room f).rooms[room]? =
      (c.rooms[room]?).map fun r => { r with thread := r.thread.modify f } :=
  List.getElem?_modify_eq ..

/-- The cell of a conversation; a fresh one if no controller has this number. -/
def threadCell (room : Nat) (c : Client σ) : Cell Thread :=
  (c.rooms[room]?).elim ⟨{}, []⟩ Room.thread

/-- From `before` on the cell has only published threads with the talk `k`. -/
abbrev Says (k : Talk) (before after : Cell Thread) : Prop :=
  Cell.Grows (fun t => t.talk = k) before after

theorem threadCell_congr (h : c'.rooms[room]? = c.rooms[room]?) :
    c'.threadCell room = c.threadCell room := by
  rw [threadCell, threadCell, h]

theorem says_of_rooms_eq (h : c'.rooms[room]? = c.rooms[room]?) :
    Says (c.threadCell room).value.talk (c.threadCell room) (c'.threadCell room) := by
  rw [threadCell_congr h]
  exact Cell.Grows.refl rfl

/-- Publishing on an open conversation. -/
theorem threadCell_onThread (hopen : room < c.rooms.length) (f : Thread → Thread) :
    (c.onThread room f).threadCell room = (c.threadCell room).modify f := by
  rw [threadCell, threadCell, getElem?_onThread_self, List.getElem?_eq_getElem hopen]
  rfl

/-- What is published on an open conversation decides what it says. -/
theorem says_onThread (hopen : room < c.rooms.length) {f : Thread → Thread} {k : Talk}
    (hf : (f (c.threadCell room).value).talk = k) :
    Says k (c.threadCell room) ((c.onThread room f).threadCell room) := by
  rw [threadCell_onThread hopen]
  exact Cell.Grows.modify hf

/-- Publishing on a conversation opens and closes none. -/
theorem roomIds_onThread (n : Nat) (f : Thread → Thread) (c : Client σ) :
    (c.onThread n f).roomIds = c.roomIds := by
  refine List.ext_getElem? fun room => ?_
  simp only [roomIds, onThread, List.getElem?_map, List.getElem?_modify, Option.map_eq_map,
    Option.map_map]
  refine congrArg (fun g => Option.map g c.rooms[room]?) ?_
  funext r
  simp only [Function.comp_apply]
  split
  · rfl
  · rfl

/-! ## Keeping to flags and messages -/

/-- Between two moments nothing has happened that answers decide about: no deck with another hand
has been published, no session with another flag, and no conversation with other messages; no
conversation was opened, and the tokens are as they were. The log has grown at most. -/
structure Prepared (c c' : Client σ) : Prop where
  address : c'.address = c.address
  store : c'.store = c.store
  roomIds : c'.roomIds = c.roomIds
  notices : c.notices <+: c'.notices
  deck : Holds c.deck.value.hand c.deck c'.deck
  session : Cell.Grows (fun s => s.authenticated = c.session.value.authenticated)
    c.session c'.session
  talk : ∀ room, room < c.rooms.length →
    Says (c.threadCell room).value.talk (c.threadCell room) (c'.threadCell room)

theorem Prepared.of_notes (h : Notes c c') : Prepared c c' where
  address := h.address
  store := h.store
  roomIds := h.roomIds
  notices := h.notices
  deck := h.deck ▸ Cell.Grows.refl rfl
  session := h.session ▸ Cell.Grows.refl rfl
  talk _ _ := says_of_rooms_eq (by rw [h.rooms])

theorem Prepared.trans (h : Prepared c c') (h' : Prepared c' c'') : Prepared c c'' where
  address := h'.address.trans h.address
  store := h'.store.trans h.store
  roomIds := h'.roomIds.trans h.roomIds
  notices := h.notices.trans h'.notices
  -- the second step starts from the value that the first one has kept, so the two histories join
  deck := by
    have hdeck := h'.deck
    rw [show c'.deck.value.hand = c.deck.value.hand from h.deck.value] at hdeck
    exact h.deck.trans hdeck
  session := by
    have hsession := h'.session
    rw [show c'.session.value.authenticated = c.session.value.authenticated from
      h.session.value] at hsession
    exact h.session.trans hsession
  talk room hopen := by
    have hfirst := h.talk room hopen
    have hsecond := h'.talk room (by rwa [← length_roomIds, h.roomIds, length_roomIds])
    rw [show (c'.threadCell room).value.talk = (c.threadCell room).value.talk from
      hfirst.value] at hsecond
    exact hfirst.trans hsecond

/-- Whether a publication keeps to flags and error messages. The other screens have nothing but
flags and data that the invariants here do not speak of. -/
def Publication.Discreet : Publication → Prop
  | session f => ∀ s, (f s).authenticated = s.authenticated
  | deck f => ∀ d, (f d).hand = d.hand
  | thread _ f => ∀ t, (f t).talk = t.talk
  | inbox _ | own _ => True

theorem Prepared.publish {u : Publication} (hu : u.Discreet) (c : Client σ) :
    Prepared c (c.publish u) := by
  have hrefl : Prepared c c := .of_notes .refl
  cases u with
  | session f => exact { hrefl with session := Cell.Grows.modify (hu c.session.value) }
  | deck f => exact { hrefl with deck := Cell.Grows.modify (hu c.deck.value) }
  | thread n f =>
    refine { hrefl with roomIds := roomIds_onThread n f c, talk := fun room hopen => ?_ }
    by_cases hn : n = room
    · subst hn
      exact says_onThread hopen (hu _)
    · exact says_of_rooms_eq (List.getElem?_modify_ne _ _ hn)
  | inbox f => exact { hrefl with }
  | own f => exact { hrefl with }

theorem Prepared.publish? {u : Option Publication} (hu : ∀ u' ∈ u, u'.Discreet) (c : Client σ) :
    Prepared c (c.publish? u) := by
  rcases u with _ | u
  · exact .of_notes .refl
  · exact .publish (hu u rfl) c

/-! What a business announces and what it reports are flags and messages, and so is what is
published without asking. -/

theorem Business.discreet_announcement (b : Business) : b.announcement.Discreet := by
  cases b with
  | conversations | profile => trivial
  | _ => exact fun _ => rfl

theorem Business.discreet_report (why : String) (b : Business) : (b.report why).Discreet := by
  cases b with
  | conversations | profile => trivial
  | _ => exact fun _ => rfl

/-- Whether a reply keeps to flags and messages. -/
def Reply.Discreet : Reply → Prop
  | shown u => u.Discreet
  | unseen => True
  | tokens _ | decision .. => False

/-- A second half keeps to flags and error messages if its reply does. This is the case of every
failure, and of an answer that says nothing new about the deck or a conversation. -/
theorem Prepared.conclude [Storage σ] {purpose : Purpose} {result : Except Failure Response}
    (h : (purpose.reply result).Discreet) (e : Endpoint) (c : Client σ) :
    Prepared c (c.conclude purpose e result).1 := by
  obtain ⟨c₁, hn, hn', _⟩ := conclude_spec purpose e result c
  have happly : Prepared c₁ (c₁.apply (purpose.reply result)).1 := by
    generalize purpose.reply result = reply at h
    cases reply with
    | shown u => exact .publish h c₁
    | unseen => exact .of_notes .refl
    | tokens | decision => exact h.elim
  exact ((Prepared.of_notes hn).trans happly).trans (.of_notes hn')

theorem Operation.discreet_reportUnasked? (op : Operation) :
    ∀ u ∈ op.reportUnasked?, u.Discreet := by
  cases op with
  | renew =>
    rintro u ⟨⟩
    exact fun _ => rfl
  | _ =>
    rintro u ⟨⟩

/-- `prefetch` raises a flag at most. -/
theorem Prepared.claimAhead (c : Client σ) : Prepared c c.claimAhead.1 := by
  rcases claimAhead_cases c with ⟨_, _, hclaim⟩ | ⟨_, hnothing⟩
  · rw [hclaim]
    exact (Prepared.publish Business.page.discreet_announcement c).trans
      (.of_notes (notes_note .fetchingAhead))
  · rw [hnothing]
    exact .of_notes .refl

/-- **How operations begin.** Something is announced, which changes nothing that answers decide
about; then the operation ends, or it asks for its endpoint. -/
theorem begin_cases [Storage σ] (op : Operation) (c : Client σ) :
    ∃ c', Prepared c c' ∧ ((op.endpoint? c = none ∧ c.begin op = (c', .ended .plain)) ∨
      ∃ e, op.endpoint? c = some e ∧ c.begin op = c'.ask e (op.purpose c)) := by
  obtain ⟨c₁, hn, ⟨hnone, hbegin⟩ | ⟨e, he, hbegin⟩⟩ := begin_inversion op c
  · exact ⟨_, (Prepared.of_notes hn).trans (.publish? op.discreet_reportUnasked? c₁),
      .inl ⟨hnone, hbegin⟩⟩
  · refine ⟨_, (Prepared.of_notes hn).trans (.publish? ?_ c₁), .inr ⟨e, he, hbegin⟩⟩
    intro u hu
    obtain ⟨b, _, rfl⟩ := Option.map_eq_some_iff.mp hu
    exact b.discreet_announcement

theorem Purpose.discreet_reply_error (purpose : Purpose) (why : Failure) :
    (purpose.reply (.error why)).Discreet := by
  rw [reply_error]
  rcases purpose.business? with _ | b
  · trivial
  · exact b.discreet_report _

theorem Prepared.ask [Storage σ] (e : Endpoint) (purpose : Purpose) (c : Client σ) :
    Prepared c (c.ask e purpose).1 := by
  rcases ask_cases e purpose c with ⟨c', url, hn, _, hask⟩ | ⟨why, _, hask⟩
  · rw [hask]
    exact .of_notes hn
  · rw [hask]
    exact .conclude (purpose.discreet_reply_error why) e c

/-- **First halves keep to flags and error messages**, also where the operation ends with them
because the URL cannot be resolved. -/
theorem Prepared.begin [Storage σ] (op : Operation) (c : Client σ) :
    Prepared c (c.begin op).1 := by
  obtain ⟨c', hprep, ⟨_, hbegin⟩ | ⟨e, _, hbegin⟩⟩ := begin_cases op c
  · rw [hbegin]
    exact hprep
  · rw [hbegin]
    exact hprep.trans (.ask e (op.purpose c) c')

/-- What waits after a first half is what the operation asks for. Its request is written with the
base URL and the access token of the time before it, since announcing changes neither. -/
theorem begin_waiting [Storage σ] {op : Operation} {p : Pending}
    (h : (c.begin op).2 = .waiting p) :
    ∃ e url, op.endpoint? c = some e ∧ Service.resolve c.address e = .ok url ∧
      p = ⟨op.purpose c, e, Service.requestAt url (c.store.token .access).1 e⟩ := by
  obtain ⟨c', hprep, ⟨_, hbegin⟩ | ⟨e, he, hbegin⟩⟩ := begin_cases op c
  · rw [hbegin] at h
    cases h
  · rw [hbegin] at h
    obtain ⟨url, hurl, hp⟩ := ask_waiting h
    rw [hprep.address] at hurl
    rw [hprep.store] at hp
    exact ⟨e, url, he, hurl, hp⟩

theorem endpoint_of_begin [Storage σ] {op : Operation} {p : Pending}
    (h : (c.begin op).2 = .waiting p) :
    op.endpoint? c = some p.endpoint ∧ p.purpose.business? = op.business? := by
  obtain ⟨e, url, he, _, rfl⟩ := begin_waiting h
  exact ⟨he, op.business?_purpose c⟩

/-- A decision is remembered for the card on top, and that is the one that the request names. Both
are taken from one snapshot of the deck. -/
theorem namesCandidate_purpose [Storage σ] {op : Operation} {e : Endpoint}
    (he : op.endpoint? c = some e) : NamesCandidate (op.purpose c) e := by
  intro id hid
  cases op with
  | swipe direction =>
    obtain ⟨candidate, hcurrent, rfl⟩ := Option.map_eq_some_iff.mp he
    simp only [Operation.purpose, hcurrent] at hid
    exact Purpose.decision.inj hid
  | _ => cases hid

/-! ## What is on the way -/

namespace Traffic

variable {t : Traffic σ}

theorem withDue_client (due : Bool) : (t.withDue due).client = t.client := by
  cases due <;> rfl

theorem withDue_waiting (due : Bool) : (t.withDue due).waiting = t.waiting := by
  cases due <;> rfl

theorem proceed_client (r : Client σ × Progress) : (t.proceed r).1.client = r.1 := by
  obtain ⟨c, p | e⟩ := r
  · rfl
  · exact withDue_client e.fetchDue

/-- Going on after the first half of an operation: its request is on the way under the next ticket,
or it has ended. -/
theorem proceed_cases (r : Client σ × Progress) (t : Traffic σ) :
    (∃ p, r.2 = .waiting p ∧ (t.proceed r).2 = (t.next, .sent p.request) ∧
      (t.proceed r).1.waiting = t.waiting ++ [(t.next, p)]) ∨
    ∃ e, r.2 = .ended e ∧ (t.proceed r).2 = (t.next, .ended e.outcome) ∧
      (t.proceed r).1.waiting = t.waiting := by
  obtain ⟨c, p | e⟩ := r
  · exact .inl ⟨p, rfl, rfl, rfl⟩
  · exact .inr ⟨e, rfl, rfl, withDue_waiting e.fetchDue⟩

/-- What is found under a ticket is on the way. -/
theorem mem_waiting_of_lookup {ticket : Ticket} {p : Pending}
    (hp : t.waiting.lookup ticket = some p) : (ticket, p) ∈ t.waiting := by
  obtain ⟨before, later, hwaiting, _⟩ := List.lookup_eq_some_iff.mp hp
  rw [hwaiting]
  exact List.mem_append_right before (List.mem_cons_self ..)

theorem mem_waiting_proceed {r : Client σ × Progress} {w : Ticket × Pending}
    (hw : w ∈ (t.proceed r).1.waiting) : w ∈ t.waiting ∨ w.1 = t.next ∧ r.2 = .waiting w.2 := by
  rcases proceed_cases r t with ⟨p, hp, _, hwaiting⟩ | ⟨e, _, _, hwaiting⟩
  · rw [hwaiting] at hw
    rcases List.mem_append.mp hw with hw | hw
    · exact .inl hw
    · rw [List.mem_singleton.mp hw]
      exact .inr ⟨rfl, hp⟩
  · rw [hwaiting] at hw
    exact .inl hw

/-- The client after an operation has begun. -/
theorem begin_client [Storage σ] (op : Operation) (t : Traffic σ) :
    (t.step (.begin op)).client = (t.client.begin op).1 :=
  proceed_client _

/-- The spawned task of `prefetch`: there is no claimed page, or one is asked for. -/
theorem fetchDue_cases [Storage σ] (t : Traffic σ) :
    t.step .fetchDue = t ∨
      ∃ n, t.due = n + 1 ∧
        t.step .fetchDue = (proceed t.client.fetchPage { t with due := n }).1 := by
  simp only [step, Traffic.fetchDue]
  rcases t.due with _ | n
  · exact .inl rfl
  · refine .inr ⟨n, rfl, ?_⟩
    dsimp only

/-- Answering: nothing is on the way under the ticket, or the request is concluded and taken off the
list. -/
theorem answer_cases [Storage σ] (ticket : Ticket) (result : Except Failure Response)
    (t : Traffic σ) :
    (t.waiting.lookup ticket = none ∧ t.step (.answer ticket result) = t) ∨
      ∃ p, t.waiting.lookup ticket = some p ∧
        (t.step (.answer ticket result)).client = (t.client.settle p result).1 ∧
        (t.step (.answer ticket result)).waiting = t.waiting.filter (·.1 != ticket) := by
  simp only [step, Traffic.answer]
  rcases hlookup : t.waiting.lookup ticket with _ | p
  · exact .inl ⟨rfl, rfl⟩
  · exact .inr ⟨p, rfl, withDue_client _, withDue_waiting _⟩

/-- Every request on the way is remembered for what it says. -/
def Faithful (t : Traffic σ) : Prop :=
  ∀ w ∈ t.waiting, NamesCandidate w.2.purpose w.2.endpoint

theorem Faithful.proceed {r : Client σ × Progress} (h : t.Faithful)
    (hr : ∀ p, r.2 = .waiting p → NamesCandidate p.purpose p.endpoint) :
    (t.proceed r).1.Faithful := by
  intro w hw
  rcases mem_waiting_proceed hw with hw | ⟨_, hw⟩
  · exact h w hw
  · exact hr w.2 hw

/-- A request is only ever remembered for what it says. This is an invariant of the requests alone,
so no assumption about the screens is needed. -/
theorem Faithful.step [Storage σ] (h : t.Faithful) (e : Event σ) : (t.step e).Faithful := by
  cases e with
  | begin op =>
    refine h.proceed fun p hp => ?_
    obtain ⟨e, url, he, _, rfl⟩ := begin_waiting hp
    exact namesCandidate_purpose he
  | fetchDue =>
    rcases fetchDue_cases t with heq | ⟨n, _, heq⟩
    · rw [heq]
      exact h
    · rw [heq]
      refine Faithful.proceed (t := { t with due := n }) h fun p hp => ?_
      -- a page is no decision, so there is nothing that it has to say
      obtain ⟨url, _, rfl⟩ := ask_waiting hp
      exact fun _ hno => nomatch hno
  | answer ticket result =>
    intro w hw
    rcases answer_cases ticket result t with ⟨_, heq⟩ | ⟨p, _, _, hwaiting⟩
    · rw [heq] at hw
      exact h w hw
    · rw [hwaiting] at hw
      exact h w (List.mem_filter.mp hw).1
  | resume => exact h
  | logOut => exact h
  | dismissMatch => exact h
  | openRoom id => exact h
  | drift f => exact h

end Traffic

end Rendezvous.Client
