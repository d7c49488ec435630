/-
The two halves of an operation, each said once.

`Client.begin` has twelve branches and `Client.conclude` nine, one for every asynchronous method of
`SessionController`, `DiscoveryController`, `ChatListController`, `ChatDetailController` and
`ProfileController`. Nothing in the modules after this one opens either of them again, and the
reason is that the branches differ in data only. What is published is one of five kinds of update of
one screen (`Publication`); which one it is follows from what the operation is about (`Business`),
so it stands in three short tables: `Business.announcement` for the begin, `Business.report` for a
failure, `Payload.reply` for an answer that came.

- `begin_inversion` is the first half: it ends because there is nothing to ask for, or it publishes
  the announcement of its business and asks for `Operation.endpoint?`.
- `ask_cases` is the request itself: it is on the way, or the URL cannot be resolved and the second
  half follows at once.
- `conclude_spec` is the second half: it reads the answer, which logs something at most, and applies
  a `Reply`; and `Purpose.verdict` says which reply that is.

A new operation is a line in each table, and an invariant needs one lemma about a publication and
one look at each table.

`Notes` comes first because all of this is true up to what is logged on the way: reading a token,
writing a request and reading an answer change nothing else.
-/
import Rendezvous.Client.Operation
import Rendezvous.Proofs.Client.Run

set_option autoImplicit false

namespace Rendezvous.Client

open Credential (Storage)
open Service (Endpoint Failure)
open Web (Request Response)

variable {σ : Type} {c c' c'' : Client σ}

/-! ## Noting -/

/-- The second client is the first one after it has logged something, or nothing. It is stated as an
equation and not field by field, so that every field but the log comes out of it by `rfl`. -/
def Notes (c c' : Client σ) : Prop :=
  ∃ ns, c' = { c with notices := c.notices ++ ns }

theorem Notes.refl : Notes c c :=
  ⟨[], by rw [List.append_nil]⟩

theorem Notes.trans (h : Notes c c') (h' : Notes c' c'') : Notes c c'' := by
  obtain ⟨ns, rfl⟩ := h
  obtain ⟨ms, rfl⟩ := h'
  exact ⟨ns ++ ms, by simp only [List.append_assoc]⟩

theorem Notes.deck (h : Notes c c') : c'.deck = c.deck := by
  obtain ⟨ns, rfl⟩ := h; rfl

theorem Notes.session (h : Notes c c') : c'.session = c.session := by
  obtain ⟨ns, rfl⟩ := h; rfl

theorem Notes.store (h : Notes c c') : c'.store = c.store := by
  obtain ⟨ns, rfl⟩ := h; rfl

theorem Notes.address (h : Notes c c') : c'.address = c.address := by
  obtain ⟨ns, rfl⟩ := h; rfl

theorem Notes.paging (h : Notes c c') : c'.paging = c.paging := by
  obtain ⟨ns, rfl⟩ := h; rfl

theorem Notes.rooms (h : Notes c c') : c'.rooms = c.rooms := by
  obtain ⟨ns, rfl⟩ := h; rfl

/-- The identifiers of the conversations that have been opened, in that order. -/
def roomIds (c : Client σ) : List String :=
  c.rooms.map Room.conversationId

theorem length_roomIds (c : Client σ) : c.roomIds.length = c.rooms.length :=
  List.length_map ..

theorem Notes.roomIds (h : Notes c c') : c'.roomIds = c.roomIds := by
  obtain ⟨ns, rfl⟩ := h; rfl

theorem Notes.notices (h : Notes c c') : c.notices <+: c'.notices := by
  obtain ⟨ns, rfl⟩ := h
  exact ⟨ns, rfl⟩

theorem notes_note (n : Notice) : Notes c (c.note n) :=
  ⟨[n], rfl⟩

theorem notes_noteAll (ns : List Credential.Notice) : Notes c (c.noteAll ns) :=
  ⟨ns.map .credential, rfl⟩

theorem notes_token [Storage σ] (t : Credential.Token) : Notes c (c.token t).1 :=
  notes_noteAll _

theorem notes_noteMatch (matched : Option Wire.Match) : Notes c (c.noteMatch matched) := by
  rcases matched with _ | m
  · exact Notes.refl
  · exact notes_note _

theorem notes_accept (e : Endpoint) (result : Except Failure Response) :
    Notes c (c.accept e result).1 := by
  unfold accept
  split
  · exact Notes.refl
  · split
    · exact Notes.refl
    · exact notes_note _

theorem notes_receive {α : Type} (codec : Json.Codec α) (e : Endpoint)
    (result : Except Failure Response) : Notes c (c.receive codec e result).1 := by
  have h := notes_accept (c := c) e result
  unfold receive
  generalize c.accept e result = r at h
  obtain ⟨c₁, why | body⟩ := r
  · exact h
  · dsimp only at h ⊢
    split
    · exact h
    · exact h.trans (notes_note _)

theorem notes_concludePlain (kind : Option Wire.Kind) (e : Endpoint)
    (result : Except Failure Response) : Notes c (c.concludePlain kind e result).1 := by
  rcases kind with _ | k
  · exact notes_accept e result
  · exact notes_receive k.codec e result

/-! ## Reading an answer

`received` of the runs says whether an answer holds a value; `reading` also says why it holds none.
Neither looks at the client, and that is the point: two clients, or one client at two times, read
the same answer alike. -/

/-- The value that an answer holds, or why it holds none. -/
def reading {α : Type} (codec : Json.Codec α) (result : Except Failure Response) :
    Except Failure α :=
  match result with
  | .error why => .error why
  | .ok r =>
    if Web.isSuccess r.status then (codec.decode r.body).mapError Failure.undecodable
    else .error (.refused r.status r.body)

theorem receive_eq_reading {α : Type} (codec : Json.Codec α) (e : Endpoint)
    (result : Except Failure Response) (c : Client σ) :
    (c.receive codec e result).2 = reading codec result := by
  rcases result with why | r
  · rfl
  · simp only [receive, accept, reading]
    by_cases hr : Web.isSuccess r.status = true
    · simp only [hr, if_true]
      rcases codec.decode r.body with why | a
      · rfl
      · rfl
    · simp only [hr]
      rfl

/-- What is received is what is read, without the reason for it if there is nothing. -/
theorem received_eq_toOption {α : Type} (codec : Json.Codec α)
    (result : Except Failure Response) :
    received codec result = (reading codec result).toOption := by
  rcases result with why | r
  · rfl
  · simp only [received, reading]
    by_cases hr : Web.isSuccess r.status = true
    · simp only [hr, if_true]
      rcases codec.decode r.body with why | a
      · rfl
      · rfl
    · simp only [hr]
      rfl

/-- What has been read has been received. -/
theorem received_of_reading {α : Type} {codec : Json.Codec α} {result : Except Failure Response}
    {a : α} (h : reading codec result = .ok a) : received codec result = some a := by
  rw [received_eq_toOption, h]
  rfl

/-- What has been received has been read. -/
theorem reading_of_received {α : Type} {codec : Json.Codec α} {result : Except Failure Response}
    {a : α} (h : received codec result = some a) : reading codec result = .ok a := by
  rw [received_eq_toOption] at h
  rcases hreading : reading codec result with why | a'
  · rw [hreading] at h
    cases h
  · rw [hreading] at h
    exact congrArg Except.ok (Option.some.inj h)

/-- An answer that brings nothing, and why: there is none, its status is not one of success, or its
body is not what was asked for. -/
inductive Refuses {α : Type} (codec : Json.Codec α) : Except Failure Response → Failure → Prop
  | unanswered (why : Failure) : Refuses codec (.error why) why
  | refused {r : Response} (hstatus : ¬ (200 ≤ r.status ∧ r.status ≤ 299)) :
      Refuses codec (.ok r) (.refused r.status r.body)
  | undecodable {r : Response} {e : Json.DecodeError} (hstatus : 200 ≤ r.status ∧ r.status ≤ 299)
      (hbody : codec.decode r.body = .error e) : Refuses codec (.ok r) (.undecodable e)

theorem isSuccess_iff (status : UInt16) :
    Web.isSuccess status = true ↔ 200 ≤ status ∧ status ≤ 299 := by
  rw [Web.isSuccess, Bool.and_eq_true, decide_eq_true_iff, decide_eq_true_iff]

/-- **What brings nothing is what cannot be read**, for the same reason. The direction from right to
left is that there is no further way to fail. -/
theorem refuses_iff {α : Type} {codec : Json.Codec α} {result : Except Failure Response}
    {why : Failure} : Refuses codec result why ↔ reading codec result = .error why := by
  constructor
  · intro h
    cases h with
    | unanswered => rfl
    | refused hstatus =>
      rw [← isSuccess_iff] at hstatus
      exact if_neg hstatus
    | undecodable hstatus hbody =>
      rw [← isSuccess_iff] at hstatus
      simp only [reading, if_pos hstatus, hbody]
      rfl
  · intro h
    rcases result with why' | r
    · rw [show why' = why from Except.error.inj h]
      exact .unanswered why
    · -- an answer is refused for its status, or else for its body
      by_cases hstatus : 200 ≤ r.status ∧ r.status ≤ 299
      · have hsuccess := (isSuccess_iff r.status).mpr hstatus
        rcases hbody : codec.decode r.body with e | a
        · simp only [reading, if_pos hsuccess, hbody] at h
          rw [← Except.error.inj h]
          exact .undecodable hstatus hbody
        · simp only [reading, if_pos hsuccess, hbody] at h
          cases h
      · have hno : ¬ Web.isSuccess r.status = true := by rwa [isSuccess_iff]
        rw [reading, if_neg hno] at h
        rw [← Except.error.inj h]
        exact .refused hstatus

/-! ## Screens and businesses -/

/-- The five controllers, by what they show. A `ChatDetailController` goes by its number. -/
inductive Screen
  | session
  | deck
  | inbox
  | thread (room : Nat)
  | own
deriving DecidableEq

/-- What an operation is about. Several businesses may share a screen, and then each of them has a
flag of its own on it (a decision has none). -/
inductive Business
  | tokens
  | page
  | decision
  | matchList
  | conversations
  | thread (room : Nat)
  | message (room : Nat)
  | profile

/-- The screen of a business. -/
def Business.screen : Business → Screen
  | tokens => .session
  | page | decision | matchList => .deck
  | conversations => .inbox
  | thread room | message room => .thread room
  | profile => .own

/-- An answer that brings nothing to a business. -/
def Business.Refuses (b : Business) : Except Failure Response → Failure → Prop :=
  match b with
  | tokens => Client.Refuses Wire.TokenPair.codec
  | page => Client.Refuses Wire.Page.codec
  | decision => Client.Refuses Wire.SwipeResult.codec
  | matchList => Client.Refuses Wire.MatchList.codec
  | conversations => Client.Refuses Wire.ConversationList.codec
  | thread _ => Client.Refuses Wire.Transcript.codec
  | message _ => Client.Refuses Wire.Message.codec
  | profile => Client.Refuses Wire.Profile.codec

/-- What an operation is about; none of it is on a screen if an endpoint is asked for plainly. -/
def Operation.business? : Operation → Option Business
  | .logIn _ | .register _ | .renew => some .tokens
  | .loadPage => some .page
  | .swipe _ => some .decision
  | .loadMatches => some .matchList
  | .loadConversations => some .conversations
  | .loadThread room => some (.thread room)
  | .send room _ => some (.message room)
  | .loadProfile | .updateProfile _ => some .profile
  | .plain .. => none

/-- What an answer is about. -/
def Purpose.business? : Purpose → Option Business
  | .tokens _ => some .tokens
  | .page => some .page
  | .decision _ => some .decision
  | .matchList => some .matchList
  | .conversations => some .conversations
  | .thread room => some (.thread room)
  | .message room => some (.message room)
  | .profile => some .profile
  | .plain _ => none

/-- What a payload is about. -/
def Payload.business : Payload → Business
  | tokens .. => .tokens
  | page _ => .page
  | decision .. => .decision
  | matchList _ => .matchList
  | conversations _ => .conversations
  | thread room _ => .thread room
  | message room _ => .message room
  | profile _ => .profile

/-- The screen that an operation publishes on, if any. -/
def Operation.screen? (op : Operation) : Option Screen :=
  op.business?.map Business.screen

/-- The screen that an answer is published on, if any. -/
def Purpose.screen? (purpose : Purpose) : Option Screen :=
  purpose.business?.map Business.screen

/-! The operations and purposes of a business, where one is asked for by name. -/

theorem Operation.business?_eq_decision {op : Operation} :
    op.business? = some .decision ↔ ∃ direction, op = .swipe direction := by
  cases op <;> simp [business?]

theorem Purpose.business?_eq_page {purpose : Purpose} :
    purpose.business? = some .page ↔ purpose = .page := by
  cases purpose <;> simp [business?]

theorem Purpose.business?_eq_decision {purpose : Purpose} :
    purpose.business? = some .decision ↔ ∃ id, purpose = .decision id := by
  cases purpose <;> simp [business?]

theorem Purpose.business?_eq_thread {purpose : Purpose} {room : Nat} :
    purpose.business? = some (.thread room) ↔ purpose = .thread room := by
  cases purpose <;> simp [business?]

theorem Purpose.business?_eq_message {purpose : Purpose} {room : Nat} :
    purpose.business? = some (.message room) ↔ purpose = .message room := by
  cases purpose <;> simp [business?]

theorem Purpose.screen?_eq_session {purpose : Purpose} :
    purpose.screen? = some .session ↔ ∃ way, purpose = .tokens way := by
  cases purpose <;> simp [screen?, business?, Business.screen]

/-! ## Publications -/

/-- What is published on one screen: how its state follows from the one before. -/
inductive Publication
  | session (f : Session → Session)
  | deck (f : Deck → Deck)
  | inbox (f : Inbox → Inbox)
  | thread (room : Nat) (f : Thread → Thread)
  | own (f : OwnProfile → OwnProfile)

/-- The screen of a publication. -/
def Publication.screen : Publication → Screen
  | session _ => .session
  | deck _ => .deck
  | inbox _ => .inbox
  | thread room _ => .thread room
  | own _ => .own

/-- Publish something on its screen. -/
def publish (u : Publication) (c : Client σ) : Client σ :=
  match u with
  | .session f => c.onSession f
  | .deck f => c.onDeck f
  | .inbox f => c.onInbox f
  | .thread room f => c.onThread room f
  | .own f => c.onOwn f

/-- Publish something, or nothing. -/
def publish? (u : Option Publication) (c : Client σ) : Client σ :=
  u.elim c fun u => c.publish u

theorem address_publish (u : Publication) (c : Client σ) : (c.publish u).address = c.address := by
  cases u <;> rfl

/-- What a business publishes when it begins to ask: its flag goes up, if it has one, and the
message of what went wrong before is dropped. -/
def Business.announcement : Business → Publication
  | tokens => .session Session.asking
  | page => .deck fun d => { d with loading := true, error := none }
  | decision => .deck Deck.deciding
  | matchList => .deck Deck.askingMatches
  | conversations => .inbox Inbox.asking
  | thread room => .thread room Thread.asking
  | message room => .thread room Thread.posting
  | profile => .own OwnProfile.asking

/-- What a business publishes when it comes to nothing: its flag goes down, and the message says
why. -/
def Business.report (why : String) : Business → Publication
  | tokens => .session (Session.denied why)
  | page => .deck (Deck.notDealt why)
  | decision => .deck (Deck.undecided why)
  | matchList => .deck (Deck.matchesStayedAway why)
  | conversations => .inbox (Inbox.notFilled why)
  | thread room => .thread room (Thread.notShown why)
  | message room => .thread room (Thread.notPosted why)
  | profile => .own (OwnProfile.notAdopted why)

/-- What an operation publishes that has nothing to ask for. Only a renewal without a refresh token
publishes an error; the others return early, since a claimed page, an empty deck or a blank text is
no failure. -/
def Operation.reportUnasked? : Operation → Option Publication
  | .renew => some (.session (Session.blocked noRefreshToken.userMessage))
  | _ => none

theorem Business.screen_announcement (b : Business) : b.announcement.screen = b.screen := by
  cases b <;> rfl

theorem Business.screen_report (why : String) (b : Business) :
    (b.report why).screen = b.screen := by
  cases b <;> rfl

/-! ## The request -/

/-- **Asking.** Either a request is on the way, with the access token that was stored when it was
written, or the address of the endpoint cannot be read and the operation is concluded with that. -/
theorem ask_cases [Storage σ] (e : Endpoint) (purpose : Purpose) (c : Client σ) :
    (∃ c' url, Notes c c' ∧ Service.resolve c.address e = .ok url ∧
      c.ask e purpose = (c', .waiting
        ⟨purpose, e, Service.requestAt url (c.store.token .access).1 e⟩)) ∨
    ∃ why, Service.resolve c.address e = .error why ∧
      c.ask e purpose = ((c.conclude purpose e (.error why)).1,
        .ended (c.conclude purpose e (.error why)).2) := by
  rcases hurl : Service.resolve c.address e with why | url
  · right
    exact ⟨why, rfl, by simp only [ask, request, hurl]⟩
  · left
    -- the token is read before the request is noted, and both are notes
    have hask : c.ask e purpose = ((c.token .access).1.note
        (.sending (Service.requestAt url (c.token .access).2 e).method
          (String.ofList (Service.requestAt url (c.token .access).2 e).url.path.text)),
        .waiting ⟨purpose, e, Service.requestAt url (c.token .access).2 e⟩) := by
      simp only [ask, request, hurl]
    exact ⟨_, url, (notes_token .access).trans (notes_note _), rfl, hask⟩

/-- If a request is on the way, it is the one that was asked for. -/
theorem ask_waiting [Storage σ] {e : Endpoint} {purpose : Purpose} {p : Pending}
    (h : (c.ask e purpose).2 = .waiting p) :
    ∃ url, Service.resolve c.address e = .ok url ∧
      p = ⟨purpose, e, Service.requestAt url (c.store.token .access).1 e⟩ := by
  rcases ask_cases e purpose c with ⟨c', url, _, hurl, hask⟩ | ⟨why, _, hask⟩
  · rw [hask] at h
    exact ⟨url, hurl, (Progress.waiting.inj h).symm⟩
  · rw [hask] at h
    cases h

/-- What waits after a page has been asked for is that page. -/
theorem fetchPage_waiting [Storage σ] {p : Pending} (h : c.fetchPage.2 = .waiting p) :
    p.purpose = .page ∧ p.endpoint = .candidates c.paging.pageSize := by
  obtain ⟨_, _, rfl⟩ := ask_waiting h
  exact ⟨rfl, rfl⟩

/-! ## The first half -/

/-- `begin_loading` with the flag down: the flag goes up, and the page is claimed. -/
theorem claimPage_of_down (h : c.deck.value.loading = false) :
    c.claimPage = (c.publish Business.page.announcement, true) := by
  have hclaim : Deck.claim? c.deck.value =
      some { c.deck.value with loading := true, error := none } := by
    rw [Deck.claim?, h]
    rfl
  simp only [claimPage, Cell.modify?, hclaim]
  rfl

/-- `begin_loading` with the flag up: nothing happens. -/
theorem claimPage_of_up (h : c.deck.value.loading = true) : c.claimPage = (c, false) := by
  have hclaim : Deck.claim? c.deck.value = none := by
    rw [Deck.claim?, if_pos h]
  simp only [claimPage, Cell.modify?_of_eq_none hclaim]

/-- `prefetch`: a page is claimed if the flag is down and few candidates are left, and this is
logged; otherwise nothing happens at all. -/
theorem claimAhead_cases (c : Client σ) :
    (c.deck.value.remaining ≤ c.paging.threshold ∧ c.deck.value.loading = false ∧
      c.claimAhead = ((c.publish Business.page.announcement).note .fetchingAhead, true)) ∨
    ((c.deck.value.remaining ≤ c.paging.threshold → c.deck.value.loading = true) ∧
      c.claimAhead = (c, false)) := by
  by_cases hfew : c.deck.value.remaining ≤ c.paging.threshold
  · rcases hl : c.deck.value.loading with _ | _
    · left
      refine ⟨hfew, rfl, ?_⟩
      simp only [claimAhead, if_pos hfew, claimPage_of_down hl]
    · right
      refine ⟨fun _ => rfl, ?_⟩
      simp only [claimAhead, if_pos hfew, claimPage_of_up hl]
  · right
    exact ⟨fun h => absurd h hfew, by simp only [claimAhead, if_neg hfew]⟩

/-- What an operation asks for. There is nothing to ask for without a refresh token, while a page is
claimed, with no card on top, or with a blank text. -/
def Operation.endpoint? [Storage σ] (c : Client σ) : Operation → Option Endpoint
  | .logIn credentials => some (.logIn credentials)
  | .register credentials => some (.register credentials)
  | .renew => (c.token .refresh).2.map fun t => .renew ⟨t⟩
  | .loadPage => if c.deck.value.loading then none else some (.candidates c.paging.pageSize)
  | .swipe direction =>
    c.deck.value.current?.map fun candidate => .swipe ⟨candidate.id, direction⟩
  | .loadMatches => some .matchList
  | .loadConversations => some .conversations
  | .loadThread room => some (.conversation (c.roomId room))
  | .send room text =>
    if (Text.trimmed text).isEmpty then none
    else some (.send (c.roomId room) ⟨Text.trimmed text⟩)
  | .loadProfile => some .profile
  | .updateProfile update => some (.updateProfile update)
  | .plain endpoint _ => some endpoint

/-- What the answer to an operation is for. A decision is remembered for the candidate under the
cursor, which is the one that its request names (`Operation.endpoint?`). -/
def Operation.purpose (c : Client σ) : Operation → Purpose
  | .logIn _ => .tokens .login
  | .register _ => .tokens .registration
  | .renew => .tokens .renewal
  | .loadPage => .page
  | .swipe _ => .decision (c.deck.value.current?.elim "" Wire.Candidate.id)
  | .loadMatches => .matchList
  | .loadConversations => .conversations
  | .loadThread room => .thread room
  | .send room _ => .message room
  | .loadProfile | .updateProfile _ => .profile
  | .plain _ kind => .plain kind

theorem Operation.business?_purpose (op : Operation) (c : Client σ) :
    (op.purpose c).business? = op.business? := by
  cases op <;> rfl

/-- **The first half of an operation.** Up to what is logged on the way, it has nothing to ask for
and publishes its report of that, if it has one; or it publishes the announcement of its business
and asks. -/
theorem begin_inversion [Storage σ] (op : Operation) (c : Client σ) :
    ∃ c₁, Notes c c₁ ∧
      ((op.endpoint? c = none ∧ c.begin op = (c₁.publish? op.reportUnasked?, .ended .plain)) ∨
        ∃ e, op.endpoint? c = some e ∧
          c.begin op = (c₁.publish? (op.business?.map Business.announcement)).ask e
            (op.purpose c)) := by
  cases op with
  | renew =>
    -- the token that is read here is the one that is written into the request
    have hn := notes_token (c := c) .refresh
    simp only [begin, Operation.endpoint?]
    generalize c.token .refresh = r at hn
    obtain ⟨c₁, _ | t⟩ := r
    · exact ⟨c₁, hn, .inl ⟨rfl, rfl⟩⟩
    · exact ⟨c₁, hn, .inr ⟨_, rfl, rfl⟩⟩
  | loadPage =>
    -- one page at a time: with the flag up there is nothing to ask for
    refine ⟨c, .refl, ?_⟩
    rcases hl : c.deck.value.loading with _ | _
    · right
      refine ⟨.candidates c.paging.pageSize, by simp only [Operation.endpoint?, hl]; rfl, ?_⟩
      simp only [begin, claimPage_of_down hl]
      rfl
    · left
      refine ⟨by simp only [Operation.endpoint?, hl]; rfl, ?_⟩
      simp only [begin, claimPage_of_up hl]
      rfl
  | swipe direction =>
    -- whom the decision is about is settled before anything is announced
    simp only [begin, Operation.endpoint?, Operation.purpose]
    rcases c.deck.value.current? with _ | candidate
    · exact ⟨_, notes_note .noCandidate, .inl ⟨rfl, rfl⟩⟩
    · exact ⟨c, .refl, .inr ⟨_, rfl, rfl⟩⟩
  | send room text =>
    refine ⟨c, .refl, ?_⟩
    simp only [begin, Operation.endpoint?]
    by_cases hblank : (Text.trimmed text).isEmpty = true
    · rw [if_pos hblank, if_pos hblank]
      exact .inl ⟨rfl, rfl⟩
    · rw [if_neg hblank, if_neg hblank]
      exact .inr ⟨_, rfl, rfl⟩
  | logIn | register | loadMatches | loadConversations => exact ⟨c, .refl, .inr ⟨_, rfl, rfl⟩⟩
  | loadThread | loadProfile | updateProfile | plain => exact ⟨c, .refl, .inr ⟨_, rfl, rfl⟩⟩

/-! ## The second half -/

/-- What the client makes of an answer. Most of it is published as it is; tokens are stored first,
and a decision may claim the next page behind it. -/
inductive Reply
  | shown (u : Publication)
  | tokens (pair : Wire.TokenPair)
  | decision (candidateId : String) (answer : Wire.SwipeResult)
  /-- the answer goes to the one who asked, and not to a screen -/
  | unseen

/-- The screen that a reply is published on, if any. -/
def Reply.screen? : Reply → Option Screen
  | shown u => some u.screen
  | tokens _ => some .session
  | decision .. => some .deck
  | unseen => none

/-- `SessionController::authenticate` behind a successful request: store the pair and show an open
session, or show why it could not be stored. -/
def takeTokens [Storage σ] (pair : Wire.TokenPair) (c : Client σ) : Client σ :=
  match c.keepTokens pair.accessToken pair.refreshToken with
  | (c, .error why) => c.publish (Business.tokens.report (Trouble.storage why).userMessage)
  | (c, .ok ()) => c.onSession Session.granted

/-- Carry out a reply. The second component is whether a page has been claimed. -/
def apply [Storage σ] (reply : Reply) (c : Client σ) : Client σ × Bool :=
  match reply with
  | .shown u => (c.publish u, false)
  | .tokens pair => (c.takeTokens pair, false)
  | .decision candidateId answer => (c.onDeck (Deck.decided candidateId answer)).claimAhead
  | .unseen => (c, false)

/-- What is made of a payload. -/
def Payload.reply : Payload → Reply
  | tokens _ pair => .tokens pair
  | page cards => .shown (.deck (Deck.dealt cards))
  | decision candidateId answer => .decision candidateId answer
  | matchList list => .shown (.deck (Deck.matchesCame list))
  | conversations list => .shown (.inbox (Inbox.filled list))
  | thread room transcript => .shown (.thread room (Thread.shown transcript))
  | message room m => .shown (.thread room (Thread.posted m))
  | profile p => .shown (.own (OwnProfile.adopted p))

theorem Payload.screen_reply (x : Payload) : x.reply.screen? = some x.business.screen := by
  cases x <;> rfl

/-- What is made of a reading for a business: its report, or the payload that the value is. -/
def Business.reply {α : Type} (b : Business) (tell : α → Payload) : Except Failure α → Reply
  | .error why => .shown (b.report why.userMessage)
  | .ok a => (tell a).reply

/-- What is made of an answer by the operation that waits for it. Each purpose reads the answer with
its own codec, and what follows is the same for all: publish the value, or the error. -/
def Purpose.reply (purpose : Purpose) (result : Except Failure Response) : Reply :=
  match purpose with
  | .tokens way => Business.tokens.reply (.tokens way) (reading Wire.TokenPair.codec result)
  | .page => Business.page.reply .page (reading Wire.Page.codec result)
  | .decision id => Business.decision.reply (.decision id) (reading Wire.SwipeResult.codec result)
  | .matchList => Business.matchList.reply .matchList (reading Wire.MatchList.codec result)
  | .conversations =>
    Business.conversations.reply .conversations (reading Wire.ConversationList.codec result)
  | .thread room =>
    (Business.thread room).reply (.thread room) (reading Wire.Transcript.codec result)
  | .message room =>
    (Business.message room).reply (.message room) (reading Wire.Message.codec result)
  | .profile => Business.profile.reply .profile (reading Wire.Profile.codec result)
  | .plain _ => .unseen

/-- A second half carries out a reply, up to what is noted before and after. -/
def Carries [Storage σ] (reply : Reply) (c c' : Client σ) (due : Bool) : Prop :=
  ∃ c₁, Notes c c₁ ∧ Notes (c₁.apply reply).1 c' ∧ due = (c₁.apply reply).2

section

variable [Storage σ]

/-- An answer is read first, and then what has been read is carried out. -/
theorem carries_receive {α : Type} {codec : Json.Codec α} {e : Endpoint}
    {result : Except Failure Response} {b : Business} {tell : α → Payload}
    {g : Except Failure α → Client σ → Client σ × Bool}
    (hg : ∀ r c, Carries (b.reply tell r) c (g r c).1 (g r c).2) (c : Client σ) :
    Carries (b.reply tell (reading codec result)) c
      (g (c.receive codec e result).2 (c.receive codec e result).1).1
      (g (c.receive codec e result).2 (c.receive codec e result).1).2 := by
  obtain ⟨c₁, hn, hn', hdue⟩ := hg (c.receive codec e result).2 (c.receive codec e result).1
  rw [receive_eq_reading] at hn' hdue ⊢
  exact ⟨c₁, (notes_receive codec e result).trans hn, hn', hdue⟩

/-- Noting something and publishing on a screen. -/
theorem carries_shown {u : Publication} (hn : Notes c c') :
    Carries (.shown u) c (c'.publish u) false :=
  ⟨c', hn, .refl, rfl⟩

/-- Storing the tokens is noted only after they have been stored. -/
theorem carries_tokens (way : Admission) (r : Except Failure Wire.TokenPair) (c : Client σ) :
    Carries (Business.tokens.reply (.tokens way) r) c (c.concludeTokens way r) false := by
  rcases r with why | pair
  · exact carries_shown (notes_note _)
  · refine ⟨c, .refl, ?_, rfl⟩
    simp only [apply, Payload.reply, Business.reply, takeTokens, concludeTokens]
    rcases c.keepTokens pair.accessToken pair.refreshToken with ⟨c₁, why | ⟨⟩⟩
    · exact .refl
    · exact ⟨[.tokensStored way], rfl⟩

/-- A match is noted before the decision is published. -/
theorem carries_decision (id : String) (r : Except Failure Wire.SwipeResult) (c : Client σ) :
    Carries (Business.decision.reply (.decision id) r) c (c.concludeDecision id r).1
      (c.concludeDecision id r).2 := by
  rcases r with why | answer
  · exact carries_shown (notes_note _)
  · exact ⟨c.noteMatch answer.matched, notes_noteMatch _, .refl, rfl⟩

/-- **The second half of an operation** carries out what its purpose makes of the answer.
`Purpose.reply` is a table, and this is the one place where the table and the code are compared;
later proofs read the table. -/
theorem conclude_spec (purpose : Purpose) (e : Endpoint) (result : Except Failure Response)
    (c : Client σ) :
    Carries (purpose.reply result) c (c.conclude purpose e result).1
      (c.conclude purpose e result).2.fetchDue := by
  -- each purpose reads the answer with its own codec and publishes what the reading comes to; only
  -- tokens and decisions do more than that
  cases purpose with
  | tokens way =>
    exact carries_receive (g := fun r c => (c.concludeTokens way r, false)) (carries_tokens way) c
  | page =>
    refine carries_receive (g := fun r c => (c.concludePage r, false)) (fun r c => ?_) c
    rcases r with why | page
    · exact carries_shown (notes_note _)
    · exact carries_shown (notes_note _)
  | decision id =>
    exact carries_receive (g := fun r c => c.concludeDecision id r) (carries_decision id) c
  | matchList =>
    refine carries_receive (g := fun r c => (c.concludeMatches r, false)) (fun r c => ?_) c
    rcases r with why | list
    · exact carries_shown (notes_note _)
    · exact carries_shown .refl
  | conversations =>
    refine carries_receive (g := fun r c => (c.concludeConversations r, false)) (fun r c => ?_) c
    rcases r with why | list
    · exact carries_shown (notes_note _)
    · exact carries_shown .refl
  | thread room =>
    refine carries_receive (g := fun r c => (c.concludeThread room r, false)) (fun r c => ?_) c
    rcases r with why | transcript
    · exact carries_shown (notes_note _)
    · exact carries_shown .refl
  | message room =>
    refine carries_receive (g := fun r c => (c.concludeMessage room r, false)) (fun r c => ?_) c
    rcases r with why | m
    · exact carries_shown (notes_note _)
    · exact carries_shown .refl
  | profile =>
    refine carries_receive (g := fun r c => (c.concludeProfile r, false)) (fun r c => ?_) c
    rcases r with why | p
    · exact carries_shown (notes_note _)
    · exact carries_shown .refl
  | plain kind => exact ⟨c, .refl, notes_concludePlain kind e result, rfl⟩

end

/-! ## What is made of an answer -/

/-- A decision is remembered for the candidate that its request names. Of anything else there is
nothing to remember. -/
def NamesCandidate (purpose : Purpose) (e : Endpoint) : Prop :=
  ∀ id, purpose = .decision id → decidedId e = id

/-- What may become of an answer: it goes to no screen, it brings nothing and that is reported, or
it brings a payload. -/
inductive Purpose.Verdict (purpose : Purpose) (result : Except Failure Response) : Reply → Prop
  | unseen (hb : purpose.business? = none) (hx : ∀ e, purpose.payload? e result = none) :
      Verdict purpose result .unseen
  | refused {b : Business} {why : Failure} (hb : purpose.business? = some b)
      (h : b.Refuses result why) (hx : ∀ e, purpose.payload? e result = none) :
      Verdict purpose result (.shown (b.report why.userMessage))
  | brought {x : Payload} (hb : purpose.business? = some x.business)
      (hx : ∀ e, NamesCandidate purpose e → purpose.payload? e result = some x) :
      Verdict purpose result x.reply

/-- One value is read for a business, or none, and that is all there is to an answer. The hypotheses
say this of one purpose; each of the nine is an instance with its own codec. -/
theorem verdict_of_reading {α : Type} {purpose : Purpose} {result : Except Failure Response}
    {b : Business} {codec : Json.Codec α} {tell : α → Payload} (hb : purpose.business? = some b)
    (hrefuses : ∀ why, reading codec result = .error why → b.Refuses result why)
    (htell : ∀ a, (tell a).business = b)
    (hx : ∀ e, NamesCandidate purpose e →
      purpose.payload? e result = (received codec result).map tell)
    (hnone : received codec result = none → ∀ e, purpose.payload? e result = none) :
    purpose.Verdict result (b.reply tell (reading codec result)) := by
  rcases hreading : reading codec result with why | a
  · refine .refused hb (hrefuses why hreading) (hnone ?_)
    rw [received_eq_toOption, hreading]
    rfl
  · refine .brought (by rw [htell a, hb]) fun e he => ?_
    rw [hx e he, received_of_reading hreading]
    rfl

/-- **What is made of an answer**, for every purpose. The decision is the one case that needs an
argument: its payload names the candidate that the request named, and its reply the one that it is
remembered for. -/
theorem Purpose.verdict (purpose : Purpose) (result : Except Failure Response) :
    purpose.Verdict result (purpose.reply result) := by
  cases purpose with
  | decision id =>
    refine verdict_of_reading rfl (fun _ => refuses_iff.mpr) (fun _ => rfl) (fun e he => ?_)
      fun h e => by rw [payload?, h]; rfl
    rw [payload?, he id rfl]
  | plain kind => exact .unseen rfl fun _ => rfl
  | _ =>
    exact verdict_of_reading rfl (fun _ => refuses_iff.mpr) (fun _ => rfl) (fun _ _ => rfl)
      fun h e => by rw [payload?, h]; rfl

theorem Purpose.screen_reply {purpose : Purpose} {result : Except Failure Response} {s : Screen}
    (h : (purpose.reply result).screen? = some s) : purpose.screen? = some s := by
  have hverdict := purpose.verdict result
  generalize purpose.reply result = reply at h hverdict
  cases hverdict with
  | unseen => cases h
  | @refused b _ hb =>
    rw [← h, Purpose.screen?, hb, Reply.screen?, Business.screen_report]
    rfl
  | @brought x hb =>
    rw [← h, Purpose.screen?, hb, Payload.screen_reply]
    rfl

/-- A payload is about what was asked for. -/
theorem Purpose.business?_of_payload? {purpose : Purpose} {e : Endpoint}
    {result : Except Failure Response} {x : Payload} (h : purpose.payload? e result = some x) :
    purpose.business? = some x.business := by
  cases purpose with
  | plain kind => cases h
  | _ =>
    obtain ⟨_, _, rfl⟩ := Option.map_eq_some_iff.mp h
    rfl

/-- An answer that never came is reported, whatever was asked for. -/
theorem Purpose.reply_error (purpose : Purpose) (why : Failure) :
    purpose.reply (.error why) =
      purpose.business?.elim .unseen fun b => .shown (b.report why.userMessage) := by
  cases purpose <;> rfl

/-- An answer that brings nothing to a business is reported. -/
theorem Purpose.reply_of_refuses {purpose : Purpose} {b : Business}
    {result : Except Failure Response} {why : Failure} (hb : purpose.business? = some b)
    (h : b.Refuses result why) : purpose.reply result = .shown (b.report why.userMessage) := by
  cases purpose with
  | plain kind => cases hb
  | _ =>
    obtain rfl := Option.some.inj hb
    rw [Purpose.reply, refuses_iff.mp h]
    rfl

end Rendezvous.Client
