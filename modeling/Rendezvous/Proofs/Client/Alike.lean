/-
Two clients that cannot be told apart from outside.

A client remembers more than it shows: what was logged, how often something was published, what was
said in conversations that are not open any more. `SameScreens` relates two clients that may differ
in all of that. They have one base URL, their stores answer every request alike, and what is on
their screens is the same; of the conversations only those from a number `n` on are looked at, and
the error of the session only if it is `told`, because asking for tokens wipes it out and nothing
else shows it.

The point of the relation is that operations cannot get behind it. Whatever is begun on two such
clients is begun with the same request, an answer to it leaves two such clients behind, and so on
(`SameScreens.begin`, `SameScreens.conclude`). Nothing that is ever shown can depend on what the
relation leaves open, and nothing in here refers to a run: it is a matter of one operation at a
time.
-/
import Rendezvous.Proofs.Client.Paging

set_option autoImplicit false

namespace Rendezvous.Credential

variable {σ : Type} [Storage σ] {R : σ → σ → Prop}

/-! ## Storages -/

/-- Backends that are related answer every request alike, and they are related afterwards. -/
structure Storage.Respects (R : σ → σ → Prop) : Prop where
  get : ∀ {s s' : σ}, R s s' → ∀ key, Storage.get s' key = Storage.get s key
  putAll : ∀ {s s' : σ}, R s s' → ∀ added,
    (Storage.putAll s' added).2 = (Storage.putAll s added).2 ∧
      R (Storage.putAll s added).1 (Storage.putAll s' added).1
  eraseAll : ∀ {s s' : σ}, R s s' → ∀ keys,
    (Storage.eraseAll s' keys).2 = (Storage.eraseAll s keys).2 ∧
      R (Storage.eraseAll s keys).1 (Storage.eraseAll s' keys).1

/-- Equality is the strictest of these relations. -/
theorem Storage.respects_eq : Storage.Respects (σ := σ) Eq where
  get := by
    rintro s _ rfl key
    rfl
  putAll := by
    rintro s _ rfl added
    exact ⟨rfl, rfl⟩
  eraseAll := by
    rintro s _ rfl keys
    exact ⟨rfl, rfl⟩

namespace Store

/-- Two stores over related backends, and both can be used or neither. -/
structure SameVault (R : σ → σ → Prop) (s s' : Store σ) : Prop where
  vault : R s.vault s'.vault
  poisoned : s'.poisoned = s.poisoned

variable {s s' : Store σ}

theorem SameVault.token (h : s.SameVault R s') (hR : Storage.Respects R) (t : Token) :
    s'.token t = s.token t := by
  rw [Store.token, Store.token, h.poisoned, hR.get h.vault]

theorem SameVault.save (h : s.SameVault R s') (hR : Storage.Respects R) (access refresh : String) :
    (s'.save access refresh).2 = (s.save access refresh).2 ∧
      (s.save access refresh).1.SameVault R (s'.save access refresh).1 := by
  obtain ⟨hanswer, hvault⟩ :=
    hR.putAll h.vault [(Token.access.key, access), (Token.refresh.key, refresh)]
  unfold Store.save
  rw [h.poisoned]
  by_cases hp : s.poisoned = true
  · rw [if_pos hp, if_pos hp]
    exact ⟨rfl, h⟩
  · rw [if_neg hp, if_neg hp]
    dsimp only
    rw [hanswer]
    exact ⟨rfl, hvault, rfl⟩

theorem SameVault.clear (h : s.SameVault R s') (hR : Storage.Respects R) :
    s'.clear.2 = s.clear.2 ∧ s.clear.1.SameVault R s'.clear.1 := by
  obtain ⟨hanswer, hvault⟩ := hR.eraseAll h.vault [Token.access.key, Token.refresh.key]
  unfold Store.clear
  rw [h.poisoned]
  by_cases hp : s.poisoned = true
  · rw [if_pos hp, if_pos hp]
    exact ⟨rfl, h⟩
  · rw [if_neg hp, if_neg hp]
    dsimp only
    rw [hanswer]
    exact ⟨rfl, hvault, rfl⟩

end Store

end Rendezvous.Credential

namespace Rendezvous.Client

open Credential (Storage)
open Service (Endpoint Failure)
open Web (Response)

variable {σ : Type} {R : σ → σ → Prop} {n : Nat} {told : Bool} {c c' d d' : Client σ}

/-! ## Conversations -/

/-- What an open conversation shows: its identifier and its state, but not what it has published
before. -/
def Room.face (r : Room) : String × Thread :=
  (r.conversationId, r.thread.value)

/-- What the conversation with a number shows, if it is open. -/
def face? (room : Nat) (c : Client σ) : Option (String × Thread) :=
  (c.rooms[room]?).map Room.face

theorem face?_onThread_self (room : Nat) (f : Thread → Thread) (c : Client σ) :
    (c.onThread room f).face? room = (c.face? room).map fun x => (x.1, f x.2) := by
  rw [face?, face?, getElem?_onThread_self, Option.map_map, Option.map_map]
  rfl

theorem face?_onThread_ne {room k : Nat} (h : room ≠ k) (f : Thread → Thread) (c : Client σ) :
    (c.onThread room f).face? k = c.face? k := by
  have hother : (c.onThread room f).rooms[k]? = c.rooms[k]? := List.getElem?_modify_ne _ _ h
  rw [face?, face?, hother]

theorem roomId_eq_face (room : Nat) (c : Client σ) :
    c.roomId room = (c.face? room).elim "" Prod.fst := by
  rw [roomId, face?]
  rcases c.rooms[room]? with _ | r
  · rfl
  · rfl

/-! ## The relation -/

/-- Two clients that cannot be told apart by what they show, as long as conversations below `n` are
not looked at, nor the error of the session unless it is `told`. -/
structure SameScreens (R : σ → σ → Prop) (n : Nat) (told : Bool) (c c' : Client σ) : Prop where
  address : c'.address = c.address
  paging : c'.paging = c.paging
  store : c.store.SameVault R c'.store
  authenticated : c'.session.value.authenticated = c.session.value.authenticated
  error : told = true → c'.session.value.error = c.session.value.error
  deck : c'.deck.value = c.deck.value
  inbox : c'.inbox.value = c.inbox.value
  own : c'.own.value = c.own.value
  roomCount : c'.rooms.length = c.rooms.length
  rooms : ∀ room, n ≤ room → c'.face? room = c.face? room

/-- Two clients that cannot be told apart, and one result of what was done to them. -/
structure Agree {β : Type} (R : σ → σ → Prop) (n : Nat) (told : Bool) (r r' : Client σ × β) :
    Prop where
  same : r'.2 = r.2
  alike : SameScreens R n told r.1 r'.1

/-- What an answer says to a caller of `execute` does not depend on the client that reads it. -/
theorem concludePlain_eq (kind : Option Wire.Kind) (e : Endpoint)
    (result : Except Failure Response) (c c' : Client σ) :
    (c'.concludePlain kind e result).2 = (c.concludePlain kind e result).2 := by
  rcases kind with _ | k
  · rcases result with why | r
    · rfl
    · simp only [concludePlain, accept]
      by_cases hs : Web.isSuccess r.status = true
      · simp only [if_pos hs]
      · simp only [if_neg hs]
  · simp only [concludePlain, receive_eq_reading]

namespace SameScreens

theorem of_notes (h : SameScreens R n told c c') (hd : Notes c d) (hd' : Notes c' d') :
    SameScreens R n told d d' := by
  obtain ⟨ns, rfl⟩ := hd
  obtain ⟨ns', rfl⟩ := hd'
  exact ⟨h.address, h.paging, h.store, h.authenticated, h.error, h.deck, h.inbox, h.own,
    h.roomCount, h.rooms⟩

theorem note (h : SameScreens R n told c c') (x x' : Notice) :
    SameScreens R n told (c.note x) (c'.note x') :=
  h.of_notes (notes_note x) (notes_note x')

/-- The error of the session may become told in a step, if the step publishes it anew. -/
theorem onSession {told' : Bool} (h : SameScreens R n told c c') (f : Session → Session)
    (hauthenticated : (f c'.session.value).authenticated = (f c.session.value).authenticated)
    (herror : told' = true → (f c'.session.value).error = (f c.session.value).error) :
    SameScreens R n told' (c.onSession f) (c'.onSession f) :=
  ⟨h.address, h.paging, h.store, hauthenticated, herror, h.deck, h.inbox, h.own, h.roomCount,
    h.rooms⟩

/-- Publishing the same on any screen but the session's. The session is excepted because its error
need not be the same in both before something has set it. -/
theorem publish (h : SameScreens R n told c c') {u : Publication} (hu : u.screen ≠ .session) :
    SameScreens R n told (c.publish u) (c'.publish u) := by
  cases u with
  | session f => exact absurd rfl hu
  | deck f => exact { h with deck := congrArg f h.deck }
  | inbox f => exact { h with inbox := congrArg f h.inbox }
  | own f => exact { h with own := congrArg f h.own }
  | thread room f =>
    refine { h with roomCount := ?_, rooms := fun k hk => ?_ }
    · simp only [Client.publish, Client.onThread, List.length_modify]
      exact h.roomCount
    · by_cases hroom : room = k
      · subst hroom
        show (c'.onThread room f).face? room = (c.onThread room f).face? room
        rw [face?_onThread_self, face?_onThread_self, h.rooms room hk]
      · show (c'.onThread room f).face? k = (c.onThread room f).face? k
        rw [face?_onThread_ne hroom, face?_onThread_ne hroom, h.rooms k hk]

/-- What a business reports is reported alike. -/
theorem report (h : SameScreens R n told c c') (b : Business) (why : String) :
    SameScreens R n told (c.publish (b.report why)) (c'.publish (b.report why)) := by
  cases b with
  | tokens => exact h.onSession (Session.denied why) h.authenticated fun _ => rfl
  | _ => exact h.publish (by simp [Business.screen_report, Business.screen])

theorem dismissMatch (h : SameScreens R n told c c') :
    SameScreens R n told c.dismissMatch c'.dismissMatch :=
  h.publish (u := .deck Deck.noted) nofun

theorem roomId (h : SameScreens R n told c c') {room : Nat} (hroom : n ≤ room) :
    c'.roomId room = c.roomId room := by
  rw [roomId_eq_face, roomId_eq_face, h.rooms room hroom]

/-- The same conversation is opened in both, under the same number. The numbers agree because the
rooms are counted alike, although the rooms before the last logout need not hold the same
messages. -/
theorem openRoom (h : SameScreens R n told c c') (id : String) :
    Agree R n told (c.openRoom id) (c'.openRoom id) where
  same := h.roomCount
  alike := {
    address := h.address
    paging := h.paging
    store := h.store
    authenticated := h.authenticated
    error := h.error
    deck := h.deck
    inbox := h.inbox
    own := h.own
    roomCount := by
      simp only [Client.openRoom, List.length_append, h.roomCount]
    rooms := by
      intro room hroom
      have hold := h.rooms room hroom
      simp only [face?, Client.openRoom, List.getElem?_append, h.roomCount] at hold ⊢
      -- the rooms that were there are the first ones, and the new one has no messages in both
      by_cases hlt : room < c.rooms.length
      · rw [if_pos hlt, if_pos hlt]
        exact hold
      · rw [if_neg hlt, if_neg hlt] }

/-! ## Answers -/

theorem claimAhead (h : SameScreens R n told c c') : Agree R n told c.claimAhead c'.claimAhead := by
  -- whether a page is claimed is a matter of the deck and of the threshold, and both are the same
  rcases claimAhead_cases c with ⟨hfew, hdown, hclaim⟩ | ⟨hup, hnothing⟩
  · rcases claimAhead_cases c' with ⟨_, _, hclaim'⟩ | ⟨hup', _⟩
    · rw [hclaim, hclaim']
      exact ⟨rfl, (h.publish (u := Business.page.announcement) nofun).note _ _⟩
    · rw [h.deck, h.paging, hdown] at hup'
      exact absurd (hup' hfew) Bool.false_ne_true
  · rcases claimAhead_cases c' with ⟨hfew', hdown', _⟩ | ⟨_, hnothing'⟩
    · rw [h.deck, h.paging] at hfew'
      rw [h.deck, hup hfew'] at hdown'
      exact absurd hdown'.symm Bool.false_ne_true
    · rw [hnothing, hnothing']
      exact ⟨rfl, h⟩

variable [Storage σ]

theorem takeTokens (h : SameScreens R n told c c') (hR : Storage.Respects R)
    (pair : Wire.TokenPair) :
    SameScreens R n told (c.takeTokens pair) (c'.takeTokens pair) := by
  obtain ⟨hanswer, hstore⟩ := h.store.save hR pair.accessToken pair.refreshToken
  have hkeep : SameScreens R n told (c.keepTokens pair.accessToken pair.refreshToken).1
      (c'.keepTokens pair.accessToken pair.refreshToken).1 := { h with store := hstore }
  have hsame : (c'.keepTokens pair.accessToken pair.refreshToken).2 =
      (c.keepTokens pair.accessToken pair.refreshToken).2 := congrArg Prod.fst hanswer
  unfold Client.takeTokens
  generalize c.keepTokens pair.accessToken pair.refreshToken = r at hkeep hsame
  generalize c'.keepTokens pair.accessToken pair.refreshToken = r' at hkeep hsame
  obtain ⟨d, answer⟩ := r
  obtain ⟨d', answer'⟩ := r'
  obtain rfl : answer' = answer := hsame
  rcases answer' with why | ⟨⟩
  · exact hkeep.report .tokens _
  · exact hkeep.onSession _ rfl hkeep.error

theorem apply (h : SameScreens R n told c c') (hR : Storage.Respects R) {purpose : Purpose}
    {result : Except Failure Response} {reply : Reply} (hreply : purpose.Verdict result reply) :
    Agree R n told (c.apply reply) (c'.apply reply) := by
  cases hreply with
  | unseen => exact ⟨rfl, h⟩
  | @refused b why => exact ⟨rfl, h.report b _⟩
  | @brought x =>
    -- what a reply brings is put in place of what was there, so it cannot tell the two apart
    cases x with
    | tokens way pair => exact ⟨rfl, h.takeTokens hR pair⟩
    | decision id answer =>
      exact (h.publish (u := .deck (Deck.decided id answer)) nofun).claimAhead
    | page cards => exact ⟨rfl, h.publish (u := .deck (Deck.dealt cards)) nofun⟩
    | matchList list => exact ⟨rfl, h.publish (u := .deck (Deck.matchesCame list)) nofun⟩
    | conversations list => exact ⟨rfl, h.publish (u := .inbox (Inbox.filled list)) nofun⟩
    | thread room transcript =>
      exact ⟨rfl, h.publish (u := .thread room (Thread.shown transcript)) nofun⟩
    | message room m => exact ⟨rfl, h.publish (u := .thread room (Thread.posted m)) nofun⟩
    | profile p => exact ⟨rfl, h.publish (u := .own (OwnProfile.adopted p)) nofun⟩

end SameScreens

/-- Its answer is for the same. -/
theorem SameScreens.purpose (h : SameScreens R n told c c') (op : Operation) :
    op.purpose c' = op.purpose c := by
  cases op with
  | swipe direction => rw [Operation.purpose, Operation.purpose, h.deck]
  | _ => rfl

/-- Whether an operation is about a conversation that is looked at, if it is about one. -/
def Operation.Beyond (n : Nat) : Operation → Prop
  | .loadThread room | .send room _ => n ≤ room
  | _ => True

/-- Whether an operation asks for tokens. -/
def Operation.isAdmission : Operation → Bool
  | .logIn _ | .register _ | .renew => true
  | _ => false

/-- What is announced is announced alike, and announcing that tokens are asked for wipes out the
error of the session. -/
theorem SameScreens.announce (h : SameScreens R n told c c') (op : Operation) :
    SameScreens R n (op.isAdmission || told) (c.publish? (op.business?.map Business.announcement))
      (c'.publish? (op.business?.map Business.announcement)) := by
  cases op with
  | logIn | register | renew => exact h.onSession Session.asking h.authenticated fun _ => rfl
  | loadPage => exact h.publish (u := Business.page.announcement) nofun
  | swipe => exact h.publish (u := Business.decision.announcement) nofun
  | loadMatches => exact h.publish (u := Business.matchList.announcement) nofun
  | loadConversations => exact h.publish (u := Business.conversations.announcement) nofun
  | loadThread room => exact h.publish (u := (Business.thread room).announcement) nofun
  | send room text => exact h.publish (u := (Business.message room).announcement) nofun
  | loadProfile | updateProfile => exact h.publish (u := Business.profile.announcement) nofun
  | plain => exact h

section

variable [Storage σ]

/-- What the one who asked is told is in the answer alone. -/
theorem outcome_conclude (purpose : Purpose) (e : Endpoint) (result : Except Failure Response)
    (c c' : Client σ) :
    (c'.conclude purpose e result).2.outcome = (c.conclude purpose e result).2.outcome := by
  cases purpose with
  | plain kind => exact congrArg Outcome.answer (concludePlain_eq kind e result c c')
  | _ => rfl

/-- **Answers** cannot get behind the relation: what is published depends on the answer and on what
both clients share. The cases are those of the purpose, as in `conclude_spec`. -/
theorem SameScreens.conclude (h : SameScreens R n told c c') (hR : Storage.Respects R)
    (purpose : Purpose) (e : Endpoint) (result : Except Failure Response) :
    Agree R n told (c.conclude purpose e result) (c'.conclude purpose e result) := by
  obtain ⟨c₁, hn, hn', hdue⟩ := conclude_spec purpose e result c
  obtain ⟨d₁, hm, hm', hdue'⟩ := conclude_spec purpose e result c'
  have happly := (h.of_notes hn hm).apply hR (purpose.verdict result)
  have houtcome := outcome_conclude purpose e result c c'
  have hfetch : (c'.conclude purpose e result).2.fetchDue =
      (c.conclude purpose e result).2.fetchDue := by
    rw [hdue, hdue', happly.same]
  refine ⟨?_, happly.alike.of_notes hn' hm'⟩
  generalize (c.conclude purpose e result).2 = ending at houtcome hfetch
  generalize (c'.conclude purpose e result).2 = ending' at houtcome hfetch
  obtain ⟨outcome, due⟩ := ending
  obtain ⟨outcome', due'⟩ := ending'
  rw [show outcome' = outcome from houtcome, show due' = due from hfetch]

/-! ## Beginnings -/

/-- Reading a token. -/
theorem SameScreens.token (h : SameScreens R n told c c') (hR : Storage.Respects R)
    (t : Credential.Token) :
    Agree R n told (c.token t) (c'.token t) where
  same := congrArg Prod.fst (h.store.token hR t)
  alike := h.of_notes (notes_token t) (notes_token t)

/-- The same is asked for, with the same token. The token is read from storage, so the two vaults
have to answer alike, which is what `Respects` says of the relation between them. -/
theorem SameScreens.ask (h : SameScreens R n told c c') (hR : Storage.Respects R) (e : Endpoint)
    (purpose : Purpose) : Agree R n told (c.ask e purpose) (c'.ask e purpose) := by
  have htoken := congrArg Prod.fst (h.store.token hR .access)
  -- both have the same address, so both can ask or neither can, and the mixed cases are absurd
  rcases ask_cases e purpose c with ⟨d, url, hd, hurl, hask⟩ | ⟨why, hwhy, hask⟩
  · rcases ask_cases e purpose c' with ⟨d', url', hd', hurl', hask'⟩ | ⟨why', hwhy', _⟩
    · rw [h.address, hurl] at hurl'
      obtain rfl := Except.ok.inj hurl'
      rw [hask, hask', htoken]
      exact ⟨rfl, h.of_notes hd hd'⟩
    · rw [h.address, hurl] at hwhy'
      cases hwhy'
  · rcases ask_cases e purpose c' with ⟨_, url', _, hurl', _⟩ | ⟨why', hwhy', hask'⟩
    · rw [h.address, hwhy] at hurl'
      cases hurl'
    · rw [h.address, hwhy] at hwhy'
      obtain rfl := Except.error.inj hwhy'
      have hconclude := h.conclude hR purpose e (.error why)
      rw [hask, hask']
      exact ⟨by rw [hconclude.same], hconclude.alike⟩

theorem SameScreens.fetchPage (h : SameScreens R n told c c') (hR : Storage.Respects R) :
    Agree R n told c.fetchPage c'.fetchPage := by
  unfold Client.fetchPage
  rw [h.paging]
  exact h.ask hR _ _

/-- The same operation asks for the same endpoint. -/
theorem SameScreens.endpoint? (h : SameScreens R n told c c') (hR : Storage.Respects R)
    {op : Operation} (hop : op.Beyond n) : op.endpoint? c' = op.endpoint? c := by
  cases op with
  | renew => rw [Operation.endpoint?, Operation.endpoint?, (h.token hR .refresh).same]
  | loadPage => rw [Operation.endpoint?, Operation.endpoint?, h.deck, h.paging]
  | swipe direction => rw [Operation.endpoint?, Operation.endpoint?, h.deck]
  | loadThread room | send room text =>
    rw [Operation.endpoint?, Operation.endpoint?, h.roomId hop]
  | _ => rfl

/-- What is published without asking is an error of the session, too. -/
theorem SameScreens.reportUnasked (h : SameScreens R n told c c') {op : Operation}
    (hnone : op.endpoint? d = none) :
    SameScreens R n (op.isAdmission || told) (c.publish? op.reportUnasked?)
      (c'.publish? op.reportUnasked?) := by
  cases op with
  | renew => exact h.onSession (Session.blocked _) h.authenticated fun _ => rfl
  | logIn | register => cases hnone
  | _ => exact h

/-- **Operations** cannot get behind the relation either. Asking for tokens makes the error of the
session one that may be looked at. -/
theorem SameScreens.begin (h : SameScreens R n told c c') (hR : Storage.Respects R) {op : Operation}
    (hop : op.Beyond n) :
    Agree R n (op.isAdmission || told) (c.begin op) (c'.begin op) := by
  have hendpoint := h.endpoint? hR hop
  obtain ⟨c₁, hn, ⟨hnone, hbegin⟩ | ⟨e, he, hbegin⟩⟩ := begin_inversion op c
  · obtain ⟨d₁, hm, ⟨_, hbegin'⟩ | ⟨e', he', _⟩⟩ := begin_inversion op c'
    · rw [hbegin, hbegin']
      exact ⟨rfl, (h.of_notes hn hm).reportUnasked hnone⟩
    · rw [hendpoint, hnone] at he'
      cases he'
  · obtain ⟨d₁, hm, ⟨hnone', _⟩ | ⟨e', he', hbegin'⟩⟩ := begin_inversion op c'
    · rw [hendpoint, he] at hnone'
      cases hnone'
    · rw [hendpoint, he] at he'
      obtain rfl := Option.some.inj he'
      rw [hbegin, hbegin', h.purpose op]
      exact ((h.of_notes hn hm).announce op).ask hR e (op.purpose c)

/-- Logging out sets the error of the session whatever comes of it, so from here on that error is
known to both (`told` is true). -/
theorem SameScreens.logOut (h : SameScreens R n told c c') (hR : Storage.Respects R) :
    SameScreens R n true c.logOut c'.logOut := by
  obtain ⟨hanswer, hstore⟩ := h.store.clear hR
  have hforget : SameScreens R n told c.forgetTokens.1 c'.forgetTokens.1 :=
    ⟨h.address, h.paging, hstore, h.authenticated, h.error, h.deck, h.inbox, h.own, h.roomCount,
      h.rooms⟩
  have hsame : c'.forgetTokens.2 = c.forgetTokens.2 := congrArg Prod.fst hanswer
  unfold Client.logOut
  generalize c.forgetTokens = r at hforget hsame
  generalize c'.forgetTokens = r' at hforget hsame
  obtain ⟨d, answer⟩ := r
  obtain ⟨d', answer'⟩ := r'
  obtain rfl : answer' = answer := hsame
  rcases answer' with why | ⟨⟩
  · exact (hforget.note _ _).onSession _ rfl fun _ => rfl
  · exact (hforget.note _ _).onSession _ rfl fun _ => rfl

/-- After `logout` the session is shown as closed, also if the tokens could not be removed. -/
theorem authenticated_logOut (c : Client σ) : c.logOut.session.value.authenticated = false := by
  unfold Client.logOut
  rcases c.forgetTokens with ⟨c₁, why | ⟨⟩⟩
  · rfl
  · rfl

theorem length_rooms_logOut (c : Client σ) : c.logOut.rooms.length = c.rooms.length := by
  rw [← length_roomIds, roomIds_logOut, length_roomIds]

/-- What `logout` leaves as it is: the base URL, the paging, and what is on the three screens of
which there is only one. The deck, the conversations and the own profile of the last user are still
there. -/
theorem logOut_leaves (c : Client σ) :
    (c.logOut.address = c.address ∧ c.logOut.paging = c.paging ∧
      c.logOut.store.poisoned = c.store.poisoned) ∧
    c.logOut.deck = c.deck ∧ c.logOut.inbox = c.inbox ∧ c.logOut.own = c.own := by
  have hc := confined_logOut c
  refine ⟨⟨hc.address, hc.paging, hc.poisoned⟩, hc.deck ?_, hc.inbox ?_, hc.own ?_⟩
  · rintro ⟨⟩
  · rintro ⟨⟩
  · rintro ⟨⟩

/-- **What a logout leaves** is all that two clients can be told apart by, from the next
conversation on. -/
theorem sameScreens_logOut (haddress : c'.address = c.address) (hpaging : c'.paging = c.paging)
    (hpoisoned : c'.store.poisoned = c.store.poisoned)
    (hvault : R c.logOut.store.vault c'.logOut.store.vault)
    (hdeck : c'.deck.value = c.deck.value) (hinbox : c'.inbox.value = c.inbox.value)
    (hown : c'.own.value = c.own.value) (hrooms : c'.rooms.length = c.rooms.length) :
    SameScreens R c.rooms.length false c.logOut c'.logOut := by
  obtain ⟨⟨ha, hg, hp⟩, hd, hi, ho⟩ := logOut_leaves c
  obtain ⟨⟨ha', hg', hp'⟩, hd', hi', ho'⟩ := logOut_leaves c'
  exact {
    address := by rw [ha', ha, haddress]
    paging := by rw [hg', hg, hpaging]
    store := ⟨hvault, by rw [hp', hp, hpoisoned]⟩
    authenticated := by rw [authenticated_logOut, authenticated_logOut]
    error := by
      rintro ⟨⟩
    deck := by rw [hd', hd, hdeck]
    inbox := by rw [hi', hi, hinbox]
    own := by rw [ho', ho, hown]
    roomCount := by rw [length_rooms_logOut, length_rooms_logOut, hrooms]
    rooms := by
      -- from there on no conversation is open
      intro room hroom
      have hnone (d : Client σ) (h : d.rooms.length ≤ room) : d.logOut.face? room = none := by
        rw [face?, List.getElem?_eq_none (by rw [length_rooms_logOut]; exact h)]
        rfl
      rw [hnone c hroom, hnone c' (by rw [hrooms]; exact hroom)] }

end

/-! ## Requests on the way -/

namespace Traffic

/-- Something under a ticket that is counted from `b` on. -/
def later {α : Type} (b : Ticket) (w : Ticket × α) : Ticket × α :=
  (b + w.1, w.2)

theorem lookup_later {α : Type} (b ticket : Ticket) (l : List (Ticket × α)) :
    (l.map (later b)).lookup (b + ticket) = l.lookup ticket := by
  induction l with
  | nil => rfl
  | cons w l ih =>
    have hbeq : (b + ticket == b + w.1) = (ticket == w.1) := by
      rw [Bool.eq_iff_iff, beq_iff_eq, beq_iff_eq]
      exact Nat.add_left_cancel_iff
    rw [List.map_cons, later, List.lookup_cons, List.lookup_cons, hbeq, ih]

theorem filter_later {α : Type} (b ticket : Ticket) (l : List (Ticket × α)) :
    (l.map (later b)).filter (·.1 != b + ticket) =
      (l.filter (·.1 != ticket)).map (later b) := by
  rw [List.filter_map]
  refine congrArg (List.map (later b)) (List.filter_congr fun w _ => ?_)
  rw [Function.comp_apply, later, Bool.eq_iff_iff, bne_iff_ne, bne_iff_ne]
  exact not_congr Nat.add_left_cancel_iff

/-- Two clients that cannot be told apart, with the same requests on the way. Their tickets may be
counted from different numbers on. -/
structure SameFlight (R : σ → σ → Prop) (n : Nat) (told : Bool) (b b' : Ticket) (t t' : Traffic σ) :
    Prop where
  client : Client.SameScreens R n told t.client t'.client
  due : t'.due = t.due
  flight : ∃ (k : Nat) (l : List (Ticket × Pending)), t.next = b + k ∧ t'.next = b' + k ∧
    t.waiting = l.map (later b) ∧ t'.waiting = l.map (later b')

variable {b b' : Ticket} {t t' : Traffic σ}

/-- What is done without the service. -/
theorem SameFlight.withClient {told' : Bool} (h : t.SameFlight R n told b b' t')
    (hc : Client.SameScreens R n told' c c') :
    Traffic.SameFlight R n told' b b' { t with client := c } { t' with client := c' } :=
  ⟨hc, h.due, h.flight⟩

theorem SameFlight.withDue (h : t.SameFlight R n told b b' t') (due : Bool) :
    (t.withDue due).SameFlight R n told b b' (t'.withDue due) := by
  rcases due with _ | _
  · exact h
  · exact ⟨h.client, congrArg (· + 1) h.due, h.flight⟩

/-- Both go on alike after the first half of an operation, each under its next ticket. The tickets
differ by a constant only, since both flights hand out a ticket at the same events. -/
theorem SameFlight.proceed {told' : Bool} (h : t.SameFlight R n told b b' t')
    {r r' : Client σ × Progress} (hr : Agree R n told' r r') :
    (t.proceed r).1.SameFlight R n told' b b' (t'.proceed r').1 ∧
      ∃ k status, (t.proceed r).2 = (b + k, status) ∧ (t'.proceed r').2 = (b' + k, status) := by
  obtain ⟨c, progress⟩ := r
  obtain ⟨c', progress'⟩ := r'
  obtain rfl : progress' = progress := hr.same
  obtain ⟨k, l, hnext, hnext', hwaiting, hwaiting'⟩ := h.flight
  have hlater : t.next + 1 = b + (k + 1) ∧ t'.next + 1 = b' + (k + 1) := by
    rw [hnext, hnext']
    exact ⟨Nat.add_assoc .., Nat.add_assoc ..⟩
  -- in both the request takes the next ticket, or the operation has ended without one
  rcases progress' with p | e
  · refine ⟨⟨hr.alike, h.due, k + 1, l ++ [(k, p)], hlater.1, hlater.2, ?_, ?_⟩,
      k, .sent p.request, by rw [← hnext]; rfl, by rw [← hnext']; rfl⟩
    · rw [List.map_append, ← hwaiting, List.map_singleton, later, ← hnext]
      rfl
    · rw [List.map_append, ← hwaiting', List.map_singleton, later, ← hnext']
      rfl
  · have hended : Traffic.SameFlight R n told' b b' { t with client := c, next := t.next + 1 }
        { t' with client := c', next := t'.next + 1 } :=
      ⟨hr.alike, h.due, k + 1, l, hlater.1, hlater.2, hwaiting, hwaiting'⟩
    exact ⟨hended.withDue e.fetchDue, k, .ended e.outcome, by rw [← hnext]; rfl,
      by rw [← hnext']; rfl⟩

variable [Storage σ]

theorem SameFlight.fetchDue (h : t.SameFlight R n told b b' t') (hR : Storage.Respects R) :
    (t.step .fetchDue).SameFlight R n told b b' (t'.step .fetchDue) := by
  simp only [step, Traffic.fetchDue]
  rw [h.due]
  rcases t.due with _ | due
  · exact h
  · have hfetch := h.client.fetchPage hR
    have htaken : Traffic.SameFlight R n told b b' { t with due := due } { t' with due := due } :=
      ⟨h.client, rfl, h.flight⟩
    dsimp only
    generalize t.client.fetchPage = r at hfetch ⊢
    generalize t'.client.fetchPage = r' at hfetch ⊢
    exact (htaken.proceed hfetch).1

/-- The same request is answered in the same way. An answer to a request from before the two flights
began is not covered: its ticket lies below the two bases. -/
theorem SameFlight.answer (h : t.SameFlight R n told b b' t') (hR : Storage.Respects R)
    (ticket : Ticket) (result : Except Failure Response) :
    (t.step (.answer (b + ticket) result)).SameFlight R n told b b'
      (t'.step (.answer (b' + ticket) result)) := by
  obtain ⟨k, l, hnext, hnext', hwaiting, hwaiting'⟩ := h.flight
  simp only [step, Traffic.answer, hwaiting, hwaiting', lookup_later, filter_later]
  -- tickets are compared from the start of the flight, so both find the same request or none
  rcases l.lookup ticket with _ | p
  · exact h
  · have hsettle : Agree R n told (t.client.settle p result) (t'.client.settle p result) :=
      h.client.conclude hR p.purpose p.endpoint result
    dsimp only
    generalize t.client.settle p result = r at hsettle
    generalize t'.client.settle p result = r' at hsettle
    obtain ⟨c, e⟩ := r
    obtain ⟨c', e'⟩ := r'
    obtain rfl : e' = e := hsettle.same
    have hanswered : Traffic.SameFlight R n told b b'
        { t with client := c, waiting := (l.filter (·.1 != ticket)).map (later b) }
        { t' with client := c', waiting := (l.filter (·.1 != ticket)).map (later b') } :=
      ⟨hsettle.alike, h.due, k, l.filter (·.1 != ticket), hnext, hnext', rfl, rfl⟩
    exact hanswered.withDue e'.fetchDue

end Traffic

end Rendezvous.Client
