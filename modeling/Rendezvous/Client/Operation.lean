/-
The asynchronous methods of the controllers, each in two halves.

The first half of a call publishes that it is under way, writes its request and hands it to the
transport (`begin`). When the answer is there, the second half reads it and publishes the outcome
(`conclude`). Between the two anything else may run, so the second half looks at the state as it is
then and not as it was; what has to be remembered across the wait (whom a decision was about, which
conversation was open) is the `Purpose` of the request.

A call whose URL cannot be resolved is concluded without a request. A decision that leaves too few
candidates claims the next page and spawns a prefetch: the claim is made at once, and the fetch is
handed back as due.

The two halves are tables over the methods of `SessionController`, `DiscoveryController`,
`ChatListController`, `ChatDetailController` and `ProfileController`, with `ApiClient::execute` for
any other endpoint.
-/
import Rendezvous.Client.Basic
import Rendezvous.Wire.Kind

set_option autoImplicit false

namespace Rendezvous.Client

open Credential (Storage)
open Service (Endpoint Failure)
open Web (Request Response)

variable {σ : Type}

/-- A call of an asynchronous method of one of the controllers, with its arguments. -/
inductive Operation
  | logIn (credentials : Wire.Credentials)
  | register (credentials : Wire.Credentials)
  /-- exchange the refresh token for a new pair -/
  | renew
  | loadPage
  | swipe (direction : Wire.Direction)
  | loadMatches
  | loadConversations
  /-- `load_conversation` on the controller with this number -/
  | loadThread (room : Nat)
  | send (room : Nat) (text : String)
  | loadProfile
  | updateProfile (update : Wire.ProfileUpdate)
  /-- `execute` and `execute_void`: ask for an endpoint and hand back the answer, as a value of a
  kind or not at all -/
  | plain (endpoint : Endpoint) (kind : Option Wire.Kind)

/-- What an answer is for: the local variables of a call that are still needed after the wait.
Everything else is read again from the state, which may have changed meanwhile. -/
inductive Purpose
  | tokens (way : Admission)
  | page
  /-- a decision remembers whom it was about, to see later whether that card is still on top -/
  | decision (candidateId : String)
  | matchList
  | conversations
  | thread (room : Nat)
  | message (room : Nat)
  | profile
  | plain (kind : Option Wire.Kind)

/-- A call that waits for the transport. -/
structure Pending where
  purpose : Purpose
  endpoint : Endpoint
  request : Request

/-- A decoded value of any of the kinds. -/
abbrev Parcel : Type :=
  (kind : Wire.Kind) × kind.Carrier

/-- What a call returns. The methods of the controllers return nothing and publish instead. -/
inductive Outcome
  /-- the screens say it all -/
  | shown
  /-- the answer itself -/
  | answer (result : Except Failure (Option Parcel))

/-- A call that has ended. -/
structure Ending where
  outcome : Outcome
  /-- whether a page has been claimed that is still to be fetched -/
  fetchDue : Bool

/-- How far a call has got after its first half. -/
inductive Progress
  | waiting (p : Pending)
  | ended (e : Ending)

/-- The end of an operation that leaves nothing to do. -/
def Ending.plain : Ending := ⟨.shown, false⟩

/-! ## Requests and answers -/

/-- `ApiClient::build_request`. The token in it is the one that is stored now; if it is replaced
while the request is on its way, the request does not change. -/
def request [Storage σ] (e : Endpoint) (c : Client σ) : Client σ × Except Failure Request :=
  match Service.resolve c.address e with
  | .error why => (c, .error why)
  | .ok url =>
    let r := c.token .access
    (r.1, .ok (Service.requestAt url r.2 e))

/-- The status of an answer is looked at before its body: only 200 to 299 is success, and anything
else is an error that keeps the body, which may hold the server's own wording. -/
def accept (e : Endpoint) (result : Except Failure Response) (c : Client σ) :
    Client σ × Except Failure (List UInt8) :=
  match result with
  | .error why => (c, .error why)
  | .ok r =>
    if Web.isSuccess r.status then (c, .ok r.body)
    else (c.note (.refused e.method e.path r.status), .error (.refused r.status r.body))

/-- `ApiClient::execute`: the value that an answer holds. A body that cannot be decoded is logged
and is an error like any other. -/
def receive {α : Type} (codec : Json.Codec α) (e : Endpoint) (result : Except Failure Response)
    (c : Client σ) : Client σ × Except Failure α :=
  match c.accept e result with
  | (c, .error why) => (c, .error why)
  | (c, .ok body) =>
    match codec.decode body with
    | .ok a => (c, .ok a)
    | .error why => (c.note (.undecodable e.method e.path why), .error (.undecodable why))

/-! ## Conclusions -/

/-- The second half of `authenticate`. The flag goes up only once the pair is stored, so that a
store that refuses it leaves the session as it was. -/
def concludeTokens [Storage σ] (way : Admission) (result : Except Failure Wire.TokenPair)
    (c : Client σ) : Client σ :=
  match result with
  | .error why =>
    (c.note (.tokensFailed way why)).onSession (Session.denied (Trouble.service why).userMessage)
  | .ok pair =>
    match c.keepTokens pair.accessToken pair.refreshToken with
    | (c, .error why) => c.onSession (Session.denied (Trouble.storage why).userMessage)
    | (c, .ok ()) => (c.note (.tokensStored way)).onSession Session.granted

/-- The second half of `fetch_page`. -/
def concludePage (result : Except Failure Wire.Page) (c : Client σ) : Client σ :=
  match result with
  | .error why => (c.note (.candidatesFailed why)).onDeck (Deck.notDealt why.userMessage)
  | .ok page => (c.note (.candidatesLoaded page.profiles.length)).onDeck (Deck.dealt page)

/-- `begin_loading`: claim the next page, if none is being fetched. -/
def claimPage (c : Client σ) : Client σ × Bool :=
  let r := c.deck.modify? Deck.claim?
  ({ c with deck := r.1 }, r.2)

/-- `prefetch`: claim the next page ahead of time, if few candidates are left and none is being
fetched. The claim is made before the fetch is spawned, so two decisions that arrive one after the
other spawn only one. -/
def claimAhead (c : Client σ) : Client σ × Bool :=
  if c.deck.value.remaining ≤ c.paging.threshold then
    match c.claimPage with
    | (c, true) => (c.note .fetchingAhead, true)
    | (c, false) => (c, false)
  else (c, false)

/-- Log a new match. -/
def noteMatch (matched : Option Wire.Match) (c : Client σ) : Client σ :=
  match matched with
  | some m => c.note (.matched m.id)
  | none => c

/-- The second half of `swipe`. The answer is whether a prefetch has been spawned. The cursor is
moved before the threshold is looked at, so the card that was decided about does not count as
left. -/
def concludeDecision (candidateId : String) (result : Except Failure Wire.SwipeResult)
    (c : Client σ) : Client σ × Bool :=
  match result with
  | .error why =>
    ((c.note (.swipeFailed candidateId why)).onDeck (Deck.undecided why.userMessage), false)
  | .ok answer =>
    ((c.noteMatch answer.matched).onDeck (Deck.decided candidateId answer)).claimAhead

/-- The matches were asked for. -/
def concludeMatches (result : Except Failure Wire.MatchList) (c : Client σ) : Client σ :=
  match result with
  | .error why => (c.note (.matchesFailed why)).onDeck (Deck.matchesStayedAway why.userMessage)
  | .ok list => c.onDeck (Deck.matchesCame list)

/-- The conversations were asked for. -/
def concludeConversations (result : Except Failure Wire.ConversationList) (c : Client σ) :
    Client σ :=
  match result with
  | .error why => (c.note (.conversationsFailed why)).onInbox (Inbox.notFilled why.userMessage)
  | .ok list => c.onInbox (Inbox.filled list)

/-- The identifier of an open conversation; of one that has not been opened it is empty, and nothing
asks for that. -/
def roomId (room : Nat) (c : Client σ) : String :=
  (c.rooms[room]?).elim "" Room.conversationId

/-- The second half of `load_conversation`. -/
def concludeThread (room : Nat) (result : Except Failure Wire.Transcript) (c : Client σ) :
    Client σ :=
  match result with
  | .error why =>
    (c.note (.conversationFailed (c.roomId room) why)).onThread room
      (Thread.notShown why.userMessage)
  | .ok transcript => c.onThread room (Thread.shown transcript)

/-- The second half of `send_message`. -/
def concludeMessage (room : Nat) (result : Except Failure Wire.Message) (c : Client σ) :
    Client σ :=
  match result with
  | .error why =>
    (c.note (.sendingFailed (c.roomId room) why)).onThread room
      (Thread.notPosted why.userMessage)
  | .ok m => c.onThread room (Thread.posted m)

/-- The second half of `run`, which `load_profile` and `update_profile` share. -/
def concludeProfile (result : Except Failure Wire.Profile) (c : Client σ) : Client σ :=
  match result with
  | .error why => (c.note (.profileFailed why)).onOwn (OwnProfile.notAdopted why.userMessage)
  | .ok p => c.onOwn (OwnProfile.adopted p)

/-- An endpoint was asked for without a screen. -/
def concludePlain (kind : Option Wire.Kind) (e : Endpoint) (result : Except Failure Response)
    (c : Client σ) : Client σ × Except Failure (Option Parcel) :=
  match kind with
  | none =>
    let r := c.accept e result
    (r.1, r.2.map fun _ => none)
  | some k =>
    let r := c.receive k.codec e result
    (r.1, r.2.map fun value => some ⟨k, value⟩)

/-- The second half of a call: read the answer as what was asked for, and publish the outcome. It
runs without another `await`, so nothing comes in between. -/
def conclude [Storage σ] (purpose : Purpose) (e : Endpoint) (result : Except Failure Response)
    (c : Client σ) : Client σ × Ending :=
  match purpose with
  | .tokens way =>
    let r := c.receive Wire.TokenPair.codec e result
    (r.1.concludeTokens way r.2, .plain)
  | .page =>
    let r := c.receive Wire.Page.codec e result
    (r.1.concludePage r.2, .plain)
  | .decision candidateId =>
    let r := c.receive Wire.SwipeResult.codec e result
    let s := r.1.concludeDecision candidateId r.2
    (s.1, ⟨.shown, s.2⟩)
  | .matchList =>
    let r := c.receive Wire.MatchList.codec e result
    (r.1.concludeMatches r.2, .plain)
  | .conversations =>
    let r := c.receive Wire.ConversationList.codec e result
    (r.1.concludeConversations r.2, .plain)
  | .thread room =>
    let r := c.receive Wire.Transcript.codec e result
    (r.1.concludeThread room r.2, .plain)
  | .message room =>
    let r := c.receive Wire.Message.codec e result
    (r.1.concludeMessage room r.2, .plain)
  | .profile =>
    let r := c.receive Wire.Profile.codec e result
    (r.1.concludeProfile r.2, .plain)
  | .plain kind =>
    let r := c.concludePlain kind e result
    (r.1, ⟨.answer r.2, false⟩)

/-- Answer a request that waits. -/
def settle [Storage σ] (p : Pending) (result : Except Failure Response) (c : Client σ) :
    Client σ × Ending :=
  c.conclude p.purpose p.endpoint result

/-! ## Beginnings -/

/-- Hand a request to the transport. Without a URL there is nothing to wait for, and the call is
concluded with the error. -/
def ask [Storage σ] (e : Endpoint) (purpose : Purpose) (c : Client σ) : Client σ × Progress :=
  match c.request e with
  | (c, .error why) =>
    let r := c.conclude purpose e (.error why)
    (r.1, .ended r.2)
  | (c, .ok request) =>
    (c.note (.sending request.method (String.ofList request.url.path.text)),
      .waiting ⟨purpose, e, request⟩)

/-- The first half of `authenticate` and of `refresh`. -/
def askTokens [Storage σ] (way : Admission) (e : Endpoint) (c : Client σ) :
    Client σ × Progress :=
  (c.onSession Session.asking).ask e (.tokens way)

/-- The first half of `fetch_page`, for a page that has been claimed. -/
def fetchPage [Storage σ] (c : Client σ) : Client σ × Progress :=
  c.ask (.candidates c.paging.pageSize) .page

/-- The first half of a call, up to where it waits for the transport. Four of them may have nothing
to ask for and end at once: a renewal without a refresh token, a page while one is being fetched, a
decision without a candidate, and a blank message. -/
def begin [Storage σ] (op : Operation) (c : Client σ) : Client σ × Progress :=
  match op with
  | .logIn credentials => c.askTokens .login (.logIn credentials)
  | .register credentials => c.askTokens .registration (.register credentials)
  | .renew =>
    match c.token .refresh with
    | (c, some t) => c.askTokens .renewal (.renew ⟨t⟩)
    | (c, none) => (c.onSession (Session.blocked noRefreshToken.userMessage), .ended .plain)
  | .loadPage =>
    match c.claimPage with
    | (c, true) => c.fetchPage
    | (c, false) => (c, .ended .plain)
  | .swipe direction =>
    match c.deck.value.current? with
    | none => (c.note .noCandidate, .ended .plain)
    | some candidate =>
      -- whom the decision is about is read before the wait, with the card that is on top now
      (c.onDeck Deck.deciding).ask (.swipe ⟨candidate.id, direction⟩) (.decision candidate.id)
  | .loadMatches => (c.onDeck Deck.askingMatches).ask .matchList .matchList
  | .loadConversations => (c.onInbox Inbox.asking).ask .conversations .conversations
  | .loadThread room =>
    (c.onThread room Thread.asking).ask (.conversation (c.roomId room)) (.thread room)
  | .send room text =>
    let content := Text.trimmed text
    if content.isEmpty then (c, .ended .plain)
    else
      (c.onThread room Thread.posting).ask (.send (c.roomId room) ⟨content⟩) (.message room)
  | .loadProfile => (c.onOwn OwnProfile.asking).ask .profile .profile
  | .updateProfile update => (c.onOwn OwnProfile.asking).ask (.updateProfile update) .profile
  | .plain endpoint kind => c.ask endpoint (.plain kind)

end Rendezvous.Client
