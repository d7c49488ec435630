/-
The client core: an `ApiClient`, its `CredentialStore`, and a cell for the state of each controller.

The five controllers are independent in the program, and what ties them together is the one
`ApiClient` that they share. Here they are one record, with a list of conversations for the
`ChatDetailController`s that have been created. This module has what happens at once, without the
server: reading, storing and clearing tokens, `check_existing`, `logout`, `dismiss_match` and the
creation of a controller for a conversation.
-/
import Rendezvous.Client.Cell
import Rendezvous.Client.Notice
import Rendezvous.Client.Screens
import Rendezvous.Client.Trouble
import Rendezvous.Service.Endpoint
import Rendezvous.Service.Environment

set_option autoImplicit false

namespace Rendezvous

/-- A `ChatDetailController`: the conversation that it was created for, and its state. Two of them
may be for the same conversation, and then they do not know of each other. -/
structure Client.Room where
  conversationId : String
  thread : Client.Cell Client.Thread := ⟨{}, []⟩

open Client in
/-- The whole client, over the storage of its tokens. The storage is a parameter, so that what is
proved holds over memory, over a file, and over anything else that keeps the contract of
`SecureStorage`. -/
structure Client (σ : Type := Credential.Vault) where
  /-- the base URL that the paths of endpoints are put behind -/
  address : String
  paging : Service.Paging := {}
  store : Credential.Store σ
  session : Cell Session := ⟨{}, []⟩
  deck : Cell Deck := ⟨{}, []⟩
  inbox : Cell Inbox := ⟨{}, []⟩
  /-- every `ChatDetailController` that there has been, in order; a number in this list stands for
  one, and none is ever removed, because a request may still be on the way for one that is not open
  any more -/
  rooms : List Room := []
  own : Cell OwnProfile := ⟨{}, []⟩
  /-- what was logged, in order -/
  notices : List Notice := []

namespace Client

open Credential (Storage Token)

variable {σ : Type}

/-! ## Small steps -/

/-- Log something. -/
def note (n : Notice) (c : Client σ) : Client σ :=
  { c with notices := c.notices ++ [n] }

/-- Log what the store has logged. -/
def noteAll (ns : List Credential.Notice) (c : Client σ) : Client σ :=
  { c with notices := c.notices ++ ns.map Notice.credential }

/-- Publish the next state of the session. -/
def onSession (f : Session → Session) (c : Client σ) : Client σ :=
  { c with session := c.session.modify f }

/-- Publish the next state of the deck. -/
def onDeck (f : Deck → Deck) (c : Client σ) : Client σ :=
  { c with deck := c.deck.modify f }

/-- Publish the next state of the inbox. -/
def onInbox (f : Inbox → Inbox) (c : Client σ) : Client σ :=
  { c with inbox := c.inbox.modify f }

/-- Publish the next state of the own profile. -/
def onOwn (f : OwnProfile → OwnProfile) (c : Client σ) : Client σ :=
  { c with own := c.own.modify f }

/-- Publish the next state of an open conversation; of one that has not been opened there is nothing
to publish. -/
def onThread (room : Nat) (f : Thread → Thread) (c : Client σ) : Client σ :=
  { c with rooms := c.rooms.modify room fun r => { r with thread := r.thread.modify f } }

/-! ## Tokens -/

/-- `CredentialStore::get`. A failure of the backend is logged and reads as no token. -/
def token [Storage σ] (t : Token) (c : Client σ) : Client σ × Option String :=
  let r := c.store.token t
  (c.noteAll r.2, r.1)

/-- `CredentialStore::store`: keep a pair of tokens, both or none. -/
def keepTokens [Storage σ] (access refresh : String) (c : Client σ) :
    Client σ × Except Credential.Failure Unit :=
  let r := c.store.save access refresh
  (({ c with store := r.1 }).noteAll r.2.2, r.2.1)

/-- `CredentialStore::clear`: forget both tokens, or keep them. -/
def forgetTokens [Storage σ] (c : Client σ) : Client σ × Except Credential.Failure Unit :=
  let r := c.store.clear
  (({ c with store := r.1 }).noteAll r.2.2, r.2.1)

/-! ## What happens at once -/

/-- `SessionController::check_existing`: the session is open if an access token is stored. It is
never closed here, so a login that has just ended cannot be undone. -/
def resume [Storage σ] (c : Client σ) : Client σ :=
  match c.token .access with
  | (c, some _) => (c.note .resumed).onSession Session.opened
  | (c, none) => c

/-- A client over a store, as `SessionController::new` makes it: it takes up the session that is
there. -/
def opened [Storage σ] (address : String) (paging : Service.Paging)
    (store : Credential.Store σ) : Client σ :=
  resume { address := address, paging := paging, store := store }

/-- `SessionController::logout`. The session is closed afterwards, even if the tokens could not be
removed; then they are still stored, and the error says why. -/
def logOut [Storage σ] (c : Client σ) : Client σ :=
  match c.forgetTokens with
  | (c, .ok ()) => (c.note .loggedOut).onSession (Session.closed none)
  | (c, .error why) =>
    (c.note .loggedOut).onSession (Session.closed (some (Trouble.storage why).userMessage))

/-- `DiscoveryController::dismiss_match`. -/
def dismissMatch (c : Client σ) : Client σ :=
  c.onDeck Deck.noted

/-- `ChatDetailController::new`: open a conversation, under the next number. It starts empty, also
if the same conversation has been opened before. -/
def openRoom (conversationId : String) (c : Client σ) : Client σ × Nat :=
  ({ c with rooms := c.rooms ++ [{ conversationId := conversationId }] }, c.rooms.length)

end Client

end Rendezvous
