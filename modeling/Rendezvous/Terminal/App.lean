/-
`App`: commands in, text out.

`App::dispatch` carries a command out at once, or starts one operation and waits for it, and then it
renders the screen of the command. It is cut where it waits: `begin` is what runs before, `answer`
what runs after, and between the two the controllers may do what they like.

At most one conversation is open. It is opened by the end of the command that opens it, even if the
conversation could not be loaded, and logging out closes it. Every other screen keeps its data when
the session ends.
-/
import Rendezvous.Client.Traffic
import Rendezvous.Terminal.Command
import Rendezvous.Terminal.View

set_option autoImplicit false

namespace Rendezvous.Terminal

open Client (Operation Outcome Status Thread Ticket Traffic)
open Credential (Storage)
open Service (Failure)
open Web (Request Response)

/-- `App`: the controllers, and which conversation is open. -/
structure App (σ : Type := Credential.Vault) where
  traffic : Traffic σ
  /-- the conversation that is open, by the number of its `ChatDetailController` -/
  chat : Option Nat := none
  /-- what the clock gives as the date of today, on which ages are counted -/
  today : Time.Date

/-- Which screen is rendered when a command has been carried out. -/
inductive View
  /-- the state of the session, with the text for a success -/
  | session (success : String)
  | deck
  | matchList
  | inbox
  /-- the messages of a conversation that is open from then on -/
  | opening (room : Nat)
  | thread (room : Nat)
  | profile

/-- What a command comes down to, once the terminal is ready for it. The commands differ in this and
in what makes the terminal ready (`App.ready`), and in nothing else. -/
inductive Task
  | quits
  | tells (text : String)
  /-- a view is shown at once -/
  | shows (view : View)
  /-- an operation is started, and a view shows what has become of it -/
  | starts (op : Operation) (view : View)

/-- How far a command has got. -/
inductive Turn
  | replies (text : String)
  | quits
  | waits (ticket : Ticket) (request : Request) (view : View)

namespace App

variable {σ : Type}

/-- The controllers under the terminal. -/
def client (a : App σ) : Client σ := a.traffic.client

/-- `is_authenticated`. -/
def authenticated (a : App σ) : Bool :=
  a.client.session.value.authenticated

/-- The messages of a conversation, as they are in the controller with this number. -/
def threadShown (room : Nat) (a : App σ) : String :=
  threadView ((a.client.rooms[room]?).elim {} fun r => r.thread.value)

/-- Render the screen of a command. Of all views only the one that opens a conversation changes the
terminal, and it does so whatever the screen holds. -/
def present (view : View) (a : App σ) : App σ × String :=
  match view with
  | .session success => (a, sessionView success a.client.session.value)
  | .deck => (a, deckView a.client.deck.value)
  | .matchList => (a, matchesView a.client.deck.value)
  | .inbox => (a, inboxView a.client.inbox.value)
  -- open even if it could not be loaded, so a message that is sent next goes there
  | .opening room => ({ a with chat := some room }, a.threadShown room)
  | .thread room => (a, a.threadShown room)
  | .profile => (a, ownView a.today a.client.own.value)

/-- The end of a command that waits for nothing. -/
def sayAtOnce (view : View) (a : App σ) : App σ × Turn :=
  let r := a.present view
  (r.1, .replies r.2)

/-- Start an operation whose outcome is shown in a view. An operation may end without a request, for
want of a token or of a card or because the URL cannot be resolved, and then the view is shown at
once. -/
def start [Storage σ] (op : Operation) (view : View) (a : App σ) : App σ × Turn :=
  let r := a.traffic.begin op
  let begun : App σ := { a with traffic := r.1 }
  match r.2.2 with
  | .sent request => (begun, .waits r.2.1 request view)
  | .ended _ => begun.sayAtOnce view

/-- Make the terminal ready for a command: three of them act on a controller before anything is
shown or asked, and none of the three waits for an answer. `logout` forgets the tokens and closes
the conversation, `dismiss` acknowledges the match, and `open` builds the controller of the
conversation. -/
def ready [Storage σ] (command : Command) (a : App σ) : App σ :=
  match command with
  | .logOut => { a with traffic := a.traffic.locally Client.logOut, chat := none }
  | .dismiss => { a with traffic := a.traffic.locally Client.dismissMatch }
  | .openChat id => { a with traffic := a.traffic.locally fun c => (c.openRoom id).1 }
  | _ => a

/-- The task of a command. A message needs a conversation to go to; without one a person is told so,
and nothing is asked of the service. -/
def task (command : Command) (a : App σ) : Task :=
  match command with
  | .quit => .quits
  | .help => .tells Command.helpText
  | .status => .tells (statusView a.client.session.value a.client.address)
  | .logIn credentials => .starts (.logIn credentials) (.session "Logged in")
  | .register credentials => .starts (.register credentials) (.session "Registered")
  | .logOut => .shows (.session "Logged out")
  | .renew => .starts .renew (.session "Session refreshed")
  | .deck => .starts .loadPage .deck
  | .swipe direction => .starts (.swipe direction) .deck
  | .dismiss => .shows .deck
  | .matchList => .starts .loadMatches .matchList
  | .chats => .starts .loadConversations .inbox
  | .openChat id =>
    .starts (.loadThread (a.client.openRoom id).2) (.opening (a.client.openRoom id).2)
  | .send text =>
    match a.chat with
    | some room => .starts (.send room text) (.thread room)
    | none => .tells "No conversation open. Use 'open ID' first"
  | .profile => .starts .loadProfile .profile
  | .name text => .starts (.updateProfile { displayName := some text }) .profile
  | .bio text => .starts (.updateProfile { bio := some text }) .profile

/-- Carry out a task, up to where it waits for the service. -/
def carryOut [Storage σ] (task : Task) (a : App σ) : App σ × Turn :=
  match task with
  | .quits => (a, .quits)
  | .tells text => (a, .replies text)
  | .shows view => a.sayAtOnce view
  | .starts op view => a.start op view

/-- Begin a command: the first half of `App::dispatch`, which ends where the service is asked. What
the task is follows from the terminal as the command finds it. -/
def begin [Storage σ] (command : Command) (a : App σ) : App σ × Turn :=
  (a.ready command).carryOut (a.task command)

/-- The second half of `App::dispatch`: answer the request that the command waits for and render its
view. -/
def answer [Storage σ] (ticket : Ticket) (result : Except Failure Response) (view : View)
    (a : App σ) : App σ × String :=
  { a with traffic := (a.traffic.answer ticket result).1 }.present view

end App

end Rendezvous.Terminal
