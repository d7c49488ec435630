/-
Scenarios: a client, a scripted transport, and cues given one after the other.

A cue runs until nothing can go on: an operation goes as far as a closed gate or to its end, and
then the pages that have been claimed are fetched, as by the task that `prefetch` spawns. The client
can be closed and opened again over what is left of its credentials. Requests of a client that has
been closed still go on; they belong to a former client, which shares nothing with the present one
but the directory of the credentials and the service.

What happens under a cue is recorded: the requests (with the screens as they were when each was
made), the log records, the operations that ended, and the screens that have published since they
were last reported.
-/
import Rendezvous.Client.Traffic
import Rendezvous.Rehearsal.Script

set_option autoImplicit false

namespace Rendezvous.Rehearsal

open Client (Cell Observer Notice Operation Outcome Status Ticket Traffic)
open Credential (Directory Medium Outage Token)
open Service (Failure)
open Web (Request Response)

/-! ## What is seen -/

/-- What all screens show. -/
structure Screens where
  session : Client.Session
  deck : Client.Deck
  inbox : Client.Inbox
  thread : Client.Thread
  own : Client.OwnProfile

/-- The thread of an open conversation. -/
def threadOf (c : Client) (room : Nat) : Cell Client.Thread :=
  (c.rooms[room]?).elim ⟨{}, []⟩ Client.Room.thread

/-- What the screens of a client show, with one of the open conversations. -/
def Screens.of (c : Client) (room : Nat) : Screens where
  session := c.session.value
  deck := c.deck.value
  inbox := c.inbox.value
  thread := (threadOf c room).value
  own := c.own.value

/-- One observer for each screen. -/
structure Watch where
  session : Observer
  deck : Observer
  inbox : Observer
  thread : Observer
  own : Observer

/-- Observers that have seen everything so far. -/
def Watch.of (c : Client) (room : Nat) : Watch where
  session := c.session.observer
  deck := c.deck.observer
  inbox := c.inbox.observer
  thread := (threadOf c room).observer
  own := c.own.observer

/-- The screens that have published since, and what they show. -/
structure Changes where
  session : Option Client.Session
  deck : Option Client.Deck
  inbox : Option Client.Inbox
  thread : Option Client.Thread
  own : Option Client.OwnProfile

/-- What a cell shows, if an observer has missed something. -/
def news {α : Type} (c : Cell α) (o : Observer) : Option α :=
  if c.isNewTo o then some c.value else none

/-- What observers have missed. -/
def Changes.of (c : Client) (room : Nat) (w : Watch) : Changes where
  session := news c.session w.session
  deck := news c.deck w.deck
  inbox := news c.inbox w.inbox
  thread := news (threadOf c room) w.thread
  own := news c.own w.own

/-! ## The stage -/

/-- A request as the service saw it, with the screens that a user saw at that moment. -/
structure Seen where
  request : Request
  /-- the screens of the present client when the request was made -/
  screens : Screens

/-- Whose operation it is: the number of the client, and the ticket there. -/
structure Owner where
  client : Nat
  ticket : Ticket
deriving Repr, DecidableEq

/-- A request in front of a closed gate. -/
structure Held where
  gate : Nat
  owner : Owner
  route : Route

/-- Everything that takes part in a scenario: the script of the service, the client with its
requests under way, and what has been observed so far. -/
structure Stage where
  script : Script := {}
  /-- the clients that have been closed, by number -/
  former : List Traffic := []
  present : Traffic
  /-- the conversation that was opened last -/
  room : Nat
  watch : Watch
  held : List Held := []
  /-- the operations that a cue has begun and that have not ended, with the cue's number -/
  begun : List (Owner × Nat) := []
  requests : List Seen := []
  notices : List Notice := []
  finished : List (Nat × Outcome) := []

namespace Stage

/-- The number of the present client. -/
def presentNumber (s : Stage) : Nat :=
  s.former.length

/-- The credential directory of a client, if it keeps its credentials in one. -/
def directory? (t : Traffic) : Option Directory :=
  match t.client.store.vault.medium with
  | .directory d => some d
  | .memory _ => none

/-- A client with another state of the directory, if it keeps its credentials in one. -/
def withDirectory (d : Option Directory) (t : Traffic) : Traffic :=
  match d, t.client.store.vault.medium with
  | some d, .directory _ =>
    { t with client.store.vault.medium := .directory d }
  | _, _ => t

/-- Let a client act. The others see what it has done to the directory, and what it has logged goes
to the record. -/
def act {α : Type} (number : Nat) (f : Traffic → Traffic × α) (s : Stage) : Stage × Option α :=
  if number = s.presentNumber then
    let r := f s.present
    ({ s with
        present := { r.1 with client.notices := [] }
        notices := s.notices ++ r.1.client.notices }, some r.2)
  else
    match s.former[number]? with
    | none => (s, none)
    | some t =>
      let r := f (withDirectory (directory? s.present) t)
      ({ s with
          former := s.former.set number { r.1 with client.notices := [] }
          present := withDirectory (directory? r.1) s.present
          notices := s.notices ++ r.1.client.notices }, some r.2)

/-- Move what the present client has logged to the record. -/
def collect (s : Stage) : Stage :=
  { s with
    present := { s.present with client.notices := [] }
    notices := s.notices ++ s.present.client.notices }

/-- Record the end of an operation, if a cue has begun it. -/
def finish (owner : Owner) (outcome : Outcome) (s : Stage) : Stage :=
  match s.begun.lookup owner with
  | none => s
  | some cue =>
    { s with
      begun := s.begun.filter (·.1 != owner)
      finished := s.finished ++ [(cue, outcome)] }

/-- Give a request the next answer of its route. The answer is taken from the queue even if the
client that asked is closed, since the transport cannot know. -/
def deliver (owner : Owner) (route : Route) (s : Stage) : Stage :=
  let taken := s.script.takeAnswer route
  let left : Stage := { s with script := taken.1 }
  let r := left.act owner.client (·.answer owner.ticket taken.2)
  match r.2.join with
  | none => r.1
  | some outcome => r.1.finish owner outcome

/-- A request reaches the service. -/
def arrive (owner : Owner) (request : Request) (s : Stage) : Stage :=
  let route := Route.of request
  let taken := s.script.takeGate route
  let seen : Stage := { s with
    script := taken.1
    requests := s.requests ++ [⟨request, .of s.present.client s.room⟩] }
  match taken.2 with
  | some (gate, false) => { seen with held := seen.held ++ [⟨gate, owner, route⟩] }
  | _ => seen.deliver owner route

/-- Go on after an operation has begun. -/
def follow (client : Nat) (begun : Ticket × Status) (s : Stage) : Stage :=
  let owner : Owner := ⟨client, begun.1⟩
  match begun.2 with
  | .sent request => s.arrive owner request
  | .ended outcome => s.finish owner outcome

/-- Fetch one page that is due. -/
def fetchOne (client : Nat) (s : Stage) : Stage :=
  let r := s.act client Traffic.fetchDue
  match r.2.join with
  | none => r.1
  | some begun => r.1.follow client begun

/-- The pages of a client that are due. -/
def dueOf (client : Nat) (s : Stage) : Nat :=
  if client = s.presentNumber then s.present.due else ((s.former[client]?).map Traffic.due).getD 0

/-- Fetch the pages of a client that are due. -/
def fetchAll (client : Nat) (s : Stage) : Stage :=
  (List.range (s.dueOf client)).foldl (fun s _ => s.fetchOne client) s

/-- Begin an operation of the present client under a cue. -/
def begin (cue : Nat) (op : Operation) (s : Stage) : Stage :=
  let number := s.presentNumber
  let r := s.act number (·.begin op)
  match r.2 with
  | none => r.1
  | some begun =>
    let listed : Stage := { r.1 with begun := r.1.begun ++ [(⟨number, begun.1⟩, cue)] }
    (listed.follow number begun).fetchAll number

/-- Open a gate; the request that waits at it goes on. -/
def openGate (name : String) (s : Stage) : Stage :=
  match s.script.gateNamed? name with
  | none => s
  | some n =>
    let opened : Stage := { s with script := s.script.openGate n }
    match s.held.find? (·.gate == n) with
    | none => opened
    | some h =>
      let freed : Stage := { opened with held := opened.held.filter (·.gate != n) }
      (freed.deliver h.owner h.route).fetchAll h.owner.client

/-- Change the present client without the service. -/
def locally (f : Client → Client) (s : Stage) : Stage :=
  (s.act s.presentNumber fun t => (t.locally f, ())).1

/-- Ask the present client something. -/
def query {α : Type} (f : Client → Client × α) (s : Stage) : Stage × Option α :=
  s.act s.presentNumber fun t =>
    let r := f t.client
    ({ t with client := r.1 }, r.2)

/-- Open a conversation; it is the one that is watched from now on. -/
def openRoom (conversationId : String) (s : Stage) : Stage :=
  let r := s.present.client.openRoom conversationId
  { s with
    present := { s.present with client := r.1 }
    room := r.2
    watch := { s.watch with thread := (threadOf r.1 r.2).observer } }

/-- A client over a store, with a conversation open. -/
def raise (address : String) (paging : Service.Paging) (store : Credential.Store)
    (conversationId : String) : Client × Nat :=
  (Client.opened address paging store).openRoom conversationId

/-- A stage with a new client. -/
def opened (address : String) (paging : Service.Paging) (store : Credential.Store)
    (conversationId : String) : Stage :=
  let r := raise address paging store conversationId
  { present := { client := { r.1 with notices := [] } }
    room := r.2
    watch := .of r.1 r.2
    notices := r.1.notices }

/-- Close the client and open another one over what is left of its secrets. -/
def restart (conversationId : String) (s : Stage) : Stage :=
  let c := s.present.client
  let r := raise c.address c.paging c.store.reopened conversationId
  { s with
    former := s.former ++ [s.present]
    present := { client := { r.1 with notices := [] } }
    room := r.2
    watch := .of r.1 r.2
    notices := s.notices ++ r.1.notices }

/-! ## The record -/

/-- What happened under a cue. -/
structure Record where
  requests : List Seen
  notices : List Notice
  finished : List (Nat × Outcome)
  changes : Changes

/-- Take the record of a cue. -/
def report (s : Stage) : Stage × Record :=
  ({ s with
      requests := []
      notices := []
      finished := []
      watch := .of s.present.client s.room },
    { requests := s.requests
      notices := s.notices
      finished := s.finished
      changes := .of s.present.client s.room s.watch })

end Stage

end Rendezvous.Rehearsal
