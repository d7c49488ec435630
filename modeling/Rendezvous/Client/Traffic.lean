/-
A client with the calls that are in flight.

The controllers are asynchronous: any number of calls may wait for the server at once, and their
answers come in any order. A call is cut where it waits for the transport, and nowhere else, since
that is the only point at which another one can run. What waits is kept with a ticket, and tickets
are given out in the order in which calls begin.

A prefetch that has been spawned but has not started yet is counted as due; it is asked for when the
executor gets to it (`fetchDue`), which may be much later.
-/
import Rendezvous.Client.Operation

set_option autoImplicit false

namespace Rendezvous.Client

open Credential (Storage)
open Service (Failure)
open Web (Request Response)

/-- The number of a call. -/
abbrev Ticket : Type := Nat

/-- A client, the requests that have been handed to the transport, and the prefetches that have been
spawned. -/
structure Traffic (σ : Type := Credential.Vault) where
  client : Client σ
  /-- the requests that have not been answered, in the order of their tickets -/
  waiting : List (Ticket × Pending) := []
  /-- how many pages have been claimed but not yet asked for -/
  due : Nat := 0
  /-- the next ticket -/
  next : Ticket := 0

/-- What has become of a call after its first half. -/
inductive Status
  /-- its request is on the way -/
  | sent (request : Request)
  | ended (outcome : Outcome)

namespace Traffic

variable {σ : Type}

/-- Change the client without the server. -/
def locally (f : Client σ → Client σ) (t : Traffic σ) : Traffic σ :=
  { t with client := f t.client }

/-- Count a prefetch that has been spawned. -/
def withDue (fetchDue : Bool) (t : Traffic σ) : Traffic σ :=
  if fetchDue then { t with due := t.due + 1 } else t

/-- Go on after a first half: what waits is put at the end under the next ticket, and what has ended
is over at once. The ticket is used up either way, so a ticket is never given out twice. -/
def proceed (r : Client σ × Progress) (t : Traffic σ) : Traffic σ × Ticket × Status :=
  let after := { t with client := r.1, next := t.next + 1 }
  match r.2 with
  | .waiting p =>
    ({ after with waiting := after.waiting ++ [(t.next, p)] }, t.next, .sent p.request)
  | .ended e => (after.withDue e.fetchDue, t.next, .ended e.outcome)

/-- Begin a call, up to where it waits for the transport. -/
def begin [Storage σ] (op : Operation) (t : Traffic σ) : Traffic σ × Ticket × Status :=
  t.proceed (t.client.begin op)

/-- Start a prefetch that has been spawned, if there is one. The page was claimed when it was
spawned, so it is asked for without looking at the flag. -/
def fetchDue [Storage σ] (t : Traffic σ) : Traffic σ × Option (Ticket × Status) :=
  match t.due with
  | 0 => (t, none)
  | n + 1 =>
    let r := { t with due := n }.proceed t.client.fetchPage
    (r.1, some r.2)

/-- Answer a request on the way. Nothing happens if no request has the ticket, so a second answer to
the same request changes nothing. -/
def answer [Storage σ] (ticket : Ticket) (result : Except Failure Response) (t : Traffic σ) :
    Traffic σ × Option Outcome :=
  match t.waiting.lookup ticket with
  | none => (t, none)
  | some p =>
    let r := t.client.settle p result
    -- the second half looks at the client as it is now, whatever has happened since the first one
    (({ t with client := r.1, waiting := t.waiting.filter (·.1 != ticket) }).withDue
      r.2.fetchDue, some r.2.outcome)

end Traffic

end Rendezvous.Client
