/-
A scripted transport: a service that answers from a script.

For every route the script holds answers and gates, each in a queue. A request takes the next gate
of its route, if there is one, and waits there until the gate is opened; then it takes the next
answer of the route. A gate may be opened before a request waits at it, and then it holds nothing
up. A name that was given to several gates means the last of them.
-/
import Rendezvous.Client.Operation

set_option autoImplicit false

namespace Rendezvous.Rehearsal

open Service (Failure)
open Web (Request Response)

/-- Where a request goes, as scripts write it: the method, and the path with its query but without
the part that every path begins with. -/
structure Route where
  method : String
  path : String
deriving Repr, DecidableEq

/-- A text without another one that it begins with. -/
def withoutStart (start text : List Char) : List Char :=
  if start.isPrefixOf text then text.drop start.length else text

/-- The route of a request. -/
def Route.of (r : Request) : Route where
  method := r.method.name
  path := String.ofList <|
    withoutStart Service.pathStart.toList (r.url.path.text ++ Web.marked '?' r.url.query)

/-- A gate. Its number is its position among all gates. -/
structure Gate where
  name : String
  route : Route
  taken : Bool := false
  isOpen : Bool := false
deriving Repr, DecidableEq

/-- The answers and gates that are left. -/
structure Script where
  answers : List (Route × Except Failure Response) := []
  gates : List Gate := []

namespace Script

/-- Put an answer at the end of its queue. -/
def addAnswer (route : Route) (answer : Except Failure Response) (s : Script) : Script :=
  { s with answers := s.answers ++ [(route, answer)] }

/-- Put a gate at the end of its queue. -/
def addGate (name : String) (route : Route) (s : Script) : Script :=
  { s with gates := s.gates ++ [{ name := name, route := route }] }

/-- The failure of a request that the script holds no answer for. -/
def silence (route : Route) : Failure :=
  .unanswered ("no scripted response for " ++ route.method ++ " " ++ route.path)

/-- Take the next answer of a route. A request without one fails as if the transport had failed. -/
def takeAnswer (route : Route) (s : Script) : Script × Except Failure Response :=
  match s.answers.find? (·.1 == route) with
  | none => (s, .error (silence route))
  | some (_, answer) => ({ s with answers := s.answers.eraseP (·.1 == route) }, answer)

/-- Take the next gate of a route: its number, and whether it is open. -/
def takeGate (route : Route) (s : Script) : Script × Option (Nat × Bool) :=
  match s.gates.findIdx? fun g => g.route == route && !g.taken with
  | none => (s, none)
  | some n =>
    ({ s with gates := s.gates.modify n fun g => { g with taken := true } },
      (s.gates[n]?).map fun g => (n, g.isOpen))

/-- The number of the last gate with a name. -/
def gateNamed? (name : String) (s : Script) : Option Nat :=
  ((List.range s.gates.length).reverse).find? fun n =>
    (s.gates[n]?.map Gate.name) == some name

/-- Open a gate. -/
def openGate (n : Nat) (s : Script) : Script :=
  { s with gates := s.gates.modify n fun g => { g with isOpen := true } }

end Script

end Rendezvous.Rehearsal
