/-
Scenarios of the terminal client.

A command is given, and what `dispatch` prints is shown before anything else happens; the pages that
have been claimed are fetched behind it, before the next cue. A command whose request waits at a
gate prints what there is to see without the answer.
-/
import Rendezvous.Rehearsal.Stage
import Rendezvous.Terminal.App

set_option autoImplicit false

namespace Rendezvous.Rehearsal

open Terminal (App Command)

/-- A terminal client on the stage. The fields are those of `App`, with the client replaced by the
stage that it stands on. -/
structure Dialogue where
  stage : Stage
  /-- the conversation that is open -/
  chat : Option Nat := none
  /-- the day on which ages are counted -/
  today : Time.Date

/-- What a command comes to. -/
inductive Reply
  | quits
  /-- what is printed, and whether a session was open before and after -/
  | prints (text : String) (before after : Bool)
deriving Repr, DecidableEq

namespace Dialogue

/-- The terminal client. -/
def app (d : Dialogue) : App where
  traffic := d.stage.present
  chat := d.chat
  today := d.today

/-- The dialogue with another state of the terminal client. -/
def withApp (a : App) (d : Dialogue) : Dialogue :=
  { d with stage := { d.stage with present := a.traffic }, chat := a.chat }

/-- Give a command. A request that is handed over goes to the stage, and the view is shown with what
the stage has answered by then. -/
def give (command : Command) (d : Dialogue) : Dialogue × Reply :=
  let before := d.app.authenticated
  let replied (d : Dialogue) (text : String) : Dialogue × Reply :=
    (d, .prints text before d.app.authenticated)
  match d.app.begin command with
  | (a, .quits) => (d.withApp a, .quits)
  | (a, .replies text) => replied (d.withApp a) text
  | (a, .waits ticket request view) =>
    let begun := d.withApp a
    let stage := begun.stage.arrive ⟨begun.stage.presentNumber, ticket⟩ request
    let arrived : Dialogue := { begun with stage := stage }
    let shown := arrived.app.present view
    replied (arrived.withApp shown.1) shown.2

/-- Fetch the pages that are due. -/
def settle (d : Dialogue) : Dialogue :=
  let collected := d.stage.collect
  { d with stage := collected.fetchAll collected.presentNumber }

end Dialogue

end Rendezvous.Rehearsal
