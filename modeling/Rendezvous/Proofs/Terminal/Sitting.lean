/-
Runs of the terminal: commands one after the other, and the rest in between.

`App::dispatch` takes the terminal for itself until the command is done, so a command is given when
the one before is done, and it waits for one answer at most. The tasks that `prefetch` spawns run
beside it: a claimed page is asked for in the background and comes when it comes, between two
commands or while one of them waits. A `Move` is one such thing, and a list of moves is one order of
everything; a move that is not possible at the moment changes nothing.

The commands are told apart in two tables of the terminal only, what makes it ready for a command
(`App.ready`) and what the command then comes down to (`App.task`). Of the first there is one thing
to know, and `App.readied` states it: no request is sent or answered by it, and the card on top of
the deck stays. Of a task that starts an operation `App.start_cases` states how it goes on.
-/
import Rendezvous.Proofs.Client.Confined
import Rendezvous.Terminal.App

set_option autoImplicit false

namespace Rendezvous.Terminal

open Client (Event Happening Operation Pending Ticket Traffic)
open Credential (Storage)
open Service (Failure)
open Web (Request Response)

variable {σ : Type}

/-! ## Moves -/

/-- The terminal, and the command that it is carrying out, if there is one. -/
structure Sitting (σ : Type) where
  app : App σ
  /-- the command that waits for an answer: its ticket, and the view that is shown then -/
  pending : Option (Ticket × View) := none

/-- One thing that happens to the terminal. -/
inductive Move
  | command (command : Command)
  /-- the command that waits is answered -/
  | reply (result : Except Failure Response)
  /-- a page that is due is asked for in the background -/
  | fetch
  /-- a request in the background is answered -/
  | background (ticket : Ticket) (result : Except Failure Response)

namespace Sitting

/-- The terminal when it has just been started. -/
def started [Storage σ] (address : String) (paging : Service.Paging) (store : Credential.Store σ)
    (today : Time.Date) : Sitting σ where
  app := { traffic := Traffic.started address paging store, today := today }

/-- What a move does. A command that comes while another one waits is not taken, and the answer to
the request that a command waits for does not come as one in the background. -/
def step [Storage σ] (s : Sitting σ) : Move → Sitting σ
  | .command command =>
    match s.pending with
    | some _ => s
    | none =>
      match s.app.begin command with
      | (a, .waits ticket _ view) => ⟨a, some (ticket, view)⟩
      | (a, _) => ⟨a, none⟩
  | .reply result =>
    match s.pending with
    | some (ticket, view) => ⟨(s.app.answer ticket result view).1, none⟩
    | none => s
  | .fetch => { s with app.traffic := s.app.traffic.step .fetchDue }
  | .background ticket result =>
    if s.pending.map Prod.fst = some ticket then s
    else { s with app.traffic := s.app.traffic.step (.answer ticket result) }

/-- What a list of moves does, one after the other. -/
def run [Storage σ] (s : Sitting σ) (moves : List Move) : Sitting σ :=
  moves.foldl step s

theorem run_concat [Storage σ] (s : Sitting σ) (moves : List Move) (move : Move) :
    s.run (moves ++ [move]) = (s.run moves).step move := by
  simp only [run, List.foldl_append, List.foldl_cons, List.foldl_nil]

end Sitting

/-! ## Commands -/

/-- Whether a command shows the deck when it is done. -/
def Command.showsDeck : Command → Bool
  | .deck | .swipe _ | .dismiss => true
  | _ => false

namespace App

variable {a a' : App σ}

/-- What making the terminal ready leaves alone: no request is sent or answered, no page is claimed,
and the card on top of the deck stays. -/
structure Readied (a a' : App σ) : Prop where
  address : a'.client.address = a.client.address
  waiting : a'.traffic.waiting = a.traffic.waiting
  due : a'.traffic.due = a.traffic.due
  current : a'.client.deck.value.current? = a.client.deck.value.current?

theorem Readied.refl (a : App σ) : Readied a a := ⟨rfl, rfl, rfl, rfl⟩

/-- **Making ready** for a command, whichever it is. -/
theorem readied [Storage σ] (command : Command) (a : App σ) : Readied a (a.ready command) := by
  cases command with
  | logOut =>
    have hconfined := Client.confined_logOut a.client
    exact ⟨hconfined.address, rfl, rfl,
      congrArg (fun deck => deck.value.current?) (hconfined.deck nofun)⟩
  | dismiss | openChat => exact ⟨rfl, rfl, rfl, rfl⟩
  | _ => exact .refl a

theorem present_traffic (view : View) (a : App σ) : (a.present view).1.traffic = a.traffic := by
  cases view <;> rfl

/-- Rendering a screen sends nothing and changes no screen. -/
theorem readied_present (view : View) (a : App σ) : Readied a (a.present view).1 := by
  cases view <;> exact ⟨rfl, rfl, rfl, rfl⟩

end App

/-- The screen that a task renders, at once or when its operation is over. -/
def Task.view? : Task → Option View
  | .shows view | .starts _ view => some view
  | .quits | .tells _ => none

/-- The operation that a task starts. -/
def Task.operation? : Task → Option Operation
  | .starts op _ => some op
  | .quits | .tells _ | .shows _ => none

theorem Task.operation?_eq_some {task : Task} {op : Operation} :
    task.operation? = some op ↔ ∃ view, task = .starts op view := by
  cases task <;> simp [operation?]

namespace App

variable {a a' : App σ}

/-- A command that starts an operation starts it on the terminal that is ready for it. -/
theorem begin_of_task [Storage σ] {command : Command} {op : Operation} {view : View}
    (h : a.task command = .starts op view) :
    a.begin command = (a.ready command).start op view := by
  rw [begin, h]
  rfl

/-- A command that starts nothing leaves the client as it was made ready. -/
theorem traffic_begin [Storage σ] {command : Command}
    (h : (a.task command).operation? = none) :
    (a.begin command).1.traffic = (a.ready command).traffic := by
  rw [begin]
  cases htask : a.task command with
  | quits => rfl
  | tells text => rfl
  | shows view => exact present_traffic view _
  | starts op view =>
    rw [htask] at h
    cases h

/-- A command that shows the deck has no other view. -/
theorem view?_task_of_showsDeck {command : Command} (h : command.showsDeck = true) (a : App σ) :
    (a.task command).view? = some .deck := by
  cases command with
  | deck | swipe | dismiss => rfl
  | _ => cases h

/-- A decision is made only by a command that renders the deck in the end. -/
theorem view_of_swipe {command : Command} {direction : Wire.Direction} {view : View}
    (h : a.task command = .starts (.swipe direction) view) : view = .deck := by
  cases command with
  | swipe => exact (Task.starts.inj h).2.symm
  | send text =>
    simp only [task] at h
    split at h
    · cases h
    · cases h
  | _ => cases h

/-- **How operations of the terminal begin.** The operation is on the way under the next ticket,
or it has ended and its view has been shown. -/
theorem start_cases [Storage σ] (op : Operation) (view : View) (a : App σ) :
    (a.start op view).1.traffic = a.traffic.step (.begin op) ∧
      ((∃ p, (a.traffic.client.begin op).2 = .waiting p ∧
          (a.start op view).2 = .waits a.traffic.next p.request view) ∨
        (∃ e, (a.traffic.client.begin op).2 = .ended e) ∧
          ∃ text, (a.start op view).2 = .replies text ∧
            (view = .deck → text = deckView (a.start op view).1.client.deck.value)) := by
  have hbegin : a.traffic.step (.begin op) = (a.traffic.begin op).1 := rfl
  rcases Traffic.proceed_cases (a.traffic.client.begin op) a.traffic with
    ⟨p, hp, hstatus, _⟩ | ⟨e, he, hstatus, _⟩
  · have hstatus : (a.traffic.begin op).2 = (a.traffic.next, .sent p.request) := hstatus
    have hstart : a.start op view = ({ a with traffic := (a.traffic.begin op).1 },
        .waits a.traffic.next p.request view) := by
      simp only [start, hstatus]
    rw [hstart, hbegin]
    exact ⟨rfl, .inl ⟨p, hp, rfl⟩⟩
  · have hstatus : (a.traffic.begin op).2 = (a.traffic.next, .ended e.outcome) := hstatus
    have hstart : a.start op view =
        ({ a with traffic := (a.traffic.begin op).1 } : App σ).sayAtOnce view := by
      simp only [start, hstatus]
    rw [hstart, hbegin]
    -- showing a view hands nothing over, so the traffic is that of the operation
    refine ⟨present_traffic view _, .inr ⟨⟨e, he⟩, _, rfl, ?_⟩⟩
    rintro rfl
    rfl

end App

end Rendezvous.Terminal
