/-
Observable cells: `StateCell`, the state container that every controller shares.

A cell holds one value and publishes every transition of it. `update` always notifies, `update_if`
only if the transition was not declined, and the test and the change happen in one step, so nothing
can come between them. Which values an observer gets to see depends on when it looks. So that a
theorem can speak of all of them, a cell keeps the list of everything that it has published, and an
observer is reduced to the number of values that it has seen.
-/
set_option autoImplicit false

namespace Rendezvous.Client

/-- A value and everything that was published on the way to it. The values are kept so that an
invariant can be stated of every state that a subscriber may see, and not only of the one that an
operation ends in; nothing that the client does depends on the list. -/
structure Cell (α : Type) where
  value : α
  /-- the published values, the last one first; the value at the start is not among them -/
  published : List α := []

/-- A subscriber, by how many of the published values it has seen. -/
structure Observer where
  seen : Nat
deriving Repr, DecidableEq

namespace Cell

variable {α : Type}

/-- How often the cell has published. -/
def version (c : Cell α) : Nat :=
  c.published.length

/-- Publish a value. The same value again is published too: a watch channel compares versions and
not values. -/
def put (c : Cell α) (a : α) : Cell α :=
  ⟨a, a :: c.published⟩

/-- `StateCell::update`: publish the value that follows from the current one. -/
def modify (c : Cell α) (f : α → α) : Cell α :=
  c.put (f c.value)

/-- `StateCell::update_if`: publish the value that follows from the current one, unless the
transition is declined. Observers are told of a transition that was made, and the caller is told
which of the two it was. -/
def modify? (c : Cell α) (f : α → Option α) : Cell α × Bool :=
  match f c.value with
  | some a => (c.put a, true)
  | none => (c, false)

/-- An observer that has seen everything so far. -/
def observer (c : Cell α) : Observer :=
  ⟨c.version⟩

/-- Whether an observer has missed something, as `has_changed` says. -/
def isNewTo (c : Cell α) (o : Observer) : Bool :=
  o.seen < c.version

/-- A declined step changes nothing. -/
theorem modify?_of_eq_none {c : Cell α} {f : α → Option α} (h : f c.value = none) :
    c.modify? f = (c, false) := by
  simp [modify?, h]

end Cell

end Rendezvous.Client
