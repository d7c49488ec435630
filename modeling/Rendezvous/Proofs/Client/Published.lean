/-
What a subscriber of a `StateCell` can see between two moments.

A cell is followed from one moment to a later one. `shown` lists what it shows from the first
publication in between on, up to and including what it shows at the end. A statement about every
value in it is therefore about every state that a subscriber could have caught, and not only about
the states in which a step happens to stop: an operation publishes its flag before it publishes its
result, and the rendering of a screen may come in between.

`Grows P` is how such a statement is proved: all that was published satisfies `P`, and so does the
value at the end. It composes, step after step.
-/
import Rendezvous.Client.Cell

set_option autoImplicit false

namespace Rendezvous.Client.Cell

variable {α : Type} {P : α → Prop} {a b c : Cell α}

/-- What a cell shows at the end, and everything that it has published since it was `before`. -/
def shown (before after : Cell α) : List α :=
  after.value :: after.published.take (after.version - before.version)

/-- From `before` on the cell has only published values that satisfy `P`, and it shows one. -/
structure Grows (P : α → Prop) (before after : Cell α) : Prop where
  published : ∃ new : List α, after.published = new ++ before.published ∧ ∀ x ∈ new, P x
  value : P after.value

theorem Grows.refl (h : P a.value) : Grows P a a where
  published := ⟨[], rfl, fun _ hx => nomatch hx⟩
  value := h

theorem Grows.put {x : α} (h : P x) : Grows P a (a.put x) where
  published := ⟨[x], rfl, fun y hy => by rw [List.mem_singleton.mp hy]; exact h⟩
  value := h

theorem Grows.modify {f : α → α} (h : P (f a.value)) : Grows P a (a.modify f) :=
  Grows.put h

theorem Grows.trans (hab : Grows P a b) (hbc : Grows P b c) : Grows P a c where
  published := by
    obtain ⟨new, hnew, hP⟩ := hab.published
    obtain ⟨newer, hnewer, hP'⟩ := hbc.published
    refine ⟨newer ++ new, by rw [hnewer, hnew, List.append_assoc], fun x hx => ?_⟩
    rcases List.mem_append.mp hx with h | h
    · exact hP' x h
    · exact hP x h
  value := hbc.value

/-- Whatever the cell shows on the way satisfies `P`. The version of a cell is the length of what it
has published, so `shown` takes exactly the new values. -/
theorem Grows.of_mem_shown (h : Grows P a b) {x : α} (hx : x ∈ shown a b) : P x := by
  rcases List.mem_cons.mp hx with rfl | hx
  · exact h.value
  · obtain ⟨new, hnew, hP⟩ := h.published
    -- the two versions differ by the number of new values
    have hlen : b.version - a.version = new.length := by
      simp only [version, hnew, List.length_append]
      omega
    rw [hlen, hnew, List.take_left] at hx
    exact hP x hx

end Rendezvous.Client.Cell
