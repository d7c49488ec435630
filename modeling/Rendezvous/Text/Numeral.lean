/-
Numbers written with the digits of a base.

One reader serves every base up to sixteen. It takes digits only, no sign and no blank, and
there is no bound on the number; what a number may be is for the caller to say. The empty
text stands for zero, so a caller that asks for a digit has to look for one.
-/
set_option autoImplicit false

namespace Rendezvous.Text

/-- The value of a hex digit in either case. -/
def hexValue? (c : Char) : Option Nat :=
  if '0' ≤ c ∧ c ≤ '9' then some (c.toNat - 48)
  else if 'a' ≤ c ∧ c ≤ 'f' then some (c.toNat - 87)
  else if 'A' ≤ c ∧ c ≤ 'F' then some (c.toNat - 55)
  else none

/-- The number that digits of a base stand for. -/
def number? (base : Nat) (digits : List Char) : Option Nat :=
  digits.foldl
    (fun n? c =>
      match n?, hexValue? c with
      | some n, some d => if d < base then some (n * base + d) else none
      | _, _ => none)
    (some 0)

/-- One digit more at the end. -/
theorem number?_append_singleton (base : Nat) (digits : List Char) (c : Char) :
    number? base (digits ++ [c]) =
      (number? base digits).bind fun n =>
        (hexValue? c).bind fun d => if d < base then some (n * base + d) else none := by
  simp only [number?, List.foldl_append, List.foldl_cons, List.foldl_nil]
  generalize List.foldl _ (some 0) digits = n?
  cases n? <;> cases hexValue? c <;> rfl

end Rendezvous.Text
