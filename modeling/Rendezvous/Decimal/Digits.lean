/-
Whole numbers in base ten: their digits, padded or not, and the value of digits.
-/
set_option autoImplicit false

namespace Rendezvous.Decimal

/-- How many decimal digits a number has; one for zero. -/
def digitCount (n : Nat) : Nat :=
  (Nat.toDigits 10 n).length

/-- The digits of a number, with zeros in front if there are fewer than `width`. -/
def padded (width n : Nat) : List Char :=
  List.replicate (width - digitCount n) '0' ++ Nat.toDigits 10 n

/-- The value of a decimal digit. -/
def digitValue? (c : Char) : Option Nat :=
  if c.isDigit then some (c.toNat - 48) else none

/-- The number that a run of digits stands for, as far as the digits go. -/
def valueOnto (n : Nat) : List Char → Nat
  | [] => n
  | c :: cs =>
    match digitValue? c with
    | some d => valueOnto (n * 10 + d) cs
    | none => n

/-- The number that digits stand for. -/
def value (cs : List Char) : Nat :=
  valueOnto 0 cs

end Rendezvous.Decimal
