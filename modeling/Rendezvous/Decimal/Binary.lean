/-
What a 64-bit float is, said in whole numbers.

`Float` is opaque to proofs except for its bits, so every exact statement about a
float starts here: a finite float is `± mantissa * 2 ^ exponent`, and nothing after
this module looks at a `Float` again.
-/
set_option autoImplicit false

namespace Rendezvous.Decimal

/-- `mantissa * 2 ^ exponent`, negated if `negative`. Zero keeps its sign. -/
structure Binary where
  negative : Bool
  mantissa : Nat
  exponent : Int
deriving Repr, DecidableEq

/-- The number that the bits of a float stand for; `none` for the infinities and NaN. -/
def Binary.ofBits (bits : UInt64) : Option Binary :=
  let n := bits.toNat
  let negative : Bool := decide (Nat.pow 2 63 ≤ n)
  let power : Nat := n / Nat.pow 2 52 % Nat.pow 2 11
  let fraction : Nat := n % Nat.pow 2 52
  if power = 2047 then none
  else if power = 0 then some ⟨negative, fraction, -1074⟩
  else some ⟨negative, Nat.pow 2 52 + fraction, (power : Int) - 1075⟩

/-- The number that a float stands for. -/
def Binary.ofFloat (f : Float) : Option Binary :=
  Binary.ofBits f.toBits

/-- `n * 2 ^ e` as a fraction of whole numbers. -/
def fraction (n : Nat) (e : Int) : Nat × Nat :=
  match e with
  | .ofNat k => (n * Nat.pow 2 k, 1)
  | .negSucc k => (n, Nat.pow 2 (k + 1))

end Rendezvous.Decimal
