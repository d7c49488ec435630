/-
The shortest decimal that reads back as a given float.

A float stands for every real number between the two midpoints to its neighbours
(the midpoints themselves belong to it when its mantissa is even). Among the decimals
of `n` significant digits only the two around the float's own value can be nearest to
it, so for `n = 1, 2, …, 17` those two are tested, in whole-number arithmetic, and the
first `n` with a hit decides. If both neighbours are hits the nearer one is taken, and
of two equally near ones the one whose last digit is even. Seventeen digits always
suffice for 64 bits.
-/
import Rendezvous.Decimal.Binary
import Rendezvous.Decimal.Digits

set_option autoImplicit false

namespace Rendezvous.Decimal

/-- The positive decimal number `digits * 10 ^ exponent`. -/
structure Magnitude where
  digits : Nat
  exponent : Int
deriving Repr, DecidableEq

/-- A positive float as fractions over one denominator: its value and the two ends of
the interval of reals that round to it. -/
structure Reach where
  low : Nat
  value : Nat
  high : Nat
  scale : Nat
  /-- whether the ends belong to the interval -/
  closed : Bool

/-- The reach of `mantissa * 2 ^ exponent`. All three numbers are counted in quarters
of the last place. Just above a power of two the gap below is half the gap above. -/
def Reach.of (mantissa : Nat) (exponent : Int) : Reach :=
  let below := if mantissa = Nat.pow 2 52 ∧ -1074 < exponent then 1 else 2
  let (value, scale) := fraction (4 * mantissa) (exponent - 2)
  let (unit, _) := fraction 1 (exponent - 2)
  { low := value - below * unit, value, high := value + 2 * unit, scale
    closed := mantissa % 2 = 0 }

/-- Whether `digits * 10 ^ exponent` rounds to the float. -/
def Reach.holds (r : Reach) (digits : Nat) (exponent : Int) : Bool :=
  let (n, d) : Nat × Nat := match exponent with
    | .ofNat k => (digits * Nat.pow 10 k * r.scale, 1)
    | .negSucc k => (digits * r.scale, Nat.pow 10 (k + 1))
  if r.closed then r.low * d ≤ n && n ≤ r.high * d
  else r.low * d < n && n < r.high * d

/-- The power of ten of the first significant digit of the value. -/
def Reach.leading (r : Reach) : Int :=
  if r.scale ≤ r.value then (digitCount (r.value / r.scale) : Int) - 1
  else -(digitCount ((r.scale + r.value - 1) / r.value - 1) : Int)

/-- The decimal with `count` significant digits that is nearest to the value, if one
of that length rounds to the float. -/
def Reach.ofLength (r : Reach) (count : Nat) : Option Magnitude :=
  let exponent := r.leading + 1 - count
  let (n, d) : Nat × Nat := match exponent with
    | .ofNat k => (r.value, r.scale * Nat.pow 10 k)
    | .negSucc k => (r.value * Nat.pow 10 (k + 1), r.scale)
  let down := n / d
  let up := down + 1
  match r.holds down exponent, r.holds up exponent with
  | false, false => none
  | true, false => some ⟨down, exponent⟩
  | false, true => some ⟨up, exponent⟩
  | true, true =>
    let rest := n % d
    if 2 * rest < d ∨ (2 * rest = d ∧ down % 2 = 0) then some ⟨down, exponent⟩
    else some ⟨up, exponent⟩

/-- The same number without zeros at the end of its digits. -/
def Magnitude.stripped (x : Magnitude) : Magnitude :=
  go (digitCount x.digits) x
where
  /-- Takes away up to so many zeros. -/
  go : Nat → Magnitude → Magnitude
    | 0, x => x
    | n + 1, x =>
      if x.digits % 10 = 0 ∧ x.digits ≠ 0 then go n ⟨x.digits / 10, x.exponent + 1⟩ else x

/-- The shortest decimal that reads back as `mantissa * 2 ^ exponent`, which is not zero. -/
def shortest (mantissa : Nat) (exponent : Int) : Magnitude :=
  let r := Reach.of mantissa exponent
  match (List.range' 1 17).findSome? r.ofLength with
  | some x => x.stripped
  | none => (⟨r.value, -2⟩ : Magnitude)

end Rendezvous.Decimal
