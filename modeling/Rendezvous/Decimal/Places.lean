/-
`{:.1}` of a float: decimals with a fixed number of places.

The value of a float is an exact fraction, so the only decision is what happens to an exact half,
and it goes to the even neighbour.
-/
import Rendezvous.Decimal.Binary
import Rendezvous.Decimal.Digits

set_option autoImplicit false

namespace Rendezvous.Decimal

/-- The whole number nearest to `n / d`; a half goes to the even neighbour. -/
def roundDiv (n d : Nat) : Nat :=
  let down := n / d
  let rest := n % d
  if 2 * rest < d ∨ (2 * rest = d ∧ down % 2 = 0) then down else down + 1

/-- The text of a finite number with `places` digits after the point, the sign of a
zero included. -/
def Binary.places (places : Nat) (x : Binary) : String :=
  let (n, d) := fraction x.mantissa x.exponent
  let scaled := roundDiv (n * Nat.pow 10 places) d
  let whole := toString (scaled / Nat.pow 10 places)
  let rest :=
    if places = 0 then "" else "." ++ String.ofList (padded places (scaled % Nat.pow 10 places))
  (if x.negative then "-" else "") ++ whole ++ rest

/-- The text of a float with `places` digits after the point. -/
def fixed (places : Nat) (f : Float) : String :=
  match Binary.ofFloat f with
  | some x => x.places places
  | none => if f == f then (if f < 0 then "-inf" else "inf") else "NaN"

end Rendezvous.Decimal
