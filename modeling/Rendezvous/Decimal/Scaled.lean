/-
From digits and a power of ten to a float, in the way `serde_json` does it.

This is not the nearest float. The significand is rounded to a float first and then multiplied or
divided once by a power of ten that is itself rounded, so the result can be a unit or two off in its
last place; both ends of the wire agree on it all the same. A power below `10 ^ -308` is divided
away in steps of that size. A result too large for a float is refused rather than rounded to
infinity.
-/
set_option autoImplicit false

namespace Rendezvous.Decimal

/-- The float nearest to `10 ^ n`. -/
def power (n : Nat) : Float :=
  Float.ofScientific 1 false n

/-- `f / 10 ^ n`, by steps of `10 ^ 308`. -/
def divided (f : Float) (n : Nat) : Float :=
  if n ≤ 308 then f / power n
  else if f == 0 then f
  else divided (f / power 308) (n - 308)
termination_by n

/-- `significand * 10 ^ exponent`; `none` if it is too large. -/
def scaled (significand : Nat) (exponent : Int) : Option Float :=
  let f := significand.toUInt64.toFloat
  match exponent with
  | .ofNat n =>
    if n ≤ 308 then
      let g := f * power n
      if g.isInf then none else some g
    else if f == 0 then some f
    else none
  | .negSucc n => some (divided f (n + 1))

/-- The float with its sign turned if `negative`. -/
def signed (negative : Bool) (f : Float) : Float :=
  if negative then -f else f

end Rendezvous.Decimal
