/-
JSON values and their compact text: what `to_vec` writes.

A value is written without any blank, the members of an object in the order they are held. Strings
escape only what has to be escaped: the quote, the backslash and the control characters below
U+0020, the five common ones by a letter and the rest by four lower-case hex digits. A float is
written with the fewest digits that read back; it is positional from `10 ^ -5` up to `10 ^ 16` and
then keeps at least one place, and outside that range it has a signed exponent.
-/
import Rendezvous.Decimal.Shortest

set_option autoImplicit false

namespace Rendezvous

/-- A JSON value. Whole numbers and floats are told apart, as the text does. -/
inductive Json
  | null
  | bool (b : Bool)
  | int (i : Int)
  | float (f : Float)
  | str (s : String)
  | arr (elements : List Json)
  | obj (members : List (String × Json))

namespace Json

/-! ## Numbers -/

/-- A whole number in base ten. -/
def intDigits : Int → List Char
  | .ofNat n => Nat.toDigits 10 n
  | .negSucc n => '-' :: Nat.toDigits 10 (n + 1)

/-- The digits of a positive decimal in JSON notation. -/
def decimalText (x : Decimal.Magnitude) : String :=
  let digits := Nat.toDigits 10 x.digits
  -- the point stands after so many digits
  let point : Int := (digits.length : Int) + x.exponent
  if -5 < point ∧ point ≤ 0 then
    "0." ++ String.ofList (List.replicate point.natAbs '0' ++ digits)
  else if 0 < point ∧ point ≤ 16 then
    let n := point.toNat
    if digits.length ≤ n then
      String.ofList (digits ++ List.replicate (n - digits.length) '0') ++ ".0"
    else
      String.ofList (digits.take n) ++ "." ++ String.ofList (digits.drop n)
  else
    let power := point - 1
    let places := if digits.length ≤ 1 then "" else "." ++ String.ofList (digits.drop 1)
    String.ofList (digits.take 1) ++ places ++ "e" ++ (if power < 0 then "-" else "+") ++
      toString power.natAbs

/-- The text of a float; `null` stands for the numbers that JSON does not have. -/
def floatText (f : Float) : String :=
  match Decimal.Binary.ofFloat f with
  | none => "null"
  | some x =>
    let sign := if x.negative then "-" else ""
    if x.mantissa = 0 then sign ++ "0.0"
    else sign ++ decimalText (Decimal.shortest x.mantissa x.exponent)

/-! ## Strings -/

/-- A hex digit in lower case. -/
def hexDigit (n : Nat) : Char :=
  if n < 10 then Char.ofNat (48 + n) else Char.ofNat (87 + n)

/-- A character as it stands between quotes. -/
def escaped (c : Char) : List Char :=
  if c = '"' then ['\\', '"']
  else if c = '\\' then ['\\', '\\']
  else if c = '\x08' then ['\\', 'b']
  else if c = '\x0C' then ['\\', 'f']
  else if c = '\n' then ['\\', 'n']
  else if c = '\r' then ['\\', 'r']
  else if c = '\t' then ['\\', 't']
  else if c.toNat < 0x20 then
    ['\\', 'u', '0', '0', hexDigit (c.toNat / 16), hexDigit (c.toNat % 16)]
  else [c]

/-- A string with its quotes. -/
def quoted (s : String) : List Char :=
  '"' :: s.toList.flatMap escaped ++ ['"']

/-! ## Values -/

mutual

/-- The compact text of a value. -/
def render : Json → List Char
  | .null => ['n', 'u', 'l', 'l']
  | .bool true => ['t', 'r', 'u', 'e']
  | .bool false => ['f', 'a', 'l', 's', 'e']
  | .int i => intDigits i
  | .float f => (floatText f).toList
  | .str s => quoted s
  | .arr xs => '[' :: renderElements xs ++ [']']
  | .obj ms => '{' :: renderMembers ms ++ ['}']

/-- Values with commas between them. -/
def renderElements : List Json → List Char
  | [] => []
  | [x] => render x
  | x :: y :: ys => render x ++ ',' :: renderElements (y :: ys)

/-- Members with commas between them. -/
def renderMembers : List (String × Json) → List Char
  | [] => []
  | [(k, v)] => quoted k ++ ':' :: render v
  | (k, v) :: m :: ms => quoted k ++ ':' :: render v ++ ',' :: renderMembers (m :: ms)

end

/-- The compact text of a value, as a string. -/
def text (v : Json) : String :=
  String.ofList v.render

mutual

/-- The same value with the members of every object in the order of their keys. -/
def sorted : Json → Json
  | .arr xs => .arr (sortedElements xs)
  | .obj ms => .obj ((sortedMembers ms).mergeSort fun a b => a.1 ≤ b.1)
  | v => v

/-- `sorted` on each value. -/
def sortedElements : List Json → List Json
  | [] => []
  | x :: xs => sorted x :: sortedElements xs

/-- `sorted` on the value of each member. -/
def sortedMembers : List (String × Json) → List (String × Json)
  | [] => []
  | (k, v) :: ms => (k, sorted v) :: sortedMembers ms

end

/-- A value that may be missing; `null` if it is. -/
def ofOption {α : Type} (f : α → Json) : Option α → Json
  | none => .null
  | some a => f a

end Json

end Rendezvous
