/-
Properties of characters, as tables of spans.

A table is a text of items between blanks. An item is one code point or an inclusive range of them,
in hexadecimal, and may end in a colon and the number (in decimal) that its characters share. A
character in no span of a table has the number zero, or is not in the set that the table describes;
so a table lists only what stands out, and a range may run over code points that are never looked
up.
-/
import Rendezvous.Text.Blank
import Rendezvous.Text.Numeral
import Rendezvous.Text.Split

set_option autoImplicit false

namespace Rendezvous.Text

/-- Neighbouring code points that share a number. -/
structure Span where
  first : Nat
  last : Nat
  value : Nat
deriving Repr, DecidableEq

/-- Whether a character is in the span. -/
def Span.has (s : Span) (c : Char) : Bool :=
  s.first ≤ c.toNat && c.toNat ≤ s.last

/-- A number of a table; zero for what is no number. -/
def tableNumber (base : Nat) (digits : List Char) : Nat :=
  (number? base digits).getD 0

/-- The span from one code point to another. -/
def Span.ofRange (range : List Char) (value : Nat) : Span :=
  match splitAt '-' range with
  | [first, last] => ⟨tableNumber 16 first, tableNumber 16 last, value⟩
  | _ => ⟨tableNumber 16 range, tableNumber 16 range, value⟩

/-- The span that an item of a table describes. -/
def Span.ofItem (item : List Char) : Span :=
  match splitAt ':' item with
  | [range, value] => .ofRange range (tableNumber 10 value)
  | _ => .ofRange item 0

/-- The spans of a table. -/
def spans (table : String) : Array Span :=
  ((asciiWords table.toList).map Span.ofItem).toArray

/-- Whether a character is in one of the spans. -/
def inSpans (table : Array Span) (c : Char) : Bool :=
  table.any (·.has c)

/-- The number of a character. -/
def spanValue (table : Array Span) (c : Char) : Nat :=
  ((table.find? (·.has c)).map (·.value)).getD 0

end Rendezvous.Text
