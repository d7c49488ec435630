/-
Domains: the ASCII form of a name of hosts.

A name is looked up in ASCII, whatever script it is written in. A name of ASCII characters only
loses its case. In any other name each character is mapped first, and the text is brought to its
composed form; then the labels between the points are looked at one by one. A label beyond ASCII is
written in ASCII letters and digits behind `xn--`. A label that already bears this mark must be what
such a label would be written as: it has to stand for a text beyond ASCII that mapping and composing
leave alone. No label may start with a combining mark, joiners must stand where they can be seen,
and the labels must agree in direction.
-/
import Rendezvous.Text.Utf8
import Rendezvous.Web.Domain.Direction
import Rendezvous.Web.Domain.Joining
import Rendezvous.Web.Domain.Mapping
import Rendezvous.Web.Punycode

set_option autoImplicit false

namespace Rendezvous.Web.Domain

/-- The ASCII characters that no name may hold. -/
def forbidden (c : Char) : Bool :=
  c.toNat ≤ 0x20 || c.toNat == 0x7F ||
    ['%', '#', '/', ':', '<', '>', '?', '@', '[', '\\', ']', '^', '|'].contains c

/-- Whether a character is beyond ASCII. -/
def isForeign (c : Char) : Bool :=
  0x7F < c.toNat

/-! ## Labels -/

/-- The mark of a label that stands for a text beyond ASCII. -/
def mark : List Char := ['x', 'n', '-', '-']

/-- Whether a label bears the mark, in either case. -/
def isMarked (label : List Char) : Bool :=
  (label.take 4).map Char.toLower = mark

/-- Whether mapping and composing leave a text alone, and no point is in it. -/
def isSettled (text : List Char) : Bool :=
  text.all (fun c => mapped? c = some [c]) && composed text = text && !text.contains '.'

/-- The text beyond ASCII that a label without its mark stands for. -/
def unmarked? (written : List Char) : Option (List Char) :=
  match Punycode.decode written with
  | some text => if text.any isForeign && isSettled text then some text else none
  | none => none

/-- A label as it is read, beside the ASCII form in which it is looked up. -/
structure Label where
  shown : List Char
  written : List Char
deriving Repr, DecidableEq

/-- Whether a text may be a label, other labels apart. -/
def mayBeLabel (text : List Char) : Bool :=
  !text.any forbidden && !text.head?.any isMark && joinersStand [] text

/-- The label that a mapped and composed text is. -/
def Label.ofText? (text : List Char) : Option Label :=
  let label? : Option Label :=
    if isMarked text then (unmarked? (text.drop 4)).map fun shown => ⟨shown, text⟩
    else if text.any isForeign then some ⟨text, mark ++ Punycode.encode text⟩
    else some ⟨text, text⟩
  label?.bind fun label => if mayBeLabel label.shown then some label else none

/-! ## Names -/

/-- The ASCII form of a name that may be written in any script. -/
def foreign? (cs : List Char) : Option (List Char) :=
  (cs.mapM mapped?).bind fun texts =>
    ((Text.splitAt '.' (composed texts.flatten)).mapM Label.ofText?).bind fun labels =>
      if directionsAgree (labels.map (·.shown)) then
        some (['.'].intercalate (labels.map (·.written)))
      else none

/-- Whether a name is of ASCII characters only, and stands for no other. -/
def isPlain (cs : List Char) : Bool :=
  !cs.any isForeign && !(Text.splitAt '.' cs).any isMarked

/-- The ASCII form of a name. -/
def ofChars? (cs : List Char) : Option (List Char) :=
  if isPlain cs then
    if cs.any forbidden then none else some (cs.map Char.toLower)
  else foreign? cs

/-- The ASCII form of a name that is given as bytes. -/
def ofBytes? (bs : List UInt8) : Option (List Char) :=
  match Text.Utf8.decode bs with
  | .ok cs => ofChars? cs
  | .error _ => none

end Rendezvous.Web.Domain
