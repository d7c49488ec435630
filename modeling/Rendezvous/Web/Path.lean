/-
Paths of a URL, as lists of segments.

A path is read from its text segment by segment. A segment of one dot stands for nothing and one of
two dots takes the segment before it away, and a dot may be written as a percent code; if such a
segment is the last one, the path ends in a slash. What is left of a path is therefore free of dot
segments. This is where an identifier that is spliced into a path can reach outside of it.

Paths on the local machine have two rules of their own: empty segments in front do not count, and
the name of a drive is never taken away.
-/
import Rendezvous.Web.Percent

set_option autoImplicit false

namespace Rendezvous.Web

/-- A segment that stands for nothing. The dot may be written as a percent code, in either case. -/
def isSingleDot (segment : List Char) : Bool :=
  [".", "%2e"].contains (String.ofList (segment.map Char.toLower))

/-- A segment that takes away the one before it. Either dot may be written as a percent code. -/
def isDoubleDot (segment : List Char) : Bool :=
  ["..", ".%2e", "%2e.", "%2e%2e"].contains (String.ofList (segment.map Char.toLower))

/-- A letter and a colon, or a bar in its place: the name of a drive. -/
def isDrive : List Char → Bool
  | [letter, mark] => letter.isAlpha && (mark == ':' || mark == '|')
  | _ => false

/-- What decides how a path is read. -/
structure PathRules where
  /-- whether a backslash separates segments too -/
  backslash : Bool
  /-- whether the path is on the local machine -/
  localFile : Bool

namespace PathRules

/-- The rules of the schemes that are not special. -/
def general : PathRules := ⟨false, false⟩

/-- The rules of the special schemes that address a host. -/
def web : PathRules := ⟨true, false⟩

/-- The rules of files. -/
def file : PathRules := ⟨true, true⟩

/-- Whether a character ends a segment. -/
def separates (rules : PathRules) (c : Char) : Bool :=
  c == '/' || (rules.backslash && c == '\\')

/-- The segments without the last one; a drive stays. With nothing to take away nothing happens, so
no number of dot segments leads above the first segment. -/
def shortened (rules : PathRules) (segments : List (List Char)) : List (List Char) :=
  match segments with
  | [only] => if rules.localFile && isDrive only then [only] else []
  | _ => segments.dropLast

/-- A segment as it is kept behind others. -/
def kept (rules : PathRules) (before : List (List Char)) (segment : List Char) : List Char :=
  match segment with
  | [letter, _] =>
    if rules.localFile && before.isEmpty && isDrive segment then [letter, ':'] else segment
  | _ => segment

/-- Put one more segment behind others. `last` says that no separator follows it; a dot segment at
the end of a path leaves an empty segment, which is the slash that the path then ends in. -/
def extend (rules : PathRules) (before : List (List Char)) (last : Bool)
    (segment : List Char) : List (List Char) :=
  if isDoubleDot segment then
    rules.shortened before ++ (if last then [[]] else [])
  else if isSingleDot segment then
    before ++ (if last then [[]] else [])
  else before ++ [rules.kept before segment]

/-- Put the segments of a text behind others. -/
def extendAll (rules : PathRules) (before : List (List Char)) :
    List (List Char) → List (List Char)
  | [] => before
  | [segment] => rules.extend before true segment
  | segment :: next :: rest =>
    extendAll rules (rules.extend before false segment) (next :: rest)

/-- The pieces of a text between separators. -/
def split (rules : PathRules) : List Char → List (List Char)
  | [] => [[]]
  | c :: cs =>
    if rules.separates c then [] :: split rules cs
    else
      match split rules cs with
      | [] => [[c]]
      | piece :: pieces => (c :: piece) :: pieces

/-- Without the empty segments in front, but for the last. -/
def withoutEmptyFront : List (List Char) → List (List Char)
  | [] :: next :: rest => withoutEmptyFront (next :: rest)
  | ss => ss

/-- The segments that are left of a path whose leading slash has been taken off. -/
def resolved (rules : PathRules) (text : List Char) : List (List Char) :=
  rules.extendAll [] ((rules.split text).map (percentEncode codedInPath))

/-- The segments of such a path, as they are kept. -/
def segments (rules : PathRules) (text : List Char) : List (List Char) :=
  if rules.localFile then withoutEmptyFront (rules.resolved text) else rules.resolved text

end PathRules

/-- A path. -/
inductive Path
  /-- segments, each with a slash in front -/
  | segments (segments : List (List Char))
  /-- a text without any structure -/
  | flat (text : List Char)
deriving Repr, DecidableEq

/-- Segments, each with a slash in front. -/
def slashed (segments : List (List Char)) : List Char :=
  segments.flatMap ('/' :: ·)

/-- The text of a path. -/
def Path.text : Path → List Char
  | .segments ss => slashed ss
  | .flat text => text

end Rendezvous.Web
