/-
Skipping a value, as `serde_json` does for `IgnoredAny`.

The value of an unknown member is checked against the grammar and dropped. It may nest to any depth,
so the brackets that are still open are kept in a list and not on the call stack: `leave` closes as
many of them as end at one point and stops in front of the next value, and `skipValueIn` alternates
between one value and one `leave`.
-/
import Rendezvous.Json.Number
import Rendezvous.Json.Token

set_option autoImplicit false

namespace Rendezvous.Json

/-- The two kinds of bracket. -/
inductive Bracket
  | list
  | object
deriving Repr, DecidableEq

/-- The byte that closes a bracket. -/
def Bracket.closing : Bracket → UInt8
  | .list => ascii ']'
  | .object => ascii '}'

/-- The fault when the text ends inside a bracket. -/
def Bracket.ended : Bracket → Cause
  | .list => .endInList
  | .object => .endInObject

/-- The fault when something else than a comma or the closing bracket follows a value. -/
def Bracket.expectedNext : Bracket → Cause
  | .list => .expectedCommaOrEndOfList
  | .object => .expectedCommaOrEndOfObject

/-- The colon between a key and its value. -/
def readColon (s : List UInt8) : Except Fault (List UInt8) :=
  match skipBlanks s with
  | [] => .error (.on .endInObject [])
  | b :: r => if b = ascii ':' then .ok r else .error (.on .expectedColon (b :: r))

/-- Pass over a key and its colon. -/
def skipKey (s : List UInt8) : Except Fault (List UInt8) :=
  match skipBlanks s with
  | [] => .error (.on .endInObject [])
  | b :: r =>
    if b = ascii '"' then
      match skipString r with
      | .error e => .error e
      | .ok r => readColon r
    else .error (.on .keyMustBeString (b :: r))

/-- Go on to the next value of a bracket. -/
def Bracket.enter : Bracket → List UInt8 → Except Fault (List UInt8)
  | .list, s => .ok s
  | .object, s => skipKey s

/-- Close the brackets that end here and go on to the next value of the innermost one that
does not. The answer is the brackets that are still open and the bytes of that value; no
bracket is left open if the whole value has ended. `afterValue` says whether a value has
just ended, so that a comma may come. -/
def leave (afterValue : Bool) : List Bracket → List UInt8 →
    Except Fault (List Bracket × List UInt8)
  | [], s => .ok ([], s)
  | innermost :: outer, s =>
    match skipBlanks s with
    | [] => .error (.on innermost.ended [])
    | b :: r =>
      if b = ascii ',' ∧ afterValue then
        match innermost.enter r with
        | .error e => .error e
        | .ok r => .ok (innermost :: outer, r)
      else if b = innermost.closing then leave true outer r
      else if afterValue then .error (.on innermost.expectedNext (b :: r))
      else
        match innermost.enter (b :: r) with
        | .error e => .error e
        | .ok r => .ok (innermost :: outer, r)

/-- Pass over a value without brackets, whose first byte is `b`. -/
def skipScalar (b : UInt8) (s : List UInt8) : Except Fault (List UInt8) :=
  if b = ascii 'n' then readWord ['u', 'l', 'l'] s
  else if b = ascii 't' then readWord ['r', 'u', 'e'] s
  else if b = ascii 'f' then readWord ['a', 'l', 's', 'e'] s
  else if b = ascii '"' then skipString s
  else if b = ascii '-' then skipUnsigned s
  else if (digit? b).isSome then skipUnsigned (b :: s)
  else .error (.on .expectedValue (b :: s))

/-- Pass over the first part of a value: a scalar, or an opening bracket. Then leave what
ends there. -/
def skipStart (brackets : List Bracket) (b : UInt8) (s : List UInt8) :
    Except Fault (List Bracket × List UInt8) :=
  if b = ascii '[' then leave false (.list :: brackets) s
  else if b = ascii '\x7B' then leave false (.object :: brackets) s
  else
    match skipScalar b s with
    | .error e => .error e
    | .ok r => leave true brackets r

theorem length_lt_of_readColon {s r : List UInt8} (h : readColon s = .ok r) :
    r.length < s.length := by
  have hs := length_skipBlanks_le s
  unfold readColon at h
  split at h
  · cases h
  · rename_i heq
    rw [heq] at hs
    simp only [List.length_cons] at hs
    split at h
    · cases h; omega
    · cases h

theorem length_lt_of_skipKey {s r : List UInt8} (h : skipKey s = .ok r) :
    r.length < s.length := by
  have hs := length_skipBlanks_le s
  unfold skipKey at h
  split at h
  · cases h
  · rename_i heq
    rw [heq] at hs
    simp only [List.length_cons] at hs
    split at h
    · split at h
      · cases h
      · rename_i hk
        have h1 := length_lt_of_skipString hk
        have h2 := length_lt_of_readColon h
        omega
    · cases h

theorem length_le_of_enter {k : Bracket} {s r : List UInt8} (h : k.enter s = .ok r) :
    r.length ≤ s.length := by
  cases k with
  | list => cases h; exact Nat.le_refl _
  | object => exact Nat.le_of_lt (length_lt_of_skipKey h)

theorem length_le_of_leave {afterValue : Bool} {brackets rest : List Bracket}
    {s r : List UInt8} (h : leave afterValue brackets s = .ok (rest, r)) :
    r.length ≤ s.length := by
  induction brackets generalizing afterValue s with
  | nil => cases h; exact Nat.le_refl _
  | cons k outer ih =>
    have hs := length_skipBlanks_le s
    simp only [leave] at h
    split at h
    · cases h
    · rename_i heq
      rw [heq] at hs
      simp only [List.length_cons] at hs
      split at h
      · split at h
        · cases h
        · rename_i he
          cases h
          have := length_le_of_enter he
          omega
      · split at h
        · -- the bracket is closed, and its outer one may be too
          have := ih h
          omega
        · split at h
          · cases h
          · split at h
            · cases h
            · rename_i he
              cases h
              have := length_le_of_enter he
              simp only [List.length_cons] at this
              omega

theorem length_le_of_skipScalar {b : UInt8} {s r : List UInt8} (h : skipScalar b s = .ok r) :
    r.length ≤ s.length := by
  unfold skipScalar at h
  -- the kind of value is settled by its first byte, in the order the parser asks for it
  split at h
  · exact length_le_of_readWord h
  · split at h
    · exact length_le_of_readWord h
    · split at h
      · exact length_le_of_readWord h
      · split at h
        · exact Nat.le_of_lt (length_lt_of_skipString h)
        · split at h
          · exact Nat.le_of_lt (length_lt_of_skipUnsigned h)
          · split at h
            · have := length_lt_of_skipUnsigned h
              simp only [List.length_cons] at this
              omega
            · cases h

theorem length_le_of_skipStart {brackets rest : List Bracket} {b : UInt8} {s r : List UInt8}
    (h : skipStart brackets b s = .ok (rest, r)) : r.length ≤ s.length := by
  unfold skipStart at h
  split at h
  · exact length_le_of_leave h
  · split at h
    · exact length_le_of_leave h
    · split at h
      · cases h
      · rename_i hs
        have h1 := length_le_of_skipScalar hs
        have h2 := length_le_of_leave h
        omega

/-- Pass over a value that stands inside the given brackets, and over everything up to the
end of the outermost of them. -/
def skipValueIn (brackets : List Bracket) (s : List UInt8) : Except Fault (List UInt8) :=
  match _hs : skipBlanks s with
  | [] => .error (.on .endInValue [])
  | b :: r =>
    match _h : skipStart brackets b r with
    | .error e => .error e
    | .ok ([], r) => .ok r
    | .ok (k :: outer, r) => skipValueIn (k :: outer) r
termination_by s.length
decreasing_by
  have h1 := length_skipBlanks_le s
  have h2 := length_le_of_skipStart _h
  rw [_hs] at h1
  simp only [List.length_cons] at h1
  omega

/-- Pass over one value. -/
def skipValue (s : List UInt8) : Except Fault (List UInt8) :=
  skipValueIn [] s

theorem length_lt_of_skipValueIn {brackets : List Bracket} {s r : List UInt8}
    (h : skipValueIn brackets s = .ok r) : r.length < s.length := by
  fun_induction skipValueIn brackets s with
  | case1 => cases h
  | case2 => cases h
  | case3 _ s b t heq u hstart =>
    have h1 := length_skipBlanks_le s
    have h2 := length_le_of_skipStart hstart
    rw [heq] at h1
    simp only [List.length_cons] at h1
    cases h
    omega
  | case4 _ s b t heq k outer u hstart ih =>
    have h1 := length_skipBlanks_le s
    have h2 := length_le_of_skipStart hstart
    -- brackets are left, so another value follows
    have h3 := ih h
    rw [heq] at h1
    simp only [List.length_cons] at h1
    omega

theorem length_lt_of_skipValue {s r : List UInt8} (h : skipValue s = .ok r) :
    r.length < s.length :=
  length_lt_of_skipValueIn h

end Rendezvous.Json
