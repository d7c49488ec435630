/-
Codecs: one value that says how a type is written to JSON and read from it.

This is `Serialize` and `Deserialize` of one type, as `serde_json` runs them over a byte slice. A
codec carries the tree that a value is written as and the reader that takes the value from the front
of a text. Because the reader of a list or a record calls the readers of its parts without knowing
them, a codec also carries the fact that its reader uses up at least one byte; that is what makes
those readers end.

A reader that expects one shape and meets another consumes the offending scalar before it complains,
so that a scalar that is not even well formed is reported as such; an opening bracket is left alone.
`refusal` is that rule.
-/
import Rendezvous.Json.Skip

set_option autoImplicit false

namespace Rendezvous.Json

/-- Takes a value from the front of a text. -/
abbrev Reader (α : Type) : Type :=
  List UInt8 → Except Fault (α × List UInt8)

/-- How the values of a type are written and read. That a reader uses up a byte is a field, because
the readers of lists and records need it of readers that they know nothing else about. -/
structure Codec (α : Type) where
  /-- the tree that a value is written as -/
  toJson : α → Json
  read : Reader α
  progress : ∀ {s r : List UInt8} {a : α}, read s = .ok (a, r) → r.length < s.length

/-- `from_slice`: read a whole text, the value and nothing but blanks behind it. -/
def Codec.decode {α : Type} (c : Codec α) (text : List UInt8) : Except DecodeError α :=
  let refuse (f : Fault) : DecodeError := ⟨f.cause, Place.of text f.left⟩
  match c.read text with
  | .error f => .error (refuse f)
  | .ok (a, r) =>
    match skipBlanks r with
    | [] => .ok a
    | b :: r => .error (refuse (.on .trailingCharacters (b :: r)))

/-- The compact text of a value. -/
def Codec.encode {α : Type} (c : Codec α) (a : α) : String :=
  (c.toJson a).text

/-! ## Meeting the wrong shape -/

/-- What a number is called in a message. -/
def Number.found : Number → Found
  | .whole i => .integer i
  | .float f => .float f

/-- The fault of a value that begins with the byte `b` where something of another shape was
expected. The value is read first, as far as it is a scalar, so that one that is not well formed is
refused for that. -/
def refusal (expected : String) (b : UInt8) (s : List UInt8) : Fault :=
  let wrong (found : Found) (r : List UInt8) : Fault := .after (.invalidType found expected) r
  let word (letters : List Char) (found : Found) : Fault :=
    match readWord letters s with
    | .error e => e
    | .ok r => wrong found r
  if b = ascii 'n' then word ['u', 'l', 'l'] .null
  else if b = ascii 't' then word ['r', 'u', 'e'] (.boolean true)
  else if b = ascii 'f' then word ['a', 'l', 's', 'e'] (.boolean false)
  else if b = ascii '"' then
    match readString s with
    | .error e => e
    | .ok (t, r) => wrong (.string t) r
  else if b = ascii '[' then wrong .sequence (b :: s)
  else if b = ascii '\x7B' then wrong .map (b :: s)
  else if b = ascii '-' ∨ (digit? b).isSome then
    match readNumber b s with
    | .error e => e
    | .ok (n, r) => wrong n.found r
  else .on .expectedValue (b :: s)

/-! ## Scalars -/

/-- Reads a string after its opening quote and lets `parse` decide about it. -/
def readQuotedAs {α : Type} (parse : String → Except Cause α) : Reader α :=
  fun s =>
    match readString s with
    | .error e => .error e
    | .ok (t, r) =>
      match parse t with
      | .ok a => .ok (a, r)
      | .error cause => .error (.after cause r)

theorem length_lt_of_readQuotedAs {α : Type} {parse : String → Except Cause α}
    {s r : List UInt8} {a : α} (h : readQuotedAs parse s = .ok (a, r)) :
    r.length < s.length := by
  unfold readQuotedAs at h
  split at h
  · cases h
  · rename_i hr
    split at h
    · cases h; exact length_lt_of_readString hr
    · cases h

/-- Reads a string and lets `parse` decide about it. -/
def readStringAs {α : Type} (expected : String) (parse : String → Except Cause α) : Reader α :=
  fun s =>
    match skipBlanks s with
    | [] => .error (.on .endInValue [])
    | b :: r =>
      if b = ascii '"' then readQuotedAs parse r else .error (refusal expected b r)

theorem length_lt_of_readStringAs {α : Type} {expected : String}
    {parse : String → Except Cause α} {s r : List UInt8} {a : α}
    (h : readStringAs expected parse s = .ok (a, r)) : r.length < s.length := by
  have hs := length_skipBlanks_le s
  unfold readStringAs at h
  split at h
  · cases h
  · rename_i heq
    rw [heq] at hs
    simp only [List.length_cons] at hs
    split at h
    · have := length_lt_of_readQuotedAs h
      omega
    · cases h

/-- A type that is written as a string. -/
def Codec.ofString {α : Type} (expected : String) (write : α → String)
    (parse : String → Except Cause α) : Codec α where
  toJson a := .str (write a)
  read := readStringAs expected parse
  progress := length_lt_of_readStringAs

/-- Any text. -/
def Codec.text : Codec String :=
  .ofString "a string" id .ok

/-- Reads a number and lets `accept` decide about it. The number is read to its end before it is
refused, as the position of the error shows. -/
def readNumberAs {α : Type} (expected : String) (accept : Number → Except Cause α) : Reader α :=
  fun s =>
    match skipBlanks s with
    | [] => .error (.on .endInValue [])
    | b :: r =>
      if b = ascii '-' ∨ (digit? b).isSome then
        match readNumber b r with
        | .error e => .error e
        | .ok (n, r) =>
          match accept n with
          | .ok a => .ok (a, r)
          | .error cause => .error (.after cause r)
      else .error (refusal expected b r)

theorem length_lt_of_readNumberAs {α : Type} {expected : String}
    {accept : Number → Except Cause α} {s r : List UInt8} {a : α}
    (h : readNumberAs expected accept s = .ok (a, r)) : r.length < s.length := by
  have hs := length_skipBlanks_le s
  unfold readNumberAs at h
  split at h
  · cases h
  · rename_i heq
    rw [heq] at hs
    simp only [List.length_cons] at hs
    split at h
    · split at h
      · cases h
      · rename_i hr
        -- the first byte of the number has been taken, so something is consumed
        have := length_le_of_readNumber hr
        split at h
        · cases h; omega
        · cases h
    · cases h

/-- Whole numbers from `low` to `high`, which `ofInt` turns into the type's values. A float is of
the wrong type even if its fraction is zero. -/
def acceptWhole {α : Type} (expected : String) (low high : Int) (ofInt : Int → α) :
    Number → Except Cause α
  | .whole i =>
    if low ≤ i ∧ i ≤ high then .ok (ofInt i) else .error (.invalidValue (.integer i) expected)
  | .float f => .error (.invalidType (.float f) expected)

/-- Whole numbers from 0 to 4294967295. -/
def Codec.u32 : Codec UInt32 where
  toJson n := .int n.toNat
  read := readNumberAs "u32" (acceptWhole "u32" 0 4294967295 fun i => UInt32.ofNat i.toNat)
  progress := length_lt_of_readNumberAs

/-- Whole numbers of 64 bits, with a sign. -/
def Codec.i64 : Codec Int64 where
  toJson n := .int n.toInt
  read := readNumberAs "i64"
    (acceptWhole "i64" (-9223372036854775808) 9223372036854775807 Int64.ofInt)
  progress := length_lt_of_readNumberAs

/-- The float that a number is read as. -/
def Number.toFloat : Number → Float
  | .whole i => Decimal.signed (i < 0) i.natAbs.toUInt64.toFloat
  | .float f => f

/-- Floats; whole numbers are read as floats too. -/
def Codec.f64 : Codec Float where
  toJson := .float
  read := readNumberAs "f64" fun n => .ok n.toFloat
  progress := length_lt_of_readNumberAs

/-! ## A choice among names -/

/-- Reads `null` where nothing else may stand. -/
def readUnit (s : List UInt8) : Except Fault (List UInt8) :=
  match skipBlanks s with
  | [] => .error (.on .endInValue [])
  | b :: r =>
    if b = ascii 'n' then readWord ['u', 'l', 'l'] r else .error (refusal "unit" b r)

/-- The case of a name. -/
def caseOf {α : Type} (cases : List (String × α)) (name : String) : Except Cause α :=
  match cases.lookup name with
  | some a => .ok a
  | none => .error (.unknownVariant name (cases.map Prod.fst))

/-- The name in an object that stands for a case, after the opening brace. -/
def readCaseKey {α : Type} (cases : List (String × α)) : Reader α :=
  fun s =>
    match skipBlanks s with
    | [] => .error (.on .endInValue [])
    | b :: r =>
      if b = ascii '"' then readQuotedAs (caseOf cases) r
      else if b = ascii '\x7D' then .error (.on .expectedValue (b :: r))
      else .error (.on .keyMustBeString (b :: r))

/-- Reads a name, or an object with that name for its only key and `null` for its value: the two
forms in which a case without fields may be written. -/
def readCase {α : Type} (cases : List (String × α)) : Reader α :=
  fun s =>
    match skipBlanks s with
    | [] => .error (.on .endInValue [])
    | b :: r =>
      if b = ascii '"' then readQuotedAs (caseOf cases) r
      else if b = ascii '\x7B' then
        match readCaseKey cases r with
        | .error e => .error e
        | .ok (a, r) =>
          match readColon r with
          | .error e => .error e
          | .ok r =>
            match readUnit r with
            | .error e => .error e
            | .ok r =>
              match skipBlanks r with
              | [] => .error (.on .endInObject [])
              | b :: r =>
                if b = ascii '\x7D' then .ok (a, r) else .error (.after .expectedValue (b :: r))
      else .error (.on .expectedValue (b :: r))

theorem length_lt_of_readUnit {s r : List UInt8} (h : readUnit s = .ok r) :
    r.length < s.length := by
  have hs := length_skipBlanks_le s
  unfold readUnit at h
  split at h
  · cases h
  · rename_i heq
    rw [heq] at hs
    simp only [List.length_cons] at hs
    split at h
    · have := length_le_of_readWord h
      omega
    · cases h

theorem length_lt_of_readCaseKey {α : Type} {cases : List (String × α)} {s r : List UInt8}
    {a : α} (h : readCaseKey cases s = .ok (a, r)) : r.length < s.length := by
  have hs := length_skipBlanks_le s
  unfold readCaseKey at h
  split at h
  · cases h
  · rename_i heq
    rw [heq] at hs
    simp only [List.length_cons] at hs
    split at h
    · have := length_lt_of_readQuotedAs h
      omega
    · split at h <;> cases h

theorem length_lt_of_readCase {α : Type} {cases : List (String × α)} {s r : List UInt8} {a : α}
    (h : readCase cases s = .ok (a, r)) : r.length < s.length := by
  have hs := length_skipBlanks_le s
  unfold readCase at h
  split at h
  · cases h
  · rename_i heq
    rw [heq] at hs
    simp only [List.length_cons] at hs
    split at h
    · -- a name on its own
      have := length_lt_of_readQuotedAs h
      omega
    · split at h
      · split at h
        · cases h
        · rename_i hname
          -- an object: key, colon, `null` and closing brace are each behind the one before
          have h1 := length_lt_of_readCaseKey hname
          split at h
          · cases h
          · rename_i hcolon
            have h2 := length_lt_of_readColon hcolon
            split at h
            · cases h
            · rename_i t hunit
              have h3 := length_lt_of_readUnit hunit
              have h4 := length_skipBlanks_le t
              split at h
              · cases h
              · rename_i hend
                rw [hend] at h4
                simp only [List.length_cons] at h4
                split at h
                · cases h; omega
                · cases h
      · cases h

/-- A type with a fixed list of values, each with its name. -/
def Codec.choice {α : Type} (name : α → String) (values : List α) : Codec α where
  toJson a := .str (name a)
  read := readCase (values.map fun a => (name a, a))
  progress := length_lt_of_readCase

/-! ## Values that may be null -/

/-- Reads `null` or a value. The first byte decides, so a word that begins with `n` is never taken
for a value of another kind. -/
def readNullable {α : Type} (c : Codec α) : Reader (Option α) :=
  fun s =>
    match skipBlanks s with
    | [] => .error (.on .endInValue [])
    | b :: r =>
      if b = ascii 'n' then
        match readWord ['u', 'l', 'l'] r with
        | .error e => .error e
        | .ok r => .ok (none, r)
      else
        match c.read (b :: r) with
        | .error e => .error e
        | .ok (a, r) => .ok (some a, r)

theorem length_lt_of_readNullable {α : Type} {c : Codec α} {s r : List UInt8} {a : Option α}
    (h : readNullable c s = .ok (a, r)) : r.length < s.length := by
  have hs := length_skipBlanks_le s
  unfold readNullable at h
  split at h
  · cases h
  · rename_i heq
    rw [heq] at hs
    simp only [List.length_cons] at hs
    split at h
    · split at h
      · cases h
      · rename_i hw
        -- `null` is consumed as a word, anything else by the codec
        have := length_le_of_readWord hw
        cases h
        omega
    · split at h
      · cases h
      · rename_i hr
        have := c.progress hr
        cases h
        simp only [List.length_cons] at this
        omega

/-- A value that may be missing, written as `null` if it is. -/
def Codec.nullable {α : Type} (c : Codec α) : Codec (Option α) where
  toJson := Json.ofOption c.toJson
  read := readNullable c
  progress := length_lt_of_readNullable

/-! ## Lists -/

/-- What comes next between two brackets. -/
inductive Next
  /-- the closing bracket, which is consumed -/
  | closed (rest : List UInt8)
  /-- another element, which starts here -/
  | item (start : List UInt8)

/-- Look for the next element of a list. `first` says that none has been read yet, in which case no
comma is expected. -/
def nextElement (first : Bool) (s : List UInt8) : Except Fault Next :=
  match skipBlanks s with
  | [] => .error (.on .endInList [])
  | b :: r =>
    if b = ascii ']' then .ok (.closed r)
    else if first then .ok (.item (b :: r))
    else if b = ascii ',' then
      match skipBlanks r with
      | [] => .error (.on .endInValue [])
      | b :: r =>
        if b = ascii ']' then .error (.on .trailingComma (b :: r)) else .ok (.item (b :: r))
    else .error (.on .expectedCommaOrEndOfList (b :: r))

theorem length_le_of_nextElement {first : Bool} {s : List UInt8} {n : Next}
    (h : nextElement first s = .ok n) :
    match n with
    | .closed r => r.length < s.length
    | .item r => r.length ≤ s.length := by
  have hs := length_skipBlanks_le s
  unfold nextElement at h
  split at h
  · cases h
  · rename_i heq
    rw [heq] at hs
    simp only [List.length_cons] at hs
    split at h
    · cases h; simp only; omega
    · split at h
      · cases h; simp only [List.length_cons]; omega
      · split at h
        · -- behind a comma there are blanks again
          rename_i t _ _ _
          have ht := length_skipBlanks_le t
          split at h
          · cases h
          · rename_i heq2
            rw [heq2] at ht
            simp only [List.length_cons] at ht
            split at h
            · cases h
            · cases h; simp only [List.length_cons]; omega
        · cases h

/-- The elements of a list after its opening bracket, behind those already read (last one
first). -/
def readElementsOnto {α : Type} (c : Codec α) (first : Bool) (seen : List α)
    (s : List UInt8) : Except Fault (List α × List UInt8) :=
  match _hn : nextElement first s with
  | .error e => .error e
  | .ok (.closed r) => .ok (seen.reverse, r)
  | .ok (.item start) =>
    match _hr : c.read start with
    | .error e => .error e
    | .ok (a, r) => readElementsOnto c false (a :: seen) r
termination_by s.length
decreasing_by
  have h1 := length_le_of_nextElement _hn
  have h2 := c.progress _hr
  simp only at h1
  omega

/-- Reads a list. -/
def readList {α : Type} (c : Codec α) : Reader (List α) :=
  fun s =>
    match skipBlanks s with
    | [] => .error (.on .endInValue [])
    | b :: r =>
      if b = ascii '[' then readElementsOnto c true [] r
      else .error (refusal "a sequence" b r)

theorem length_lt_of_readElementsOnto {α : Type} {c : Codec α} {first : Bool} {seen as : List α}
    {s r : List UInt8} (h : readElementsOnto c first seen s = .ok (as, r)) :
    r.length < s.length := by
  fun_induction readElementsOnto c first seen s with
  | case1 => cases h
  | case2 _ _ _ t hn =>
    have := length_le_of_nextElement hn
    cases h
    exact this
  | case3 => cases h
  | case4 _ _ _ _ hn _ _ hr ih =>
    have h1 := length_le_of_nextElement hn
    have h2 := c.progress hr
    have h3 := ih h
    simp only at h1
    omega

theorem length_lt_of_readList {α : Type} {c : Codec α} {s r : List UInt8} {as : List α}
    (h : readList c s = .ok (as, r)) : r.length < s.length := by
  have hs := length_skipBlanks_le s
  unfold readList at h
  split at h
  · cases h
  · rename_i heq
    rw [heq] at hs
    simp only [List.length_cons] at hs
    split at h
    · have := length_lt_of_readElementsOnto h
      omega
    · cases h

/-- A list of values. -/
def Codec.list {α : Type} (c : Codec α) : Codec (List α) where
  toJson as := .arr (as.map c.toJson)
  read := readList c
  progress := length_lt_of_readList

end Rendezvous.Json
