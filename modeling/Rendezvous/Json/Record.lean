/-
Records: objects with known members, as a derived `Deserialize` reads them.

A record is described once, by its fields in order, and the description serves both directions.
Writing puts the members in that order. Reading takes an object, whose known members may come in any
order but each only once, and passes over members with other names; or it takes a list, with exactly
the fields' values in order.

What a missing value means is part of a field. In an object a *required* member has to be there, an
*optional* one reads as `null` would, and a *defaulted* one has a value of its own
(`serde(default)`). A list has no names, so there only a defaulted field may be missing, and only at
the end.

A fault of the record as a whole (a member missing or twice, a list too short) is placed where the
closing bracket has been consumed, if that comes next.
-/
import Rendezvous.Json.Codec

set_option autoImplicit false

namespace Rendezvous.Json

/-- One field of a record. -/
structure Field (α : Type) where
  name : String
  codec : Codec α
  /-- the value of a member that is missing from an object -/
  missing : Option α
  /-- the value of a field that a list is too short for -/
  beyond : Option α
  /-- whether the member is left out when it has this value -/
  hidden : α → Bool

/-- A field that has to be there. -/
def Field.required {α : Type} (name : String) (codec : Codec α) : Field α :=
  ⟨name, codec, none, none, fun _ => false⟩

/-- A field that may be null or missing. -/
def Field.optional {α : Type} (name : String) (codec : Codec α) : Field (Option α) :=
  ⟨name, codec.nullable, some none, none, fun _ => false⟩

/-- A field that may be missing, and then has the given value. -/
def Field.defaulted {α : Type} (name : String) (codec : Codec α) (value : α) : Field α :=
  ⟨name, codec, some value, some value, fun _ => false⟩

/-- A field that is written only if it is set. -/
def Field.ifSet {α : Type} (name : String) (codec : Codec α) : Field (Option α) :=
  ⟨name, codec.nullable, some none, none, Option.isNone⟩

/-- The fields of a record, in order, indexed by the types of their values. -/
inductive Fields : List Type → Type 1
  | done : Fields []
  | more {α : Type} {αs : List Type} (field : Field α) (rest : Fields αs) : Fields (α :: αs)

/-- One value of each type. -/
@[reducible]
def Values : List Type → Type
  | [] => Unit
  | α :: αs => α × Values αs

/-- At most one value of each type: what has been read so far. -/
@[reducible]
def Slots : List Type → Type
  | [] => Unit
  | α :: αs => Option α × Slots αs

/-- Nothing has been read. -/
def Slots.none : (αs : List Type) → Slots αs
  | [] => ()
  | _ :: αs => (Option.none, Slots.none αs)

namespace Fields

/-- How many fields there are. -/
def count {αs : List Type} : Fields αs → Nat
  | .done => 0
  | .more _ rest => rest.count + 1

/-- The names of the fields, in order. -/
def names {αs : List Type} : Fields αs → List String
  | .done => []
  | .more f rest => f.name :: rest.names

/-- The members that the values are written as. -/
def members {αs : List Type} : Fields αs → Values αs → List (String × Json)
  | .done, _ => []
  | .more f rest, (a, b) =>
    if f.hidden a then rest.members b else (f.name, f.codec.toJson a) :: rest.members b

/-! ## Reading an object -/

/-- The bytes after the closing brace, if it comes next. -/
def afterBrace (s : List UInt8) : List UInt8 :=
  match skipBlanks s with
  | [] => []
  | b :: r => if b = ascii '\x7D' then r else b :: r

/-- Read the colon and the value of the member with this key. The value of an unknown key
is passed over. -/
def readMember {αs : List Type} : Fields αs → (key : String) → Slots αs → List UInt8 →
    Except Fault (Slots αs × List UInt8)
  | .done, _, slots, s =>
    match readColon s with
    | .error e => .error e
    | .ok s =>
      match skipValue s with
      | .error e => .error e
      | .ok r => .ok (slots, r)
  | .more f rest, key, (slot, slots), s =>
    if key = f.name then
      if slot.isSome then .error (.after (.duplicateField f.name) (afterBrace s))
      else
        match readColon s with
        | .error e => .error e
        | .ok s =>
          match f.codec.read s with
          | .error e => .error e
          | .ok (a, r) => .ok ((some a, slots), r)
    else
      match rest.readMember key slots s with
      | .error e => .error e
      | .ok (slots, r) => .ok ((slot, slots), r)

/-- The values of all fields, or the name of the first one that is missing. -/
def fill {αs : List Type} : Fields αs → Slots αs → Except String (Values αs)
  | .done, _ => .ok ()
  | .more f rest, (slot, slots) =>
    match slot.or f.missing with
    | none => .error f.name
    | some a =>
      match rest.fill slots with
      | .error name => .error name
      | .ok b => .ok (a, b)

/-- Look for the next member of an object. `first` says that none has been read yet; a
member starts after the opening quote of its key. -/
def nextMember (first : Bool) (s : List UInt8) : Except Fault Next :=
  match skipBlanks s with
  | [] => .error (.on .endInObject [])
  | b :: r =>
    if b = ascii '\x7D' then .ok (.closed r)
    else if first then
      if b = ascii '"' then .ok (.item r) else .error (.on .keyMustBeString (b :: r))
    else if b = ascii ',' then
      match skipBlanks r with
      | [] => .error (.on .endInValue [])
      | b :: r =>
        if b = ascii '"' then .ok (.item r)
        else if b = ascii '\x7D' then .error (.on .trailingComma (b :: r))
        else .error (.on .keyMustBeString (b :: r))
    else .error (.on .expectedCommaOrEndOfObject (b :: r))

theorem length_lt_of_nextMember {first : Bool} {s : List UInt8} {n : Next}
    (h : nextMember first s = .ok n) :
    match n with
    | .closed r => r.length < s.length
    | .item r => r.length < s.length := by
  have hs := length_skipBlanks_le s
  unfold nextMember at h
  split at h
  · cases h
  · rename_i heq
    rw [heq] at hs
    simp only [List.length_cons] at hs
    split at h
    · cases h; simp only; omega
    · split at h
      · split at h
        · cases h; simp only; omega
        · cases h
      · split at h
        · -- behind a comma there are blanks again, and then the quote of the next key
          rename_i t _ _ _
          have ht := length_skipBlanks_le t
          split at h
          · cases h
          · rename_i heq2
            rw [heq2] at ht
            simp only [List.length_cons] at ht
            split at h
            · cases h; simp only; omega
            · split at h <;> cases h
        · cases h

theorem length_lt_of_readMember {αs : List Type} (fs : Fields αs) {key : String}
    {slots slots' : Slots αs} {s r : List UInt8}
    (h : fs.readMember key slots s = .ok (slots', r)) : r.length < s.length := by
  induction fs generalizing s r with
  -- no field has the name, so the value is skipped
  | done =>
    simp only [readMember] at h
    split at h
    · cases h
    · rename_i hc
      have h1 := length_lt_of_readColon hc
      split at h
      · cases h
      · rename_i hv
        have h2 := length_lt_of_skipValue hv
        cases h
        omega
  | more f rest ih =>
    obtain ⟨slot, slots⟩ := slots
    simp only [readMember] at h
    split at h
    · split at h
      · cases h
      · split at h
        · cases h
        · rename_i hc
          have h1 := length_lt_of_readColon hc
          split at h
          · cases h
          · rename_i hv
            have h2 := f.codec.progress hv
            cases h
            omega
    · split at h
      · cases h
      · rename_i hr
        cases h
        exact ih hr

/-- Read the members of an object after its opening brace. Which members have been there is known by
the slots that are filled, so a member that comes twice is noticed when its slot is full. -/
def readMembers {αs : List Type} (fs : Fields αs) (first : Bool) (slots : Slots αs)
    (s : List UInt8) : Except Fault (Values αs × List UInt8) :=
  match _hn : nextMember first s with
  | .error e => .error e
  | .ok (.closed r) =>
    match fs.fill slots with
    | .error name => .error (.after (.missingField name) r)
    | .ok c => .ok (c, r)
  | .ok (.item start) =>
    match _hk : readString start with
    | .error e => .error e
    | .ok (key, s) =>
      match _hm : fs.readMember key slots s with
      | .error e => .error e
      | .ok (slots, r) => readMembers fs false slots r
termination_by s.length
decreasing_by
  have h1 := length_lt_of_nextMember _hn
  have h2 := length_lt_of_readString _hk
  have h3 := fs.length_lt_of_readMember _hm
  simp only at h1
  omega

theorem length_lt_of_readMembers {αs : List Type} {fs : Fields αs} {first : Bool}
    {slots : Slots αs} {s r : List UInt8} {c : Values αs}
    (h : fs.readMembers first slots s = .ok (c, r)) :
    r.length < s.length := by
  fun_induction readMembers fs first slots s with
  | case1 => cases h
  | case2 => cases h
  | case3 _ _ _ t hn _ _ =>
    have := length_lt_of_nextMember hn
    cases h
    exact this
  | case4 => cases h
  | case5 => cases h
  | case6 _ _ _ _ hn _ _ hk _ _ hm ih =>
    -- a member was read: separator, key and value, and then the members behind it
    have h1 := length_lt_of_nextMember hn
    have h2 := length_lt_of_readString hk
    have h3 := fs.length_lt_of_readMember hm
    have h4 := ih h
    simp only at h1
    omega

/-! ## Reading a list -/

/-- The closing bracket after the last field. -/
def readEndOfList (s : List UInt8) : Except Fault (List UInt8) :=
  match skipBlanks s with
  | [] => .error (.on .endInList [])
  | b :: r =>
    if b = ascii ']' then .ok r
    else if b = ascii ',' then
      match skipBlanks r with
      | [] => .error (.on .trailingCharacters [])
      | b :: r =>
        .error (.on (if b = ascii ']' then .trailingComma else .trailingCharacters) (b :: r))
    else .error (.on .trailingCharacters (b :: r))

/-- The values of the fields that a list is too short for, or the index of the first one
that has to be there. -/
def fillBeyond {αs : List Type} : Fields αs → (index : Nat) → Except Nat (Values αs)
  | .done, _ => .ok ()
  | .more f rest, index =>
    match f.beyond with
    | none => .error index
    | some a =>
      match rest.fillBeyond (index + 1) with
      | .error i => .error i
      | .ok b => .ok (a, b)

/-- Read the fields from the given index on from a list, and its closing bracket. This form is
accepted because a derived reader accepts it; nothing here writes it. -/
def readRow {αs : List Type} (expected : String) : Fields αs → (index : Nat) → List UInt8 →
    Except Fault (Values αs × List UInt8)
  | .done, _, s =>
    match readEndOfList s with
    | .error e => .error e
    | .ok r => .ok ((), r)
  | .more f rest, index, s =>
    match nextElement (index == 0) s with
    | .error e => .error e
    | .ok (.closed r) =>
      match (Fields.more f rest).fillBeyond index with
      | .error i => .error (.after (.invalidLength i expected) r)
      | .ok c => .ok (c, r)
    | .ok (.item start) =>
      match f.codec.read start with
      | .error e => .error e
      | .ok (a, s) =>
        match rest.readRow expected (index + 1) s with
        | .error e => .error e
        | .ok (b, r) => .ok ((a, b), r)

theorem length_lt_of_readEndOfList {s r : List UInt8} (h : readEndOfList s = .ok r) :
    r.length < s.length := by
  have hs := length_skipBlanks_le s
  unfold readEndOfList at h
  split at h
  · cases h
  · rename_i heq
    rw [heq] at hs
    simp only [List.length_cons] at hs
    split at h
    · cases h; omega
    · split at h
      · split at h <;> cases h
      · cases h

theorem length_lt_of_readRow {αs : List Type} {expected : String} (fs : Fields αs)
    {index : Nat} {s r : List UInt8} {c : Values αs}
    (h : fs.readRow expected index s = .ok (c, r)) :
    r.length < s.length := by
  induction fs generalizing index s r with
  | done =>
    simp only [readRow] at h
    split at h
    · cases h
    · rename_i hr
      cases h
      exact length_lt_of_readEndOfList hr
  | more f rest ih =>
    simp only [readRow] at h
    split at h
    · cases h
    · rename_i hn
      -- the list ends before the fields do, and the rest is filled in
      have := length_le_of_nextElement hn
      split at h
      · cases h
      · cases h
        exact this
    · rename_i hn
      have h1 := length_le_of_nextElement hn
      simp only at h1
      split at h
      · cases h
      · rename_i hv
        have h2 := f.codec.progress hv
        split at h
        · cases h
        · rename_i hr
          have h3 := ih hr
          cases h
          omega

end Fields

/-! ## The codec of a record -/

/-- How a message names a record of this many fields. -/
def recordWithCount (name : String) (count : Nat) : String :=
  "struct " ++ name ++ " with " ++ toString count ++ (if count = 1 then " element" else " elements")

/-- Reads a record from an object or a list. -/
def readRecord {αs : List Type} (name : String) (fs : Fields αs) : Reader (Values αs) :=
  fun s =>
    match skipBlanks s with
    | [] => .error (.on .endInValue [])
    | b :: r =>
      if b = ascii '[' then fs.readRow (recordWithCount name fs.count) 0 r
      else if b = ascii '\x7B' then fs.readMembers true (Slots.none αs) r
      else .error (refusal ("struct " ++ name) b r)

theorem length_lt_of_readRecord {αs : List Type} {name : String} {fs : Fields αs}
    {s r : List UInt8} {c : Values αs} (h : readRecord name fs s = .ok (c, r)) :
    r.length < s.length := by
  have hs := length_skipBlanks_le s
  unfold readRecord at h
  split at h
  · cases h
  · rename_i heq
    rw [heq] at hs
    simp only [List.length_cons] at hs
    split at h
    · have := fs.length_lt_of_readRow h
      omega
    · split at h
      · have := Fields.length_lt_of_readMembers h
        omega
      · cases h

/-- A structure that is written as the values of its fields. -/
def Codec.record {α : Type} {αs : List Type} (name : String) (fs : Fields αs)
    (make : Values αs → α) (parts : α → Values αs) : Codec α where
  toJson a := .obj (fs.members (parts a))
  read s :=
    match readRecord name fs s with
    | .error e => .error e
    | .ok (c, r) => .ok (make c, r)
  progress h := by
    split at h
    · cases h
    · rename_i hr
      cases h
      exact length_lt_of_readRecord hr

/-! ## Dictionaries -/

/-- The entries of an object after its opening brace, behind those already read (last one
first). -/
def readEntriesOnto {α : Type} (c : Codec α) (first : Bool) (seen : List (String × α))
    (s : List UInt8) : Except Fault (List (String × α) × List UInt8) :=
  match _hn : Fields.nextMember first s with
  | .error e => .error e
  | .ok (.closed r) => .ok (seen.reverse, r)
  | .ok (.item start) =>
    match _hk : readString start with
    | .error e => .error e
    | .ok (key, s) =>
      match _hc : readColon s with
      | .error e => .error e
      | .ok s =>
        match _hr : c.read s with
        | .error e => .error e
        | .ok (a, r) => readEntriesOnto c false ((key, a) :: seen) r
termination_by s.length
decreasing_by
  have h1 := Fields.length_lt_of_nextMember _hn
  have h2 := length_lt_of_readString _hk
  have h3 := length_lt_of_readColon _hc
  have h4 := c.progress _hr
  simp only at h1
  omega

/-- Reads an object with any keys: its entries in the order of the text. -/
def readDictionary {α : Type} (c : Codec α) : Reader (List (String × α)) :=
  fun s =>
    match skipBlanks s with
    | [] => .error (.on .endInValue [])
    | b :: r =>
      if b = ascii '\x7B' then readEntriesOnto c true [] r else .error (refusal "a map" b r)

theorem length_lt_of_readEntriesOnto {α : Type} {c : Codec α} {first : Bool}
    {seen es : List (String × α)} {s r : List UInt8}
    (h : readEntriesOnto c first seen s = .ok (es, r)) : r.length < s.length := by
  fun_induction readEntriesOnto c first seen s with
  | case1 => cases h
  | case2 _ _ _ t hn =>
    have := Fields.length_lt_of_nextMember hn
    cases h
    exact this
  | case3 => cases h
  | case4 => cases h
  | case5 => cases h
  | case6 _ _ _ _ hn _ _ hk _ hc _ _ hr ih =>
    -- separator, key, colon and value, and then the entries behind it
    have h1 := Fields.length_lt_of_nextMember hn
    have h2 := length_lt_of_readString hk
    have h3 := length_lt_of_readColon hc
    have h4 := c.progress hr
    have h5 := ih h
    simp only at h1
    omega

theorem length_lt_of_readDictionary {α : Type} {c : Codec α} {s r : List UInt8}
    {es : List (String × α)} (h : readDictionary c s = .ok (es, r)) : r.length < s.length := by
  have hs := length_skipBlanks_le s
  unfold readDictionary at h
  split at h
  · cases h
  · rename_i heq
    rw [heq] at hs
    simp only [List.length_cons] at hs
    split at h
    · have := length_lt_of_readEntriesOnto h
      omega
    · cases h

/-- An object with any keys, as the list of its entries. -/
def Codec.dictionary {α : Type} (c : Codec α) : Codec (List (String × α)) where
  toJson es := .obj (es.map fun e => (e.1, c.toJson e.2))
  read := readDictionary c
  progress := length_lt_of_readDictionary

end Rendezvous.Json
