/-
JSON documents, and the texts that they are written as.

The service need not write as this program does. One value can be written in many ways: with blanks
between its tokens or without, a character as itself or by an escape, a number with places or with
an exponent. A `Doc` keeps the tokens as they are written and the members of an object in their
order; only the blanks are left open, and `Doc.Spells` tells which texts a document has. It is the
grammar of JSON with all that it allows: halves of surrogate pairs that stand alone, numbers of any
size, keys that occur twice.

What follows a value has to keep apart from it (`Apart`), or a number would go on.
-/
import Rendezvous.Json.Number
import Rendezvous.Proofs.Json.Codec

set_option autoImplicit false

namespace Rendezvous.Json

open Text (Utf8.encode)

/-! ## Strings

A string is kept as it is spelled, because two spellings of one string are one key to a record. -/

/-- A part of a string, as it is written. -/
inductive Piece
  /-- a character that stands for itself -/
  | plain (c : Char) (h : c ≠ '"' ∧ c ≠ '\\' ∧ ¬ c.toNat < 0x20)
  /-- an escape by letter -/
  | letter (b : UInt8) (h : (letterEscape? b).isSome = true)
  /-- an escape by number, with four hex digits -/
  | code (b₁ b₂ b₃ b₄ : UInt8) (h : (hexValue? b₁ b₂ b₃ b₄).isSome = true)

/-- The text of a part of a string. -/
def Piece.bytes : Piece → List UInt8
  | plain c _ => String.utf8EncodeChar c
  | letter b _ => [ascii '\\', b]
  | code b₁ b₂ b₃ b₄ _ => [ascii '\\', ascii 'u', b₁, b₂, b₃, b₄]

/-- The text of a string between its quotes. -/
def pieceBytes (ps : List Piece) : List UInt8 :=
  ps.flatMap Piece.bytes

/-- The text of a string. -/
def stringBytes (ps : List Piece) : List UInt8 :=
  ascii '"' :: (pieceBytes ps ++ [ascii '"'])

/-- The spelling of a string whose characters all stand for themselves. -/
def plainPieces (cs : List Char)
    (h : (cs.all fun c => c ≠ '"' ∧ c ≠ '\\' ∧ ¬ c.toNat < 0x20) = true) : List Piece :=
  cs.attach.map fun c => .plain c.1 (of_decide_eq_true (List.all_eq_true.mp h c.1 c.2))

/-! ## Numbers -/

/-- The byte of a decimal digit. -/
def digitByte (d : Fin 10) : UInt8 :=
  ascii d.val.digitChar

/-- The text of digits. -/
def digitBytes (ds : List (Fin 10)) : List UInt8 :=
  ds.map digitByte

/-- The exponent of a number. -/
structure Exponent where
  /-- whether the mark is a capital letter -/
  capital : Bool
  /-- the sign, if one is written; whether it is a minus -/
  sign : Option Bool
  first : Fin 10
  rest : List (Fin 10)

/-- The text of a sign. -/
def signBytes : Option Bool → List UInt8
  | none => []
  | some false => [ascii '+']
  | some true => [ascii '-']

/-- The text of an exponent. -/
def Exponent.bytes (e : Exponent) : List UInt8 :=
  ascii (if e.capital then 'E' else 'e') ::
    (signBytes e.sign ++ digitBytes (e.first :: e.rest))

/-- A number, as it is written. -/
structure Numeral where
  negative : Bool
  /-- the digits before the point, of which the first one is not zero; none for a single zero -/
  whole : Option (Fin 9 × List (Fin 10))
  /-- the digits after the point -/
  places : Option (Fin 10 × List (Fin 10))
  exponent : Option Exponent

namespace Numeral

/-- The text of the digits before the point. -/
def wholeBytes : Option (Fin 9 × List (Fin 10)) → List UInt8
  | none => [ascii '0']
  | some (d, ds) => digitBytes (d.succ :: ds)

/-- The text of the digits after the point, with the point. -/
def placesBytes : Option (Fin 10 × List (Fin 10)) → List UInt8
  | none => []
  | some (d, ds) => ascii '.' :: digitBytes (d :: ds)

/-- The text of an exponent, if there is one. -/
def exponentBytes : Option Exponent → List UInt8
  | none => []
  | some e => e.bytes

/-- The text of a number behind its sign. -/
def unsignedBytes (n : Numeral) : List UInt8 :=
  wholeBytes n.whole ++ (placesBytes n.places ++ exponentBytes n.exponent)

/-- The text of a number. -/
def bytes (n : Numeral) : List UInt8 :=
  if n.negative then ascii '-' :: n.unsignedBytes else n.unsignedBytes

end Numeral

/-! ## Documents

A document is a tree of tokens. It is compared with what a codec reads, and never built by the
program. -/

/-- A JSON value, as it is written. -/
inductive Doc
  | null
  | bool (b : Bool)
  | number (n : Numeral)
  | string (ps : List Piece)
  | list (ds : List Doc)
  | object (ms : List (List Piece × Doc))

/-- The members of an object, as they are written. -/
abbrev Members : Type :=
  List (List Piece × Doc)

/-- Induction over documents, with the hypothesis for every element and every member. The recursor
of the type has a case for lists of documents, which no statement is about. -/
theorem Doc.induct {motive : Doc → Prop} (null : motive .null) (bool : ∀ b, motive (.bool b))
    (number : ∀ n, motive (.number n)) (string : ∀ ps, motive (.string ps))
    (list : ∀ ds, (∀ d ∈ ds, motive d) → motive (.list ds))
    (object : ∀ ms : Members, (∀ m ∈ ms, motive m.2) → motive (.object ms)) : ∀ d, motive d
  | .null => null
  | .bool b => bool b
  | .number n => number n
  | .string ps => string ps
  | .list ds => list ds fun d _ => Doc.induct null bool number string list object d
  | .object ms => object ms fun m _ => Doc.induct null bool number string list object m.2
termination_by d => sizeOf d
decreasing_by
  · have := List.sizeOf_lt_of_mem ‹d ∈ ds›
    simp only [Doc.list.sizeOf_spec]
    omega
  · have h := List.sizeOf_lt_of_mem ‹m ∈ ms›
    obtain ⟨key, d⟩ := m
    simp only [Doc.object.sizeOf_spec, Prod.mk.sizeOf_spec] at h ⊢
    omega

/-! ## Texts -/

/-- A text of nothing but blanks. -/
def Blank (s : List UInt8) : Prop :=
  ∀ b ∈ s, isBlank b = true

theorem blank_nil : Blank [] :=
  List.forall_mem_nil _

/-- The text of a word. -/
def letters (word : List Char) : List UInt8 :=
  word.map ascii

mutual

/-- A document is written as a text, without blanks around it. Between its tokens there may be
blanks, which the grammar allows anywhere but inside of a token. -/
def Doc.Spells : Doc → List UInt8 → Prop
  | .null, s => s = letters ['n', 'u', 'l', 'l']
  | .bool true, s => s = letters ['t', 'r', 'u', 'e']
  | .bool false, s => s = letters ['f', 'a', 'l', 's', 'e']
  | .number n, s => s = n.bytes
  | .string ps, s => s = stringBytes ps
  | .list [], s => ∃ e, Blank e ∧ s = ascii '[' :: (e ++ [ascii ']'])
  | .list (d :: ds), s =>
    ∃ e t u, Blank e ∧ d.Spells t ∧ SpellsElements ds u ∧ s = ascii '[' :: (e ++ (t ++ u))
  | .object [], s => ∃ e, Blank e ∧ s = ascii '\x7B' :: (e ++ [ascii '\x7D'])
  | .object ((key, d) :: ms), s =>
    ∃ e e₁ e₂ t u, Blank e ∧ Blank e₁ ∧ Blank e₂ ∧ d.Spells t ∧ SpellsMembers ms u ∧
      s = ascii '\x7B' ::
        (e ++ (stringBytes key ++ (e₁ ++ ascii ':' :: (e₂ ++ (t ++ u)))))

/-- Elements behind the first one of a list, and the closing bracket. -/
def SpellsElements : List Doc → List UInt8 → Prop
  | [], s => ∃ e, Blank e ∧ s = e ++ [ascii ']']
  | d :: ds, s =>
    ∃ e e₁ t u, Blank e ∧ Blank e₁ ∧ d.Spells t ∧ SpellsElements ds u ∧
      s = e ++ ascii ',' :: (e₁ ++ (t ++ u))

/-- Members behind the first one of an object, and the closing brace. -/
def SpellsMembers : List (List Piece × Doc) → List UInt8 → Prop
  | [], s => ∃ e, Blank e ∧ s = e ++ [ascii '\x7D']
  | (key, d) :: ms, s =>
    ∃ e e₀ e₁ e₂ t u, Blank e ∧ Blank e₀ ∧ Blank e₁ ∧ Blank e₂ ∧ d.Spells t ∧
      SpellsMembers ms u ∧
      s = e ++ ascii ',' ::
        (e₀ ++ (stringBytes key ++ (e₁ ++ ascii ':' :: (e₂ ++ (t ++ u)))))

end

/-- A document is written as a whole text, with blanks around it. -/
def Doc.Writes (d : Doc) (text : List UInt8) : Prop :=
  ∃ e s e', Blank e ∧ d.Spells s ∧ Blank e' ∧ text = e ++ (s ++ e')

mutual

/-- The text of a document without blanks. It is the text by which `Codec.value?` is defined; that
any other text of the document would do as well is `Codec.Definite.decode`. -/
def Doc.text : Doc → List UInt8
  | .null => letters ['n', 'u', 'l', 'l']
  | .bool true => letters ['t', 'r', 'u', 'e']
  | .bool false => letters ['f', 'a', 'l', 's', 'e']
  | .number n => n.bytes
  | .string ps => stringBytes ps
  | .list [] => [ascii '[', ascii ']']
  | .list (d :: ds) => ascii '[' :: (d.text ++ elementsText ds)
  | .object [] => [ascii '\x7B', ascii '\x7D']
  | .object ((key, d) :: ms) =>
    ascii '\x7B' :: (stringBytes key ++ ascii ':' :: (d.text ++ membersText ms))

/-- The text of the elements behind the first one. -/
def elementsText : List Doc → List UInt8
  | [] => [ascii ']']
  | d :: ds => ascii ',' :: (d.text ++ elementsText ds)

/-- The text of the members behind the first one. -/
def membersText : List (List Piece × Doc) → List UInt8
  | [] => [ascii '\x7D']
  | (key, d) :: ms => ascii ',' :: (stringBytes key ++ ascii ':' :: (d.text ++ membersText ms))

end

/-- Every document has a text, the one without blanks. So a statement about every text of a document
is never empty, whatever the document is. -/
theorem Doc.spells_text (d : Doc) : d.Spells d.text := by
  have hblank := blank_nil
  induction d using Doc.induct with
  | null => rfl
  | bool b => cases b <;> rfl
  | number n => rfl
  | string ps => rfl
  -- the elements behind the first one have a statement of their own, as the comma comes before them
  | list ds ih =>
    have hrest : ∀ ds : List Doc, (∀ d ∈ ds, d.Spells d.text) →
        SpellsElements ds (elementsText ds) := by
      intro ds
      induction ds with
      | nil => exact fun _ => ⟨[], hblank, rfl⟩
      | cons d ds ihs =>
        intro h
        exact ⟨[], [], _, _, hblank, hblank, h d (List.mem_cons_self ..),
          ihs fun d' hd' => h d' (List.mem_cons_of_mem _ hd'), rfl⟩
    cases ds with
    | nil => exact ⟨[], hblank, rfl⟩
    | cons d ds =>
      exact ⟨[], _, _, hblank, ih d (List.mem_cons_self ..),
        hrest ds fun d' hd' => ih d' (List.mem_cons_of_mem _ hd'), rfl⟩
  | object ms ih =>
    have hrest : ∀ ms : Members, (∀ m ∈ ms, m.2.Spells m.2.text) →
        SpellsMembers ms (membersText ms) := by
      intro ms
      induction ms with
      | nil => exact fun _ => ⟨[], hblank, rfl⟩
      | cons m ms ihs =>
        intro h
        exact ⟨[], [], [], [], _, _, hblank, hblank, hblank, hblank, h m (List.mem_cons_self ..),
          ihs fun m' hm' => h m' (List.mem_cons_of_mem _ hm'), rfl⟩
    cases ms with
    | nil => exact ⟨[], hblank, rfl⟩
    | cons m ms =>
      exact ⟨[], [], [], _, _, hblank, hblank, hblank, ih m (List.mem_cons_self ..),
        hrest ms fun m' hm' => ih m' (List.mem_cons_of_mem _ hm'), rfl⟩

theorem Doc.writes_text (d : Doc) : d.Writes d.text :=
  ⟨[], d.text, [], blank_nil, d.spells_text, blank_nil, (List.append_nil _).symm⟩

/-! ## Around a value

Blanks are skipped before every token, and a value ends where something keeps apart from it. -/

/-- Blanks before a token are passed over. -/
theorem skipBlanks_append {e : List UInt8} (h : Blank e) (s : List UInt8) :
    skipBlanks (e ++ s) = skipBlanks s := by
  induction e with
  | nil => rfl
  | cons b e ih =>
    rw [skipBlanks, List.cons_append, List.dropWhile_cons_of_pos (h b (List.mem_cons_self ..))]
    exact ih fun b' hb' => h b' (List.mem_cons_of_mem _ hb')

theorem skipBlanks_blank {e : List UInt8} (h : Blank e) : skipBlanks e = [] := by
  have hempty := skipBlanks_append h []
  rwa [List.append_nil] at hempty

/-- The bytes that may follow a value. -/
def separators : List UInt8 :=
  [0x20, 0x0A, 0x09, 0x0D, ascii ',', ascii ']', ascii '\x7D']

/-- What may follow a value: nothing, or something that cannot be taken for a part of it. -/
def Apart (s : List UInt8) : Prop :=
  s = [] ∨ ∃ b r, s = b :: r ∧ b ∈ separators

theorem mem_separators_of_isBlank {b : UInt8} (h : isBlank b = true) : b ∈ separators := by
  simp only [isBlank, Bool.or_eq_true, beq_iff_eq] at h
  rcases h with ((rfl | rfl) | rfl) | rfl
  · decide
  · decide
  · decide
  · decide

theorem apart_nil : Apart [] := .inl rfl

theorem apart_append {e : List UInt8} (he : Blank e) {s : List UInt8} (hs : Apart s) :
    Apart (e ++ s) := by
  cases e with
  | nil => exact hs
  | cons b e =>
    exact .inr ⟨b, e ++ s, rfl, mem_separators_of_isBlank (he b (List.mem_cons_self ..))⟩

theorem apart_blank {e : List UInt8} (he : Blank e) : Apart e := by
  have h := apart_append he apart_nil
  rwa [List.append_nil] at h

theorem apart_cons {b : UInt8} (hb : b ∈ separators) (s : List UInt8) : Apart (b :: s) :=
  .inr ⟨b, s, rfl, hb⟩

/-- What follows an element keeps apart from it. -/
theorem apart_elements {ds : List Doc} {u : List UInt8} (h : SpellsElements ds u)
    (r : List UInt8) : Apart (u ++ r) := by
  cases ds with
  | nil =>
    obtain ⟨e, he, rfl⟩ := h
    rw [List.append_assoc]
    exact apart_append he (apart_cons (by decide) r)
  | cons d ds =>
    obtain ⟨e, e₁, t, u, he, _, _, _, rfl⟩ := h
    rw [List.append_assoc, List.cons_append]
    exact apart_append he (apart_cons (by decide) _)

/-- What follows a member keeps apart from it. -/
theorem apart_members {ms : Members} {u : List UInt8} (h : SpellsMembers ms u)
    (r : List UInt8) : Apart (u ++ r) := by
  cases ms with
  | nil =>
    obtain ⟨e, he, rfl⟩ := h
    rw [List.append_assoc]
    exact apart_append he (apart_cons (by decide) r)
  | cons m ms =>
    obtain ⟨e, e₀, e₁, e₂, t, u, he, _, _, _, _, _, rfl⟩ := h
    rw [List.append_assoc, List.cons_append]
    exact apart_append he (apart_cons (by decide) _)

/-! ## The first byte of a value -/

theorem digit?_digitByte (d : Fin 10) : digit? (digitByte d) = some d.val :=
  digit?_digitChar d.isLt

/-- A byte that is no digit is none of the ten. -/
theorem digitByte_ne (d : Fin 10) {b : UInt8} (h : digit? b = none) : digitByte d ≠ b := by
  rintro rfl
  rw [digit?_digitByte] at h
  cases h

theorem exists_digitByte {b : UInt8} (h : (digit? b).isSome = true) : ∃ d, b = digitByte d := by
  have hbytes : ∀ n < 10, UInt8.ofNat (48 + n) = ascii n.digitChar := by decide
  unfold digit? at h
  split at h
  · rename_i hb
    obtain ⟨hlow, hhigh⟩ := hb
    have hlow : 48 ≤ b.toNat := UInt8.le_iff_toNat_le.mp hlow
    have hhigh : b.toNat ≤ 57 := UInt8.le_iff_toNat_le.mp hhigh
    refine ⟨⟨b.toNat - 48, by omega⟩, ?_⟩
    rw [digitByte, ← hbytes _ (by omega), Nat.add_sub_cancel' hlow, UInt8.ofNat_toNat]
  · cases h

/-- The first byte of a document, which is all that a reader goes by when it decides what to
read. -/
def Doc.Begins : Doc → UInt8 → Prop
  | .null, b => b = ascii 'n'
  | .bool true, b => b = ascii 't'
  | .bool false, b => b = ascii 'f'
  | .number _, b => b = ascii '-' ∨ (digit? b).isSome = true
  | .string _, b => b = ascii '"'
  | .list _, b => b = ascii '['
  | .object _, b => b = ascii '\x7B'

theorem Numeral.unsignedBytes_eq_cons (n : Numeral) :
    ∃ d t, n.unsignedBytes = digitByte d :: t := by
  obtain ⟨negative, whole, places, exponent⟩ := n
  rcases whole with _ | ⟨d, ds⟩
  · exact ⟨0, _, rfl⟩
  · exact ⟨d.succ, _, rfl⟩

theorem Doc.Spells.begins {d : Doc} {s : List UInt8} (h : d.Spells s) :
    ∃ b t, s = b :: t ∧ d.Begins b := by
  rcases d with _ | b | n | ps | ds | ms
  case null => exact ⟨_, _, h, rfl⟩
  case bool => cases b <;> exact ⟨_, _, h, rfl⟩
  case number =>
    -- a number begins with its sign, or else with its first digit
    obtain ⟨d, t, heq⟩ := n.unsignedBytes_eq_cons
    have h : s = n.bytes := h
    rw [h, Numeral.bytes]
    split
    · exact ⟨_, _, rfl, .inl rfl⟩
    · exact ⟨_, _, heq, .inr (by rw [digit?_digitByte]; rfl)⟩
  case string => exact ⟨_, _, h, rfl⟩
  case list =>
    cases ds with
    | nil =>
      obtain ⟨e, _, heq⟩ := h
      exact ⟨_, _, heq, rfl⟩
    | cons d ds =>
      obtain ⟨e, t, u, _, _, _, heq⟩ := h
      exact ⟨_, _, heq, rfl⟩
  case object =>
    cases ms with
    | nil =>
      obtain ⟨e, _, heq⟩ := h
      exact ⟨_, _, heq, rfl⟩
    | cons m ms =>
      obtain ⟨e, e₁, e₂, t, u, _, _, _, _, _, heq⟩ := h
      exact ⟨_, _, heq, rfl⟩

/-- No value begins with a blank, or with anything that may follow a value. A reader that has passed
over the blanks therefore knows that it stands at the value. -/
theorem Doc.Begins.not_mem_separators {d : Doc} {b : UInt8} (h : d.Begins b) :
    b ∉ separators := by
  rcases d with _ | c | n | ps | ds | ms
  case null =>
    obtain rfl := h
    decide
  case bool =>
    cases c with
    | true =>
      obtain rfl := h
      decide
    | false =>
      obtain rfl := h
      decide
  case number =>
    -- a sign, or one of ten digits
    rcases h with rfl | h
    · decide
    · obtain ⟨d, rfl⟩ := exists_digitByte h
      revert d
      decide
  case string =>
    obtain rfl := h
    decide
  case list =>
    obtain rfl := h
    decide
  case object =>
    obtain rfl := h
    decide

theorem Doc.Begins.not_blank {d : Doc} {b : UInt8} (h : d.Begins b) : isBlank b = false :=
  eq_false_of_ne_true fun hblank => h.not_mem_separators (mem_separators_of_isBlank hblank)

/-- The first byte of a document, behind blanks. Every reader of a value begins in this way. -/
theorem Doc.Spells.skipBlanks_eq {d : Doc} {s : List UInt8} (h : d.Spells s) {e : List UInt8}
    (he : Blank e) (r : List UInt8) :
    ∃ b t, s = b :: t ∧ d.Begins b ∧ skipBlanks (e ++ (s ++ r)) = b :: (t ++ r) := by
  obtain ⟨b, t, rfl, hb⟩ := h.begins
  refine ⟨b, t, rfl, hb, ?_⟩
  rw [skipBlanks_append he, List.cons_append, skipBlanks_cons hb.not_blank]

end Rendezvous.Json
