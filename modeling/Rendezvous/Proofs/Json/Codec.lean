/-
What a codec writes, it reads: the scalars, values that may be null, and lists.

`serde_json` writes a value and reads it by two functions that are derived from one type. A `Codec`
is such a pair. A reader takes a value from the front of a text and cannot know where the writer
stopped, so the statement that goes through the parts of a value is about any text behind it that
may follow a value: `Codec.Recovers`. It is a statement about one value and not about a codec,
because a value may hold a float, and whether a float is read back is not settled here. The codec of
a list or of a record recovers a value as soon as the codecs of its parts recover its parts.

Two readers look at the first byte before they hand the text on: the one of a list, for a closing
bracket, and the one of an `Option`, for `null`. `bytes_eq_cons` tells what they can find there.
-/
import Rendezvous.Json.Codec
import Rendezvous.Proofs.Json.Whole

set_option autoImplicit false

namespace Rendezvous.Json

open Text (Utf8.encode)

/-! ## The bytes of a tree

Readers work on bytes and writers make characters, so a tree is looked at through its encoding. -/

/-- The text of a tree, in bytes. -/
def bytes (v : Json) : List UInt8 :=
  Utf8.encode v.render

/-- A tree that is no float itself; there may be floats below it. A float may be written as `null`,
which a reader of an `Option` would take for `None`. -/
def Whole (v : Json) : Prop :=
  ∀ f, v ≠ .float f

theorem encode_ascii {c : Char} (h : c.toNat < 0x80) (cs : List Char) :
    Utf8.encode (c :: cs) = ascii c :: Utf8.encode cs := by
  rw [Text.Utf8.encode_cons, Text.Utf8.encodeChar_of_lt h]
  rfl

theorem encode_quoted (text : String) :
    Utf8.encode (quoted text) =
      ascii '"' :: (Utf8.encode (text.toList.flatMap escaped) ++ [ascii '"']) := by
  rw [quoted, List.cons_append, encode_ascii (by decide), Text.Utf8.encode_append,
    encode_ascii (by decide), Text.Utf8.encode_nil]

theorem bytes_str (text : String) :
    bytes (.str text) =
      ascii '"' :: (Utf8.encode (text.toList.flatMap escaped) ++ [ascii '"']) := by
  rw [bytes, render, encode_quoted]

theorem bytes_arr (vs : List Json) :
    bytes (.arr vs) = ascii '[' :: (Utf8.encode (renderElements vs) ++ [ascii ']']) := by
  rw [bytes, render, List.cons_append, encode_ascii (by decide), Text.Utf8.encode_append,
    encode_ascii (by decide), Text.Utf8.encode_nil]

theorem bytes_obj (ms : List (String × Json)) :
    bytes (.obj ms) = ascii '\x7B' :: (Utf8.encode (renderMembers ms) ++ [ascii '\x7D']) := by
  rw [bytes, render, List.cons_append, encode_ascii (by decide), Text.Utf8.encode_append,
    encode_ascii (by decide), Text.Utf8.encode_nil]

/-- The elements of a list: the first one, and every other behind a comma. -/
theorem encode_renderElements (v : Json) (vs : List Json) :
    Utf8.encode (renderElements (v :: vs)) =
      bytes v ++ vs.flatMap fun w => ascii ',' :: bytes w := by
  induction vs generalizing v with
  | nil => rw [renderElements, List.flatMap_nil, List.append_nil, bytes]
  | cons w vs ih =>
    rw [renderElements, Text.Utf8.encode_append, encode_ascii (by decide), ih, List.flatMap_cons,
      List.cons_append]
    rfl

/-- **How the text of a value begins**: with no blank and no closing bracket, and with an `n` only
if it is `null`. -/
theorem bytes_eq_cons {v : Json} (hv : v.Whole) :
    ∃ b r, bytes v = b :: r ∧ isBlank b = false ∧ b ≠ ascii ']' ∧ (b = ascii 'n' → v = .null) := by
  cases v with
  | null =>
    exact ⟨ascii 'n', Utf8.encode ['u', 'l', 'l'], by decide, by decide, by decide, fun _ => rfl⟩
  | bool b =>
    cases b with
    | true =>
      exact ⟨ascii 't', Utf8.encode ['r', 'u', 'e'], by decide, by decide, by decide,
        fun h => absurd h (by decide)⟩
    | false =>
      exact ⟨ascii 'f', Utf8.encode ['a', 'l', 's', 'e'], by decide, by decide, by decide,
        fun h => absurd h (by decide)⟩
  | int i =>
    obtain ⟨c, cs, heq, hc⟩ : ∃ c cs, intDigits i = c :: cs ∧
        (c = '-' ∨ ∃ d < 10, c = d.digitChar) := by
      rcases i with n | n
      · rcases Nat.eq_zero_or_pos n with rfl | hpos
        · exact ⟨'0', [], Nat.toDigits_zero 10, .inr ⟨0, by decide, rfl⟩⟩
        · obtain ⟨d, cs, _, hd, heq⟩ := toDigits_eq_cons hpos
          exact ⟨d.digitChar, cs, heq, .inr ⟨d, hd, rfl⟩⟩
      · exact ⟨'-', _, rfl, .inl rfl⟩
    -- a sign or a digit; which one makes no difference here
    have hstart : ∀ d < 10, d.digitChar.toNat < 0x80 ∧ isBlank (ascii d.digitChar) = false ∧
        ascii d.digitChar ≠ ascii ']' ∧ ascii d.digitChar ≠ ascii 'n' := by decide
    rcases hc with rfl | ⟨d, hd, rfl⟩
    · refine ⟨ascii '-', Utf8.encode cs, ?_, by decide, by decide, fun h => absurd h (by decide)⟩
      rw [bytes, render, heq, encode_ascii (by decide)]
    · obtain ⟨hlt, hblank, hbracket, hn⟩ := hstart d hd
      refine ⟨ascii d.digitChar, Utf8.encode cs, ?_, hblank, hbracket, fun h => absurd h hn⟩
      rw [bytes, render, heq, encode_ascii hlt]
  | float f => exact absurd rfl (hv f)
  | str text =>
    exact ⟨_, _, bytes_str text, by decide, by decide, fun h => absurd h (by decide)⟩
  | arr vs =>
    exact ⟨_, _, bytes_arr vs, by decide, by decide, fun h => absurd h (by decide)⟩
  | obj ms =>
    exact ⟨_, _, bytes_obj ms, by decide, by decide, fun h => absurd h (by decide)⟩

theorem skipBlanks_cons {b : UInt8} (h : isBlank b = false) (s : List UInt8) :
    skipBlanks (b :: s) = b :: s := by
  rw [skipBlanks, List.dropWhile_cons_of_neg (by rw [h]; exact Bool.false_ne_true)]

/-! ## Values that are recovered -/

variable {α : Type}

/-- The codec reads this value from its text and goes no further, whatever follows that may follow a
value. -/
structure Codec.Recovers (c : Codec α) (a : α) : Prop where
  whole : (c.toJson a).Whole
  read_bytes : ∀ s, Ends s → c.read ((c.toJson a).bytes ++ s) = .ok (a, s)

/-- **A value that is recovered is decoded from its text.** Here nothing follows, which is a case of
the rest being arbitrary. -/
theorem Codec.Recovers.decode_encode {c : Codec α} {a : α} (h : c.Recovers a) :
    c.decode (Text.Utf8.bytes (c.encode a)) = .ok a := by
  have hbytes : Text.Utf8.bytes (c.encode a) = (c.toJson a).bytes := by
    rw [Text.Utf8.bytes, Codec.encode, Json.text, String.toList_ofList, Json.bytes]
  have hread := h.read_bytes [] ends_nil
  rw [List.append_nil] at hread
  rw [Codec.decode, hbytes, hread]
  rfl

/-! ## Scalars -/

theorem readQuotedAs_quoted {parse : String → Except Cause α} {text : String} {a : α}
    (h : parse text = .ok a) (s : List UInt8) :
    readQuotedAs parse (Utf8.encode (text.toList.flatMap escaped) ++ ascii '"' :: s) =
      .ok (a, s) := by
  rw [readQuotedAs, readString_quoted]
  dsimp only
  rw [h]

/-- A value that is written as a string and parsed from it, such as an instant or a name. -/
theorem recovers_ofString {expected : String} {write : α → String}
    {parse : String → Except Cause α} {a : α} (h : parse (write a) = .ok a) :
    (Codec.ofString expected write parse).Recovers a where
  whole _ := nofun
  read_bytes s _ := by
    show readStringAs expected parse (bytes (.str (write a)) ++ s) = .ok (a, s)
    rw [bytes_str, List.cons_append, readStringAs, skipBlanks_cons (by decide)]
    dsimp only
    rw [if_pos rfl, List.append_assoc, List.singleton_append, readQuotedAs_quoted h]

theorem recovers_text (a : String) : Codec.text.Recovers a :=
  recovers_ofString rfl

/-- A whole number that the reader's type accepts. The bounds are those of 64 bits, with a sign or
without one, beyond which a reader turns to floats. -/
theorem readNumberAs_int {expected : String} {accept : Number → Except Cause α} {i : Int} {a : α}
    (hlow : -9223372036854775808 ≤ i) (hhigh : i ≤ 18446744073709551615)
    (haccept : accept (.whole i) = .ok a) {s : List UInt8} (hs : Ends s) :
    readNumberAs expected accept (bytes (.int i) ++ s) = .ok (a, s) := by
  obtain ⟨b, r, heq, hb, hread⟩ := readNumber_intDigits hlow hhigh hs
  -- the byte that the number is read from is the one that the text begins with
  obtain ⟨b', r', heq', hblank, _, _⟩ := bytes_eq_cons (v := .int i) (fun _ => nofun)
  have hbytes : bytes (.int i) = b :: r := by rw [bytes, render, heq]
  obtain ⟨rfl, rfl⟩ := List.cons.inj (hbytes.symm.trans heq')
  rw [hbytes, List.cons_append, readNumberAs, skipBlanks_cons hblank]
  dsimp only
  rw [if_pos hb, hread]
  dsimp only
  rw [haccept]

theorem recovers_u32 (n : UInt32) : Codec.u32.Recovers n where
  whole _ := nofun
  read_bytes s hs := by
    have hlt : n.toNat < 4294967296 := n.toNat_lt
    refine readNumberAs_int (i := (n.toNat : Int)) (by omega) (by omega) ?_ hs
    rw [acceptWhole, if_pos ⟨by omega, by omega⟩, Int.toNat_natCast, UInt32.ofNat_toNat]

theorem recovers_i64 (n : Int64) : Codec.i64.Recovers n where
  whole _ := nofun
  read_bytes s hs := by
    have hlow : -9223372036854775808 ≤ n.toInt := n.le_toInt
    have hhigh : n.toInt < 9223372036854775808 := n.toInt_lt
    refine readNumberAs_int (i := n.toInt) hlow (by omega) ?_ hs
    rw [acceptWhole, if_pos ⟨hlow, by omega⟩, Int64.ofInt_toInt]

/-- A case of an enum whose name belongs to no case before it. -/
theorem recovers_choice {name : α → String} {values : List α} {a : α}
    (h : caseOf (values.map fun a => (name a, a)) (name a) = .ok a) :
    (Codec.choice name values).Recovers a where
  whole _ := nofun
  read_bytes s _ := by
    show readCase _ (bytes (.str (name a)) ++ s) = .ok (a, s)
    rw [bytes_str, List.cons_append, readCase, skipBlanks_cons (by decide)]
    dsimp only
    rw [if_pos rfl, List.append_assoc, List.singleton_append, readQuotedAs_quoted h]

/-! ## Values that may be null

`None` is written as `null`. So `Some` of a value that is itself written as `null` would be lost,
and this is what the condition on `toJson` excludes. -/

theorem recovers_none (c : Codec α) : c.nullable.Recovers none where
  whole _ := nofun
  read_bytes s _ := by
    have hnull : bytes .null = [ascii 'n', ascii 'u', ascii 'l', ascii 'l'] := by decide
    show readNullable c (bytes .null ++ s) = .ok (none, s)
    rw [hnull, List.cons_append, readNullable, skipBlanks_cons (by decide)]
    dsimp only
    rw [if_pos rfl]
    rfl

theorem recovers_some {c : Codec α} {a : α} (h : c.Recovers a) (hne : c.toJson a ≠ .null) :
    c.nullable.Recovers (some a) where
  whole := h.whole
  read_bytes s hs := by
    obtain ⟨b, r, heq, hblank, _, hnull⟩ := bytes_eq_cons h.whole
    have hread := h.read_bytes s hs
    show readNullable c ((c.toJson a).bytes ++ s) = .ok (some a, s)
    rw [heq, List.cons_append] at hread ⊢
    rw [readNullable, skipBlanks_cons hblank]
    dsimp only
    rw [if_neg fun hb => hne (hnull hb), hread]

/-! ## Lists -/

theorem readElementsOnto_closed {c : Codec α} {first : Bool} {seen : List α} {s r : List UInt8}
    (h : nextElement first s = .ok (.closed r)) :
    readElementsOnto c first seen s = .ok (seen.reverse, r) := by
  rw [readElementsOnto]
  split
  · rename_i heq
    cases h.symm.trans heq
  · rename_i heq
    obtain rfl := Next.closed.inj (Except.ok.inj (h.symm.trans heq))
    rfl
  · rename_i heq
    cases Except.ok.inj (h.symm.trans heq)

theorem readElementsOnto_item {c : Codec α} {first : Bool} {seen : List α} {a : α}
    {s start r : List UInt8} (h : nextElement first s = .ok (.item start))
    (hread : c.read start = .ok (a, r)) :
    readElementsOnto c first seen s = readElementsOnto c false (a :: seen) r := by
  rw [readElementsOnto]
  split
  · rename_i heq
    cases h.symm.trans heq
  · rename_i heq
    cases Except.ok.inj (h.symm.trans heq)
  · rename_i heq
    -- only this branch agrees with what comes next in the text
    obtain rfl := Next.item.inj (Except.ok.inj (h.symm.trans heq))
    split
    · rename_i heq
      cases hread.symm.trans heq
    · rename_i heq
      obtain ⟨rfl, rfl⟩ := Prod.mk.inj (Except.ok.inj (hread.symm.trans heq))
      rfl

theorem nextElement_closed (first : Bool) (s : List UInt8) :
    nextElement first (ascii ']' :: s) = .ok (.closed s) := by
  rw [nextElement, skipBlanks_cons (by decide)]
  dsimp only
  rw [if_pos rfl]

theorem nextElement_first {v : Json} (hv : v.Whole) (s : List UInt8) :
    nextElement true (bytes v ++ s) = .ok (.item (bytes v ++ s)) := by
  obtain ⟨b, r, heq, hblank, hbracket, _⟩ := bytes_eq_cons hv
  rw [heq, List.cons_append, nextElement, skipBlanks_cons hblank]
  dsimp only
  rw [if_neg hbracket, if_pos rfl]

theorem nextElement_comma {v : Json} (hv : v.Whole) (s : List UInt8) :
    nextElement false (ascii ',' :: (bytes v ++ s)) = .ok (.item (bytes v ++ s)) := by
  obtain ⟨b, r, heq, hblank, hbracket, _⟩ := bytes_eq_cons hv
  rw [heq, List.cons_append, nextElement, skipBlanks_cons (by decide)]
  dsimp only
  rw [if_neg (by decide), if_neg Bool.false_ne_true, if_pos rfl, skipBlanks_cons hblank]
  dsimp only
  rw [if_neg hbracket]

/-- What follows an element may follow a value: it is the closing bracket or a comma. -/
theorem ends_elements (vs : List Json) (s : List UInt8) :
    Ends (vs.flatMap (fun v => ascii ',' :: bytes v) ++ ascii ']' :: s) := by
  cases vs with
  | nil => exact ends_bracket s
  | cons v vs => exact ends_comma _

/-- The elements behind the first one, by induction on them. What has been read so far is kept in
reverse, as the reader keeps it. -/
theorem readElementsOnto_rest {c : Codec α} {as : List α} (has : ∀ a ∈ as, c.Recovers a)
    (seen : List α) (s : List UInt8) :
    readElementsOnto c false seen
        ((as.map c.toJson).flatMap (fun v => ascii ',' :: bytes v) ++ ascii ']' :: s) =
      .ok (seen.reverse ++ as, s) := by
  induction as generalizing seen with
  | nil =>
    rw [List.map_nil, List.flatMap_nil, List.nil_append,
      readElementsOnto_closed (nextElement_closed false s), List.append_nil]
  | cons a as ih =>
    obtain ⟨hwhole, hread⟩ := has a (List.mem_cons_self ..)
    rw [List.map_cons, List.flatMap_cons, List.append_assoc, List.cons_append,
      readElementsOnto_item (nextElement_comma hwhole _) (hread _ (ends_elements _ s)),
      ih fun b hb => has b (List.mem_cons_of_mem a hb), List.reverse_cons, List.append_assoc,
      List.singleton_append]

/-- **A list is recovered if its elements are.** The element in front has no comma, the others have
one, so the induction is about the elements behind the first. -/
theorem recovers_list {c : Codec α} {as : List α} (has : ∀ a ∈ as, c.Recovers a) :
    c.list.Recovers as where
  whole _ := nofun
  read_bytes s _ := by
    show readList c (bytes (.arr (as.map c.toJson)) ++ s) = .ok (as, s)
    rw [bytes_arr, List.cons_append, readList, skipBlanks_cons (by decide)]
    dsimp only
    rw [if_pos rfl, List.append_assoc, List.singleton_append]
    cases as with
    | nil =>
      rw [List.map_nil, renderElements, Text.Utf8.encode_nil, List.nil_append,
        readElementsOnto_closed (nextElement_closed true s), List.reverse_nil]
    | cons a as =>
      -- the first element has no comma before it
      obtain ⟨hwhole, hread⟩ := has a (List.mem_cons_self ..)
      rw [List.map_cons, encode_renderElements, List.append_assoc,
        readElementsOnto_item (nextElement_first hwhole _) (hread _ (ends_elements _ s)),
        readElementsOnto_rest fun b hb => has b (List.mem_cons_of_mem a hb)]
      rfl

end Rendezvous.Json
