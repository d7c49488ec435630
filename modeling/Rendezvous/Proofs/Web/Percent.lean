/-
What is left of a text that is percent-encoded and decoded.

The parser of URLs encodes what it has to, and the service decodes. Encoding does not add a code
that decoding would not take back: what is encoded is neither a percent sign nor a hex digit, so the
codes that the decoder finds are the ones that were there before and the ones that were added, and
no code is made of a bit of each (`percentDecode_percentEncode`).

The codes that were there before are the trouble. The parser leaves them as they are and the service
decodes them, and then the text is another one. It is the same text if and only if there are none
(`percentDecode_eq_encode_iff`), and shorter otherwise; decoding never makes a text longer.
-/
import Rendezvous.Proofs.Text.Utf8
import Rendezvous.Web.Percent

set_option autoImplicit false

namespace Rendezvous.Web

open Text (Utf8.encode)

/-- Whether all characters of a text have a property is decided by looking at these characters, and
not at all the characters there are. -/
instance (priority := high) decidableForallMem {p : Char → Prop} [DecidablePred p]
    (text : List Char) : Decidable (∀ c ∈ text, p c) :=
  List.decidableBAll p text

/-! ## One code

A percent sign with two hex digits behind it. A percent sign without them stands for itself. -/

theorem hexValue?_upperHexDigit : ∀ n < 16, Text.hexValue? (upperHexDigit n) = some n := by
  decide

/-- A code is read as the byte it stands for. -/
theorem percentDecode_percentCode (b : UInt8) (cs : List Char) :
    percentDecode (percentCode b ++ cs) = b :: percentDecode cs := by
  have hb : b.toNat < 256 := b.toNat_lt
  have hbyte : hexByte? (upperHexDigit (b.toNat / 16)) (upperHexDigit (b.toNat % 16)) = some b := by
    rw [hexByte?, hexValue?_upperHexDigit _ (by omega), hexValue?_upperHexDigit _ (by omega)]
    dsimp only
    rw [Nat.div_add_mod' b.toNat 16, UInt8.ofNat_toNat]
  rw [percentCode, List.cons_append, List.cons_append, List.cons_append, List.nil_append,
    percentDecode, hbyte]

theorem percentDecode_flatMap (bs : List UInt8) (cs : List Char) :
    percentDecode (bs.flatMap percentCode ++ cs) = bs ++ percentDecode cs := by
  induction bs with
  | nil => rfl
  | cons b bs ih =>
    rw [List.flatMap_cons, List.append_assoc, percentDecode_percentCode, ih, List.cons_append]

/-- A percent sign without a code stands for itself. -/
theorem percentDecode_percent {cs : List Char}
    (h : ∀ high low rest, cs = high :: low :: rest → hexByte? high low = none) :
    percentDecode ('%' :: cs) = 0x25 :: percentDecode cs := by
  match cs with
  | [] => rfl
  | [c] => rfl
  | high :: low :: rest => rw [percentDecode, h high low rest rfl]

theorem percentDecode_cons {c : Char} (h : c ≠ '%') (cs : List Char) :
    percentDecode (c :: cs) = String.utf8EncodeChar c ++ percentDecode cs := by
  rw [percentDecode]
  intro high low rest hc
  exact absurd hc h

/-! ## Coding, then decoding

Which characters are encoded depends on the part of the URL, so the set is a parameter. -/

/-- A set of characters without those that codes are made of. -/
def SparesCodes (coded : Char → Bool) : Prop :=
  ∀ c, coded c = true → c ≠ '%' ∧ Text.hexValue? c = none

theorem toNat_of_hexValue? {c : Char} {n : Nat} (h : Text.hexValue? c = some n) :
    48 ≤ c.toNat ∧ c.toNat ≤ 57 ∨ 97 ≤ c.toNat ∧ c.toNat ≤ 102 ∨ 65 ≤ c.toNat ∧ c.toNat ≤ 70 := by
  rw [Text.hexValue?] at h
  split at h
  · rename_i hdigit
    exact .inl hdigit
  · split at h
    · rename_i hlower
      exact .inr (.inl hlower)
    · split at h
      · rename_i hupper
        exact .inr (.inr hupper)
      · cases h

/-- The digits of a code are hex digits, and so they are not percent signs. -/
theorem digits_of_hexByte? {high low : Char} {b : UInt8} (h : hexByte? high low = some b) :
    (Text.hexValue? high ≠ none ∧ high ≠ '%') ∧ Text.hexValue? low ≠ none ∧ low ≠ '%' := by
  have hne : ∀ c, Text.hexValue? c ≠ none → c ≠ '%' := by
    rintro c hc rfl
    exact hc (by decide)
  have hboth : Text.hexValue? high ≠ none ∧ Text.hexValue? low ≠ none := by
    rw [hexByte?] at h
    split at h
    · rename_i hhigh hlow
      rw [hhigh, hlow]
      exact ⟨Option.some_ne_none _, Option.some_ne_none _⟩
    · cases h
  exact ⟨⟨hboth.1, hne high hboth.1⟩, hboth.2, hne low hboth.2⟩

theorem sparesCodes_path : SparesCodes codedInPath := by
  intro c hc
  constructor
  · rintro rfl
    revert hc
    decide
  · rcases hvalue : Text.hexValue? c with _ | n
    · rfl
    · exfalso
      have hbounds := toNat_of_hexValue? hvalue
      have hanywhere : codedAnywhere c = false := by
        rw [codedAnywhere, Bool.or_eq_false_iff, decide_eq_false_iff_not, decide_eq_false_iff_not]
        omega
      -- what is left are nine characters, and none of them is a digit
      have hnine : c ∈ [' ', '"', '<', '>', '\x60', '#', '?', '\x7B', '\x7D'] := by
        rw [codedInPath, codedInFragment, hanywhere] at hc
        simpa [or_assoc] using hc
      have hnone : ∀ d ∈ [' ', '"', '<', '>', '\x60', '#', '?', '\x7B', '\x7D'],
          Text.hexValue? d = none := by decide
      rw [hnone c hnine] at hvalue
      cases hvalue

section

variable {coded : Char → Bool}

theorem percentEncode_cons_of_coded {c : Char} (h : coded c = true) (cs : List Char) :
    percentEncode coded (c :: cs) =
      (String.utf8EncodeChar c).flatMap percentCode ++ percentEncode coded cs := by
  rw [percentEncode, List.flatMap_cons, if_pos h, percentEncode]

theorem percentEncode_cons_of_not {c : Char} (h : coded c = false) (cs : List Char) :
    percentEncode coded (c :: cs) = c :: percentEncode coded cs := by
  rw [percentEncode, List.flatMap_cons, if_neg (by rw [h]; exact Bool.false_ne_true),
    List.singleton_append, percentEncode]

/-- An encoded text holds characters of the text and of codes. It is used to show that a character
which is in neither cannot be in the URL. -/
theorem mem_percentEncode {cs : List Char} {d : Char} (h : d ∈ percentEncode coded cs) :
    d ∈ cs ∨ d = '%' ∨ Text.hexValue? d ≠ none := by
  rw [percentEncode, List.mem_flatMap] at h
  obtain ⟨c, hc, hd⟩ := h
  split at hd
  · obtain ⟨b, -, hb⟩ := List.mem_flatMap.mp hd
    have hbound : b.toNat < 256 := b.toNat_lt
    rw [percentCode, List.mem_cons, List.mem_cons, List.mem_singleton] at hb
    right
    -- a percent sign and two digits stand for each byte
    rcases hb with rfl | rfl | rfl
    · exact .inl rfl
    · right
      rw [hexValue?_upperHexDigit _ (by omega)]
      exact Option.some_ne_none _
    · right
      rw [hexValue?_upperHexDigit _ (by omega)]
      exact Option.some_ne_none _
  · rw [List.mem_singleton.mp hd]
    exact .inl hc

/-- An encoded text begins with something other than a percent sign only if the text does. A code
always begins with the sign, so such a character was not encoded. -/
theorem percentEncode_eq_cons {cs rest : List Char} {d : Char}
    (h : percentEncode coded cs = d :: rest) (hd : d ≠ '%') :
    ∃ rest', cs = d :: rest' ∧ percentEncode coded rest' = rest := by
  match cs with
  | [] => cases h
  | c :: cs =>
    cases hc : coded c with
    | true =>
      -- a code begins with a percent sign
      rw [percentEncode_cons_of_coded hc] at h
      obtain ⟨b, bs, hbytes⟩ := List.exists_cons_of_ne_nil (@String.utf8EncodeChar_ne_nil c)
      rw [hbytes, List.flatMap_cons, percentCode] at h
      exact absurd (List.cons.inj h).1.symm hd
    | false =>
      rw [percentEncode_cons_of_not hc] at h
      obtain ⟨rfl, rfl⟩ := List.cons.inj h
      exact ⟨cs, rfl, rfl⟩

/-- Encoding does not complete a code that was not there: a percent sign in the text is not followed
by two hex digits after encoding if it was not before. -/
theorem percentDecode_percent_encode {cs : List Char}
    (h : ∀ high low rest, cs = high :: low :: rest → hexByte? high low = none) :
    percentDecode ('%' :: percentEncode coded cs) =
      0x25 :: percentDecode (percentEncode coded cs) := by
  apply percentDecode_percent
  intro high low rest heq
  rcases hbyte : hexByte? high low with _ | b
  · rfl
  · exfalso
    obtain ⟨hhigh, hlow⟩ := digits_of_hexByte? hbyte
    obtain ⟨cs', rfl, heq'⟩ := percentEncode_eq_cons heq hhigh.2
    obtain ⟨rest', rfl, -⟩ := percentEncode_eq_cons heq' hlow.2
    rw [h high low rest' rfl] at hbyte
    cases hbyte

/-- **Encoding makes no difference to what is decoded.** The induction is the one of the decoder,
which takes one character or three. -/
theorem percentDecode_percentEncode (h : SparesCodes coded) (cs : List Char) :
    percentDecode (percentEncode coded cs) = percentDecode cs := by
  have hpercent : coded '%' = false := by
    rw [← Bool.not_eq_true]
    intro hcoded
    exact (h '%' hcoded).1 rfl
  have hdigit : ∀ c, Text.hexValue? c ≠ none → coded c = false := by
    intro c hc
    rw [← Bool.not_eq_true]
    intro hcoded
    exact hc (h c hcoded).2
  fun_induction percentDecode cs with
  | case1 => rfl
  | case2 high low rest b hbyte ih =>
    -- the digits of a code are not coded, so it is still there
    obtain ⟨hhigh, hlow⟩ := digits_of_hexByte? hbyte
    rw [percentEncode_cons_of_not hpercent, percentEncode_cons_of_not (hdigit high hhigh.1),
      percentEncode_cons_of_not (hdigit low hlow.1), percentDecode, hbyte]
    dsimp only
    rw [ih]
  | case3 high low rest hbyte ih =>
    rw [percentEncode_cons_of_not hpercent, percentDecode_percent_encode, ih]
    intro high' low' rest' heq
    obtain ⟨rfl, heq'⟩ := List.cons.inj heq
    obtain ⟨rfl, -⟩ := List.cons.inj heq'
    exact hbyte
  | case4 c rest hother ih =>
    cases hc : coded c with
    | true => rw [percentEncode_cons_of_coded hc, percentDecode_flatMap, ih]
    | false =>
      rw [percentEncode_cons_of_not hc]
      by_cases hmark : c = '%'
      · subst hmark
        rw [percentDecode_percent_encode, ih]
        · rfl
        · intro high low rest' heq
          exact (hother high low rest' rfl heq).elim
      · rw [percentDecode_cons hmark, ih]

end

/-! ## Texts that are decoded as they are

A text with a code in it is decoded to something else, and the length tells. -/

/-- A text without a percent sign that has two hex digits behind it. -/
def CodeFree : List Char → Prop
  | [] => True
  | '%' :: high :: low :: rest => hexByte? high low = none ∧ CodeFree (high :: low :: rest)
  | _ :: rest => CodeFree rest

theorem codeFree_of_not_mem {cs : List Char} (h : '%' ∉ cs) : CodeFree cs := by
  fun_induction CodeFree cs with
  | case1 => trivial
  | case2 => exact absurd (List.mem_cons_self ..) h
  | case3 c rest _ ih => exact ih fun hmem => h (List.mem_cons_of_mem _ hmem)

/-- Decoding does not make a text longer: a code is three characters and one byte. So a text that
decodes to something of full length has no code that counts. -/
theorem length_percentDecode_le (cs : List Char) :
    (percentDecode cs).length ≤ (Utf8.encode cs).length := by
  fun_induction percentDecode cs with
  | case1 => exact Nat.le_refl _
  | case2 high low rest b hbyte ih =>
    rw [Text.Utf8.encode_cons, Text.Utf8.encode_cons, Text.Utf8.encode_cons]
    simp only [List.length_append, List.length_cons]
    have hpos : 0 < (String.utf8EncodeChar '%').length := by decide
    omega
  | case3 high low rest hbyte ih =>
    rw [Text.Utf8.encode_cons, List.length_cons, List.length_append]
    have hone : (String.utf8EncodeChar '%').length = 1 := by decide
    omega
  | case4 c rest hother ih =>
    rw [Text.Utf8.encode_cons, List.length_append, List.length_append]
    omega

/-- **A text is decoded as it is if and only if there is no code in it.** A percent sign without two
digits behind it is no code and stays, as the URL parser leaves it. -/
theorem percentDecode_eq_encode_iff (cs : List Char) :
    percentDecode cs = Utf8.encode cs ↔ CodeFree cs := by
  fun_induction percentDecode cs with
  | case1 => exact iff_of_true rfl trivial
  | case2 high low rest b hbyte ih =>
    -- a code is shorter than what it was written with
    rw [CodeFree, hbyte]
    constructor
    · intro heq
      exfalso
      have hlength := congrArg List.length heq
      have hle := length_percentDecode_le rest
      have hone : (String.utf8EncodeChar '%').length = 1 := by decide
      have hhigh := List.length_pos_iff.mpr (@String.utf8EncodeChar_ne_nil high)
      rw [Text.Utf8.encode_cons, Text.Utf8.encode_cons, Text.Utf8.encode_cons, List.length_cons,
        List.length_append, List.length_append, List.length_append] at hlength
      omega
    · rintro ⟨hnone, -⟩
      cases hnone
  | case3 high low rest hbyte ih =>
    have hone : Utf8.encode ('%' :: high :: low :: rest) =
        0x25 :: Utf8.encode (high :: low :: rest) := rfl
    rw [CodeFree, ← ih, hone, List.cons_inj_right]
    exact ⟨fun h => ⟨hbyte, h⟩, And.right⟩
  | case4 c rest hother ih =>
    rw [CodeFree, ← ih, Text.Utf8.encode_cons, List.append_cancel_left_eq]
    exact hother

end Rendezvous.Web
