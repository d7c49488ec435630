/-
A string that was written between quotes is read back.

`serde_json` escapes the quote, the backslash and the controls, and writes everything else as it is.
Its reader works on bytes and puts the bytes of an escaped character in the place of its escape;
only the whole is then decoded as UTF-8. So one character is followed through both: whatever way it
was written, the reader goes on behind it with the bytes of that character on top of what it has
(`readCharsOnto_escaped`). What stands for itself is at least U+0020 and neither the quote nor the
backslash, and no byte of it can be taken for one of these.
-/
import Rendezvous.Json.Token
import Rendezvous.Proofs.Text.Utf8

set_option autoImplicit false

namespace Rendezvous.Json

open Text (Utf8.encode)

/-! ## Escapes -/

/-- Going on after an escape. -/
theorem readCharsOnto_escape {seen s r : List UInt8} {c : Char} (h : readEscape s = .ok (c, r)) :
    readCharsOnto seen (ascii '\\' :: s) =
      readCharsOnto ((String.utf8EncodeChar c).reverse ++ seen) r := by
  rw [readCharsOnto, if_neg (by decide), if_pos rfl]
  split
  · rename_i heq
    rw [h] at heq
    cases heq
  · rename_i heq
    rw [h] at heq
    obtain ⟨rfl, rfl⟩ := Prod.mk.inj (Except.ok.inj heq)
    rfl

/-- An escape by letter. -/
theorem readEscape_letter {b : UInt8} {c : Char} (h : letterEscape? b = some c) (s : List UInt8) :
    readEscape (b :: s) = .ok (c, s) := by
  rw [readEscape, h]

/-- A hex digit is read for the number that it was written for. -/
theorem hexDigit?_hexDigit {n : Nat} (h : n < 16) :
    hexDigit? (ascii (hexDigit n)) = some n := by
  revert n
  decide

/-- An escape by number. -/
theorem readEscape_control {c : Char} (h : c.toNat < 0x20) (s : List UInt8) :
    readEscape (ascii 'u' :: ascii '0' :: ascii '0' :: ascii (hexDigit (c.toNat / 16)) ::
      ascii (hexDigit (c.toNat % 16)) :: s) = .ok (c, s) := by
  have hhigh := hexDigit?_hexDigit (n := c.toNat / 16) (by omega)
  have hlow := hexDigit?_hexDigit (n := c.toNat % 16) (by omega)
  have hzero : hexDigit? (ascii '0') = some 0 := by decide
  have hvalue : ((0 * 16 + 0) * 16 + c.toNat / 16) * 16 + c.toNat % 16 = c.toNat := by omega
  have hhex : readHex (ascii '0' :: ascii '0' :: ascii (hexDigit (c.toNat / 16)) ::
      ascii (hexDigit (c.toNat % 16)) :: s) = .ok (c.toNat, s) := by
    simp only [readHex, hexValue?, hzero, hhigh, hlow, hvalue]
  have hletter : letterEscape? (ascii 'u') = none := by decide
  simp only [readEscape, hletter, if_true, readUnicodeEscape, hhex]
  rw [if_neg (by omega), if_neg (by omega), Char.ofNat_toNat]

/-! ## Characters that stand for themselves -/

/-- Bytes that the reader takes as they are. -/
theorem readCharsOnto_bytes {bs : List UInt8} (hbs : ∀ b ∈ bs,
      b ≠ ascii '"' ∧ b ≠ ascii '\\' ∧ ¬ b < 0x20) (seen s : List UInt8) :
    readCharsOnto seen (bs ++ s) = readCharsOnto (bs.reverse ++ seen) s := by
  induction bs generalizing seen with
  | nil => rfl
  | cons b bs ih =>
    obtain ⟨hquote, hslash, hcontrol⟩ := hbs b (List.mem_cons_self ..)
    rw [List.cons_append, readCharsOnto, if_neg hquote, if_neg hslash, if_neg hcontrol,
      ih fun b' hb' => hbs b' (List.mem_cons_of_mem b hb')]
    simp only [List.reverse_cons, List.append_assoc, List.singleton_append]

theorem toNat_ascii {c : Char} (h : c.toNat < 0x80) : (ascii c).toNat = c.toNat :=
  UInt8.toNat_ofNat_of_lt' (Nat.lt_trans h (by decide))

/-- The bytes of a character that needs no escape. Those of a character beyond ASCII are all at
least 0x80, so none of them is a quote, a backslash or a control. -/
theorem plain_of_mem_encodeChar {c : Char} (hquote : c ≠ '"') (hslash : c ≠ '\\')
    (hcontrol : ¬ c.toNat < 0x20) {b : UInt8} (hb : b ∈ String.utf8EncodeChar c) :
    b ≠ ascii '"' ∧ b ≠ ascii '\\' ∧ ¬ b < 0x20 := by
  by_cases hc : c.toNat < 0x80
  · rw [Text.Utf8.encodeChar_of_lt hc] at hb
    rw [List.mem_singleton.mp hb]
    have hb : (ascii c).toNat = c.toNat := toNat_ascii hc
    -- an ASCII character is its own byte, so the byte is excluded as the character is
    refine ⟨fun h => hquote ?_, fun h => hslash ?_, fun h => hcontrol ?_⟩
    · exact Char.toNat_inj.mp (hb.symm.trans (congrArg UInt8.toNat h))
    · exact Char.toNat_inj.mp (hb.symm.trans (congrArg UInt8.toNat h))
    · exact hb ▸ UInt8.lt_iff_toNat_lt.mp h
  · -- every byte of another character is at least 0x80, and all three are below
    have hle := Text.Utf8.le_of_mem_encodeChar (Nat.le_of_not_lt hc) hb
    refine ⟨?_, ?_, fun h => ?_⟩
    · rintro rfl
      exact absurd hle (by decide)
    · rintro rfl
      exact absurd hle (by decide)
    · have hlt : b.toNat < 0x20 := UInt8.lt_iff_toNat_lt.mp h
      omega

/-! ## Strings -/

/-- **One character**, however it was written, is read as itself. The cases are those of the writer:
an escape by letter, one by number, and the character itself. -/
theorem readCharsOnto_escaped (c : Char) (seen s : List UInt8) :
    readCharsOnto seen (Utf8.encode (escaped c) ++ s) =
      readCharsOnto ((String.utf8EncodeChar c).reverse ++ seen) s := by
  -- an escape by letter is the backslash and one more byte
  have hletter {d : Char} (hd : Utf8.encode (escaped c) = [ascii '\\', ascii d])
      (h : letterEscape? (ascii d) = some c) :
      readCharsOnto seen (Utf8.encode (escaped c) ++ s) =
        readCharsOnto ((String.utf8EncodeChar c).reverse ++ seen) s := by
    rw [hd]
    exact readCharsOnto_escape (readEscape_letter h s)
  -- the seven characters that have a letter
  by_cases hquote : c = '"'
  · subst hquote
    exact hletter (d := '"') (by decide) (by decide)
  by_cases hslash : c = '\\'
  · subst hslash
    exact hletter (d := '\\') (by decide) (by decide)
  by_cases h1 : c = '\x08'
  · subst h1
    exact hletter (d := 'b') (by decide) (by decide)
  by_cases h2 : c = '\x0C'
  · subst h2
    exact hletter (d := 'f') (by decide) (by decide)
  by_cases h3 : c = '\n'
  · subst h3
    exact hletter (d := 'n') (by decide) (by decide)
  by_cases h4 : c = '\r'
  · subst h4
    exact hletter (d := 'r') (by decide) (by decide)
  by_cases h5 : c = '\t'
  · subst h5
    exact hletter (d := 't') (by decide) (by decide)
  -- the other control characters go by number, and the rest stands for itself
  by_cases hcontrol : c.toNat < 0x20
  · have hdigit {n : Nat} (hn : n < 16) :
        String.utf8EncodeChar (hexDigit n) = [ascii (hexDigit n)] := by
      revert n
      decide
    have hescaped : Utf8.encode (escaped c) = ascii '\\' :: ascii 'u' :: ascii '0' :: ascii '0' ::
        ascii (hexDigit (c.toNat / 16)) :: [ascii (hexDigit (c.toNat % 16))] := by
      rw [escaped, if_neg hquote, if_neg hslash, if_neg h1, if_neg h2, if_neg h3, if_neg h4,
        if_neg h5, if_pos hcontrol]
      simp only [Text.Utf8.encode_cons, Text.Utf8.encode_nil, hdigit (n := c.toNat / 16) (by omega),
        hdigit (n := c.toNat % 16) (by omega)]
      rfl
    rw [hescaped]
    exact readCharsOnto_escape (readEscape_control hcontrol s)
  · have hescaped : Utf8.encode (escaped c) = String.utf8EncodeChar c := by
      rw [escaped, if_neg hquote, if_neg hslash, if_neg h1, if_neg h2, if_neg h3, if_neg h4,
        if_neg h5, if_neg hcontrol, Text.Utf8.encode_cons, Text.Utf8.encode_nil, List.append_nil]
    rw [hescaped]
    exact readCharsOnto_bytes (fun b hb => plain_of_mem_encodeChar hquote hslash hcontrol hb) seen s

theorem readCharsOnto_quoted (cs : List Char) (seen s : List UInt8) :
    readCharsOnto seen (Utf8.encode (cs.flatMap escaped) ++ ascii '"' :: s) =
      .ok (seen.reverse ++ Utf8.encode cs, s) := by
  induction cs generalizing seen with
  | nil =>
    rw [List.flatMap_nil, Text.Utf8.encode_nil, List.nil_append, readCharsOnto, if_pos rfl,
      List.append_nil]
  | cons c cs ih =>
    rw [List.flatMap_cons, Text.Utf8.encode_append, List.append_assoc, readCharsOnto_escaped, ih,
      Text.Utf8.encode_cons, List.reverse_append, List.reverse_reverse, List.append_assoc]

/-- **A string that was written is read**, up to its closing quote. -/
theorem readString_quoted (text : String) (s : List UInt8) :
    readString (Utf8.encode (text.toList.flatMap escaped) ++ ascii '"' :: s) = .ok (text, s) := by
  unfold readString
  rw [readCharsOnto_quoted, List.reverse_nil, List.nil_append]
  dsimp only
  rw [Text.Utf8.decode_encode]
  dsimp only
  rw [String.ofList_toList]

end Rendezvous.Json
