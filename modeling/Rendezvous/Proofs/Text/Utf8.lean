/-
UTF-8 text is decoded to the characters it was encoded from.

`serde_json` works on the bytes of a text and decodes a string at its end. A character is encoded in
one to four bytes by its size, and `head` looks at the first byte to learn how many follow and
between which bounds the second one has to be. The bounds exist to refuse overlong forms, surrogates
and what is beyond the last code point, so what has to be shown is that a character that is none of
these stays within them: `secondRange_ofNat` turns the table into arithmetic, and the four sizes are
then linear.
-/
import Rendezvous.Text.Utf8

set_option autoImplicit false

namespace Rendezvous.Text.Utf8

/-! ## One character -/

/-- What keeps a second byte within its bounds, by the number of the first one. Four lead bytes have
bounds of their own: they exclude overlong forms, surrogates and numbers past the last character. -/
theorem secondRange_bounds {k b : Nat} (hk : k < 256) (hlow : 0x80 ≤ b) (hhigh : b ≤ 0xBF)
    (he0 : k = 0xE0 → 0xA0 ≤ b) (hed : k = 0xED → b ≤ 0x9F) (hf0 : k = 0xF0 → 0x90 ≤ b)
    (hf4 : k = 0xF4 → b ≤ 0x8F) :
    (secondRange (UInt8.ofNat k)).1 ≤ b ∧ b ≤ (secondRange (UInt8.ofNat k)).2 := by
  -- the lead byte is compared as a byte, and the bounds are given for numbers
  have hbeq (m : Nat) (hm : m < 256) (h : (UInt8.ofNat k == UInt8.ofNat m) = true) : k = m := by
    have heq := congrArg UInt8.toNat (eq_of_beq h)
    rwa [UInt8.toNat_ofNat_of_lt' hk, UInt8.toNat_ofNat_of_lt' hm] at heq
  unfold secondRange
  split
  · rename_i h
    exact ⟨he0 (hbeq 0xE0 (by decide) h), hhigh⟩
  split
  · rename_i h
    exact ⟨hlow, hed (hbeq 0xED (by decide) h)⟩
  split
  · rename_i h
    exact ⟨hf0 (hbeq 0xF0 (by decide) h), hhigh⟩
  split
  · rename_i h
    exact ⟨hlow, hf4 (hbeq 0xF4 (by decide) h)⟩
  · exact ⟨hlow, hhigh⟩

/-- The role of a first byte, by its number. -/
theorem lead_ofNat {k : Nat} (hk : k < 256) :
    lead (UInt8.ofNat k) =
      if k < 0x80 then .single
      else if k < 0xC2 then .invalid
      else if k < 0xE0 then .more 1 (k - 0xC0)
      else if k < 0xF0 then .more 2 (k - 0xE0)
      else if k < 0xF5 then .more 3 (k - 0xF0)
      else .invalid := by
  unfold lead
  rw [UInt8.toNat_ofNat_of_lt' hk]

theorem continuation_zero {range : Nat × Nat} {payload n : Nat} {rest : List UInt8}
    (h : payload = n) : continuation range 0 payload rest = .ok (n, rest) := by
  rw [continuation, h]

/-- One continuation byte. -/
theorem continuation_cons {range : Nat × Nat} {count payload k : Nat} {rest : List UInt8}
    {r : Nat × List UInt8} (hk : k < 256) (hrange : range.1 ≤ k ∧ k ≤ range.2)
    (h : continuation (0x80, 0xBF) count (payload * 64 + (k - 0x80)) rest = .ok r) :
    continuation range (count + 1) payload (UInt8.ofNat k :: rest) = .ok r := by
  unfold continuation
  rw [UInt8.toNat_ofNat_of_lt' hk, if_pos hrange, h]

/-- A first byte with continuation bytes behind it. -/
theorem head_cons_of_lead {k count payload n : Nat} {bs rest : List UInt8}
    (hlead : lead (UInt8.ofNat k) = .more count payload)
    (hcont : continuation (secondRange (UInt8.ofNat k)) count payload bs = .ok (n, rest)) :
    head (UInt8.ofNat k :: bs) = .char (Char.ofNat n) rest := by
  unfold head
  simp only [hlead, hcont]

/-- **A character that was encoded is decoded**, in each of the four sizes. A character is never a
surrogate and never past the last one, which is what the bounds of the second byte ask for. -/
theorem head_encodeChar (c : Char) (rest : List UInt8) :
    head (String.utf8EncodeChar c ++ rest) = .char c rest := by
  have hvalid : c.toNat < 0xD800 ∨ 0xDFFF < c.toNat ∧ c.toNat < 0x110000 := c.valid
  have hofNat : Char.ofNat c.toNat = c := Char.ofNat_toNat c
  unfold String.utf8EncodeChar
  rw [show c.val.toNat = c.toNat from rfl]
  generalize c.toNat = n at hvalid hofNat
  subst hofNat
  dsimp only
  -- the four sizes, as the writer tells them apart
  by_cases h1 : n ≤ 0x7F
  · have hk : n < 256 := by omega
    have hlead : lead (UInt8.ofNat n) = .single := by rw [lead_ofNat hk, if_pos (by omega)]
    rw [if_pos h1, List.singleton_append]
    unfold head
    simp only [hlead, UInt8.toNat_ofNat_of_lt' hk]
  rw [if_neg h1]
  by_cases h2 : n ≤ 0x7FF
  · rw [if_pos h2, List.cons_append, List.singleton_append]
    have hlead : lead (UInt8.ofNat (n / 64 % 0x20 + 0xC0)) = .more 1 (n / 64 % 0x20) := by
      rw [lead_ofNat (by omega), if_neg (by omega), if_neg (by omega), if_pos (by omega),
        Nat.add_sub_cancel]
    refine head_cons_of_lead hlead ?_
    refine continuation_cons (by omega) (secondRange_bounds (by omega) (by omega) (by omega)
      (by omega) (by omega) (by omega) (by omega)) ?_
    exact continuation_zero (by omega)
  rw [if_neg h2]
  by_cases h3 : n ≤ 0xFFFF
  · rw [if_pos h3, List.cons_append, List.cons_append, List.singleton_append]
    have hlead : lead (UInt8.ofNat (n / 4096 % 0x10 + 0xE0)) = .more 2 (n / 4096 % 0x10) := by
      rw [lead_ofNat (by omega), if_neg (by omega), if_neg (by omega), if_neg (by omega),
        if_pos (by omega), Nat.add_sub_cancel]
    refine head_cons_of_lead hlead ?_
    refine continuation_cons (by omega) (secondRange_bounds (by omega) (by omega) (by omega)
      (by omega) (by omega) (by omega) (by omega)) ?_
    refine continuation_cons (by omega) ⟨by omega, by omega⟩ ?_
    exact continuation_zero (by omega)
  · rw [if_neg h3, List.cons_append, List.cons_append, List.cons_append, List.singleton_append]
    have hlead : lead (UInt8.ofNat (n / 262144 % 0x08 + 0xF0)) = .more 3 (n / 262144 % 0x08) := by
      rw [lead_ofNat (by omega), if_neg (by omega), if_neg (by omega), if_neg (by omega),
        if_neg (by omega), if_pos (by omega), Nat.add_sub_cancel]
    refine head_cons_of_lead hlead ?_
    refine continuation_cons (by omega) (secondRange_bounds (by omega) (by omega) (by omega)
      (by omega) (by omega) (by omega) (by omega)) ?_
    refine continuation_cons (by omega) ⟨by omega, by omega⟩ ?_
    refine continuation_cons (by omega) ⟨by omega, by omega⟩ ?_
    exact continuation_zero (by omega)

/-! ## Texts -/

@[simp]
theorem encode_nil : encode [] = [] := rfl

theorem encode_cons (c : Char) (cs : List Char) :
    encode (c :: cs) = String.utf8EncodeChar c ++ encode cs := rfl

theorem encode_append (cs ds : List Char) : encode (cs ++ ds) = encode cs ++ encode ds :=
  List.flatMap_append

/-- An ASCII character is one byte. -/
theorem encodeChar_of_lt {c : Char} (h : c.toNat < 0x80) :
    String.utf8EncodeChar c = [c.toNat.toUInt8] := by
  have hle : c.val.toNat ≤ 0x7F := Nat.le_of_lt_succ h
  unfold String.utf8EncodeChar
  rw [if_pos hle]
  rfl

/-- Every byte of a character that is not ASCII is out of the range of ASCII. So a search for an
ASCII byte never stops inside a character. -/
theorem le_of_mem_encodeChar {c : Char} (h : 0x80 ≤ c.toNat) {b : UInt8}
    (hb : b ∈ String.utf8EncodeChar c) : 0x80 ≤ b.toNat := by
  unfold String.utf8EncodeChar at hb
  rw [show c.val.toNat = c.toNat from rfl] at hb
  generalize c.toNat = n at h hb
  have hofNat {k : Nat} (hk : k < 256) (hle : 0x80 ≤ k) : 0x80 ≤ (UInt8.ofNat k).toNat := by
    rw [UInt8.toNat_ofNat_of_lt' hk]
    exact hle
  dsimp only at hb
  -- two, three and four bytes are left, and each byte has its marker bits
  rw [if_neg (by omega)] at hb
  split at hb
  · simp only [List.mem_cons, List.not_mem_nil, or_false] at hb
    rcases hb with rfl | rfl
    · exact hofNat (by omega) (by omega)
    · exact hofNat (by omega) (by omega)
  split at hb
  · simp only [List.mem_cons, List.not_mem_nil, or_false] at hb
    rcases hb with rfl | rfl | rfl
    · exact hofNat (by omega) (by omega)
    · exact hofNat (by omega) (by omega)
    · exact hofNat (by omega) (by omega)
  · simp only [List.mem_cons, List.not_mem_nil, or_false] at hb
    rcases hb with rfl | rfl | rfl | rfl
    · exact hofNat (by omega) (by omega)
    · exact hofNat (by omega) (by omega)
    · exact hofNat (by omega) (by omega)
    · exact hofNat (by omega) (by omega)

/-- **A text that was encoded is decoded**, by induction on its characters. What has been decoded is
carried along in reverse, so it is general in the induction. -/
theorem decodeOnto_encode (seen cs : List Char) :
    decodeOnto seen (encode cs) = .ok (seen.reverse ++ cs) := by
  induction cs generalizing seen with
  | nil =>
    unfold decodeOnto
    simp [head]
  | cons c cs ih =>
    -- the first character comes off whole, whatever is encoded behind it
    have hhead : head (encode (c :: cs)) = .char c (encode cs) := head_encodeChar c (encode cs)
    unfold decodeOnto
    split
    · rename_i h
      rw [hhead] at h
      cases h
    · rename_i c' rest h
      rw [hhead] at h
      obtain ⟨rfl, rfl⟩ := Head.char.inj h
      rw [ih, List.reverse_cons, List.append_assoc, List.singleton_append]
    · rename_i h
      rw [hhead] at h
      cases h

theorem decode_encode (cs : List Char) : decode (encode cs) = .ok cs :=
  decodeOnto_encode [] cs

theorem encode_injective {cs ds : List Char} (h : encode cs = encode ds) : cs = ds := by
  have hdecode := decode_encode cs
  rw [h, decode_encode] at hdecode
  exact (Except.ok.inj hdecode).symm

/-- A part of a text takes no more bytes than the whole, and as many only if it is the whole. With
it a part of an identifier is told apart from the identifier by counting. -/
theorem eq_or_length_encode_lt {cs ds : List Char} (h : cs.Sublist ds) :
    cs = ds ∨ (encode cs).length < (encode ds).length := by
  induction h with
  | slnil => exact .inl rfl
  | cons d _ ih =>
    right
    have hpos := List.length_pos_iff.mpr (@String.utf8EncodeChar_ne_nil d)
    rw [encode_cons, List.length_append]
    rcases ih with rfl | ih
    · omega
    · omega
  | cons_cons d _ ih =>
    rcases ih with rfl | ih
    · exact .inl rfl
    · right
      rw [encode_cons, encode_cons, List.length_append, List.length_append]
      omega

end Rendezvous.Text.Utf8
