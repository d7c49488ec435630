/-
A whole number that was written is read back.

`serde_json` takes digits as long as the number fits into a `u64`, and turns to floats beyond that.
A number that fits as a whole fits after each of its digits, so none is left over, and then the next
byte decides: a value is followed by the end of the text, a comma or a closing bracket, none of
which could go on with a number (`Ends`). The first digit is looked at on its own, since a number
other than zero may not begin with a zero; `toDigits_eq_cons` tells that none does.
-/
import Mathlib.Data.Nat.Init
import Rendezvous.Json.Number
import Rendezvous.Proofs.Json.Quoted

set_option autoImplicit false

namespace Rendezvous.Json

open Text (Utf8.encode)

/-- What may follow a value in a text that was written: nothing, a comma, or a closing bracket.
There are no blanks, as the writer makes none. -/
def Ends (s : List UInt8) : Prop :=
  s = [] ∨ ∃ b r, s = b :: r ∧ (b = ascii ',' ∨ b = ascii ']' ∨ b = ascii '\x7D')

theorem ends_nil : Ends [] := .inl rfl

theorem ends_comma (s : List UInt8) : Ends (ascii ',' :: s) := .inr ⟨_, s, rfl, .inl rfl⟩

theorem ends_bracket (s : List UInt8) : Ends (ascii ']' :: s) :=
  .inr ⟨_, s, rfl, .inr (.inl rfl)⟩

theorem ends_brace (s : List UInt8) : Ends (ascii '\x7D' :: s) :=
  .inr ⟨_, s, rfl, .inr (.inr rfl)⟩

/-! ## Digits -/

theorem digit?_digitChar {d : Nat} (h : d < 10) : digit? (ascii d.digitChar) = some d := by
  revert d
  decide

theorem encodeChar_digitChar {d : Nat} (h : d < 10) :
    String.utf8EncodeChar d.digitChar = [ascii d.digitChar] := by
  revert d
  decide

theorem startsWithDigit_of_ends {s : List UInt8} (h : Ends s) : startsWithDigit s = false := by
  rcases h with rfl | ⟨b, r, rfl, rfl | rfl | rfl⟩
  · rfl
  · rfl
  · rfl
  · rfl

/-- A digit is one of ten. -/
theorem exists_digitChar {c : Char} (h : c.isDigit = true) : ∃ d < 10, c = d.digitChar := by
  simp only [Char.isDigit, Bool.and_eq_true, decide_eq_true_eq] at h
  obtain ⟨hlow, hhigh⟩ := h
  have hlow : 48 ≤ c.toNat := hlow
  have hhigh : c.toNat ≤ 57 := hhigh
  have hchar : ∀ d < 10, Char.ofNat (48 + d) = d.digitChar := by decide
  refine ⟨c.toNat - 48, by omega, ?_⟩
  rw [← hchar _ (by omega), Nat.add_sub_cancel' hlow, Char.ofNat_toNat]

theorem le_ofDigitChars (cs : List Char) (m : Nat) : m ≤ Nat.ofDigitChars 10 cs m := by
  rw [Nat.ofDigitChars_eq_ofDigitChars_zero]
  have hpow : 1 ≤ 10 ^ cs.length := Nat.one_le_pow _ _ (by decide)
  have hmul := Nat.mul_le_mul_right m hpow
  omega

/-- Digits of a number that fits are all taken, by induction on the digits. That the whole fits
bounds every value on the way. -/
theorem takeDigits_encode {cs : List Char} (hcs : ∀ c ∈ cs, c.isDigit = true) (m count : Nat)
    {s : List UInt8} (hs : Ends s) (hfits : Nat.ofDigitChars 10 cs m ≤ maxSignificand) :
    takeDigits m count (Utf8.encode cs ++ s) =
      (Nat.ofDigitChars 10 cs m, count + cs.length, s) := by
  induction cs generalizing m count with
  | nil =>
    rw [Text.Utf8.encode_nil, List.nil_append, Nat.ofDigitChars_nil]
    rcases hs with rfl | ⟨b, r, rfl, rfl | rfl | rfl⟩
    · rfl
    · rfl
    · rfl
    · rfl
  | cons c cs ih =>
    obtain ⟨d, hd, rfl⟩ := exists_digitChar (hcs c (List.mem_cons_self ..))
    rw [Nat.ofDigitChars_cons_digitChar_of_lt_ten hd, Nat.mul_comm] at hfits ⊢
    -- the value only grows with further digits, so a prefix fits if all of it does
    have hle := Nat.le_trans (le_ofDigitChars cs (m * 10 + d)) hfits
    rw [Text.Utf8.encode_cons, encodeChar_digitChar hd, List.singleton_append, List.cons_append,
      takeDigits, digit?_digitChar hd]
    dsimp only
    rw [if_pos hle, ih (fun c' hc' => hcs c' (List.mem_cons_of_mem _ hc')) _ _ hfits,
      List.length_cons, Nat.add_assoc, Nat.add_comm 1]

/-- A number other than zero does not begin with a zero. -/
theorem toDigits_eq_cons {n : Nat} (hn : 0 < n) :
    ∃ d cs, 0 < d ∧ d < 10 ∧ Nat.toDigits 10 n = d.digitChar :: cs := by
  induction n using Nat.strongRecOn with
  | ind n ih =>
    by_cases hlt : n < 10
    · exact ⟨n, [], hn, hlt, Nat.toDigits_of_lt_base hlt⟩
    · obtain ⟨d, cs, hpos, hd, heq⟩ := ih (n / 10) (by omega) (by omega)
      refine ⟨d, cs ++ [(n % 10).digitChar], hpos, hd, ?_⟩
      rw [Nat.toDigits_of_base_le (by decide) (Nat.le_of_not_lt hlt), heq, List.cons_append]

/-! ## Numbers -/

theorem finishWhole_of_ends {negative : Bool} {n : Nat} {s : List UInt8} (h : Ends s) :
    finishWhole negative n s = .ok (finishWhole.whole negative n, s) := by
  rcases h with rfl | ⟨b, r, rfl, rfl | rfl | rfl⟩
  · rfl
  · rfl
  · rfl
  · rfl

/-- **The digits of a number that fits into 64 bits** are read as that number. The reader takes the
first digit apart to rule out leading zeros, which the decimal digits of a number do not have. -/
theorem readUnsigned_toDigits {n : Nat} (hn : n ≤ maxSignificand) (negative : Bool)
    {s : List UInt8} (hs : Ends s) :
    readUnsigned negative (Utf8.encode (Nat.toDigits 10 n) ++ s) =
      .ok (finishWhole.whole negative n, s) := by
  have hstart := startsWithDigit_of_ends hs
  -- a zero stands alone; behind any other first digit the rest is taken
  rcases Nat.eq_zero_or_pos n with rfl | hpos
  · have hzero : Utf8.encode (Nat.toDigits 10 0) = [ascii '0'] := by
      rw [Nat.toDigits_zero]
      decide
    have hdigit : digit? (ascii '0') = some 0 := by decide
    rw [hzero, List.singleton_append, readUnsigned, hdigit]
    dsimp only
    rw [if_neg (by rw [hstart]; exact Bool.false_ne_true), finishWhole_of_ends hs]
    rfl
  · obtain ⟨d, cs, hd, hlt, heq⟩ := toDigits_eq_cons hpos
    have hvalue : Nat.ofDigitChars 10 cs d = n := by
      have h := Nat.ofDigitChars_ten_toDigits (n := n)
      rwa [heq, Nat.ofDigitChars_cons_digitChar_of_lt_ten hlt, Nat.mul_zero, Nat.zero_add] at h
    have hcs : ∀ c ∈ cs, c.isDigit = true := by
      intro c hc
      have hmem : c ∈ Nat.toDigits 10 n := by
        rw [heq]
        exact List.mem_cons_of_mem _ hc
      exact Nat.isDigit_of_mem_toDigits (by decide) (by decide) hmem
    have htake := takeDigits_encode hcs d 0 hs (by rw [hvalue]; exact hn)
    rw [hvalue] at htake
    rw [heq, Text.Utf8.encode_cons, encodeChar_digitChar hlt, List.singleton_append,
      List.cons_append, readUnsigned, digit?_digitChar hlt]
    split
    · rename_i h
      cases h
    · rename_i h
      exact absurd (Option.some.inj h) (Nat.ne_of_gt hd)
    · rename_i d' _ h
      obtain rfl := Option.some.inj h
      rw [htake]
      dsimp only
      rw [if_neg (by rw [hstart]; exact Bool.false_ne_true), finishWhole_of_ends hs]

/-- **A whole number of 64 bits that was written is read**, with a sign or without one. It begins
with the sign or a digit, by which the reader of a value recognises a number. -/
theorem readNumber_intDigits {i : Int} (hlow : -9223372036854775808 ≤ i)
    (hhigh : i ≤ 18446744073709551615) {s : List UInt8} (hs : Ends s) :
    ∃ b r, Utf8.encode (intDigits i) = b :: r ∧ (b = ascii '-' ∨ (digit? b).isSome = true) ∧
      readNumber b (r ++ s) = .ok (.whole i, s) := by
  -- a negative number is written as its successor form, with the sign in front
  rcases i with n | n
  · have hn : n ≤ maxSignificand := by
      unfold maxSignificand
      have hcast : (n : Int) ≤ 18446744073709551615 := hhigh
      omega
    have hread := readUnsigned_toDigits hn false hs
    obtain ⟨d, cs, hd, heq⟩ : ∃ d cs, d < 10 ∧ Nat.toDigits 10 n = d.digitChar :: cs := by
      rcases Nat.eq_zero_or_pos n with rfl | hpos
      · exact ⟨0, [], by decide, Nat.toDigits_zero 10⟩
      · obtain ⟨d, cs, _, hd, heq⟩ := toDigits_eq_cons hpos
        exact ⟨d, cs, hd, heq⟩
    have hencode : Utf8.encode (intDigits (.ofNat n)) = ascii d.digitChar :: Utf8.encode cs := by
      rw [intDigits, heq, Text.Utf8.encode_cons, encodeChar_digitChar hd, List.singleton_append]
    have hminus : ascii d.digitChar ≠ ascii '-' := by
      intro h
      have hdigit := digit?_digitChar hd
      rw [h] at hdigit
      have hnone : digit? (ascii '-') = none := by decide
      cases hnone.symm.trans hdigit
    refine ⟨_, _, hencode, .inr (by rw [digit?_digitChar hd]; rfl), ?_⟩
    rw [readNumber, if_neg hminus, ← List.cons_append, ← hencode]
    exact hread
  · have hn : n + 1 ≤ 9223372036854775808 := by omega
    have hread := readUnsigned_toDigits (n := n + 1) (by unfold maxSignificand; omega) true hs
    have hwhole : finishWhole.whole true (n + 1) = .whole (.negSucc n) := by
      rw [finishWhole.whole, if_pos rfl, if_neg (by omega)]
      rfl
    refine ⟨ascii '-', Utf8.encode (Nat.toDigits 10 (n + 1)), rfl, .inl rfl, ?_⟩
    rw [readNumber, if_pos rfl, hread, hwhole]

end Rendezvous.Json
