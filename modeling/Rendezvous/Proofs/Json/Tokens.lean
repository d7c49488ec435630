/-
What a string or a number is read as does not depend on what follows it.

The readers of strings and numbers go through the text byte by byte and do not know where a token
ends before they have got there. Here they are followed along a token as it is written: a string is
read as the characters that its parts stand for (`text?`), whatever is behind its closing quote, and
a number as one value (`Numeral.value?`), whatever keeps apart from it.

A half of a surrogate pair that stands alone has no character, so such a string is refused where it
is read, although it is skipped where it is not. A number may be refused for being too large.
-/
import Rendezvous.Json.Codec
import Rendezvous.Proofs.Json.Passing

set_option autoImplicit false

namespace Rendezvous.Json

open Text (Utf8.encode)

/-! ## Outcomes

Every reader here is compared by what it accepts. Why a text is refused depends on what follows. -/

/-- A reader of which it is known that it reads one value or nothing has refused the text, or has
read that value and left the rest. -/
theorem error_or_ok {α : Type} {x : Except Fault (α × List UInt8)} {o : Option α}
    {s : List UInt8} (h : x.toOption = o.map fun a => (a, s)) :
    (o = none ∧ ∃ why, x = .error why) ∨ ∃ a, o = some a ∧ x = .ok (a, s) := by
  rcases x with why | ⟨a, r⟩
  · exact .inl ⟨Option.map_eq_none_iff.mp h.symm, why, rfl⟩
  · obtain ⟨a', ho, heq⟩ := Option.map_eq_some_iff.mp h.symm
    obtain ⟨rfl, rfl⟩ := Prod.mk.inj heq
    exact .inr ⟨a', ho, rfl⟩

/-! ## Strings -/

/-- The character of a pair of surrogates. -/
def ofSurrogates (high low : Nat) : Char :=
  Char.ofNat ((high - 0xD800) * 0x400 + (low - 0xDC00) + 0x10000)

/-- The characters that parts of a string stand for. If a first half of a surrogate pair has been
read, the next part has to be an escape by number with the second half. -/
def charsAfter : Option Nat → List Piece → Option (List Char)
  | none, [] => some []
  | none, .plain c _ :: ps => (charsAfter none ps).map (c :: ·)
  | none, .letter b _ :: ps =>
    (letterEscape? b).bind fun c => (charsAfter none ps).map (c :: ·)
  | none, .code b₁ b₂ b₃ b₄ _ :: ps =>
    (hexValue? b₁ b₂ b₃ b₄).bind fun n =>
      if 0xDC00 ≤ n ∧ n ≤ 0xDFFF then none
      else if 0xD800 ≤ n ∧ n ≤ 0xDBFF then charsAfter (some n) ps
      else (charsAfter none ps).map (Char.ofNat n :: ·)
  | some high, .code b₁ b₂ b₃ b₄ _ :: ps =>
    (hexValue? b₁ b₂ b₃ b₄).bind fun low =>
      if 0xDC00 ≤ low ∧ low ≤ 0xDFFF then
        (charsAfter none ps).map (ofSurrogates high low :: ·)
      else none
  | some _, _ => none

/-- The string that its parts stand for; `none` if a half of a surrogate pair stands alone. -/
def text? (ps : List Piece) : Option String :=
  (charsAfter none ps).map String.ofList

/-- Going on within a string, behind the first half of a pair if there is one. The reader has two
functions for this, and the induction over the parts needs one. -/
def readCharsAfter (high : Option Nat) (seen s : List UInt8) :
    Except Fault (List UInt8 × List UInt8) :=
  match high with
  | none => readCharsOnto seen s
  | some high =>
    match readLowSurrogate high s with
    | .error e => .error e
    | .ok (c, r) => readCharsOnto ((String.utf8EncodeChar c).reverse ++ seen) r

/-- Going on after an escape, if it has a character. -/
theorem readCharsOnto_slash (seen s : List UInt8) :
    readCharsOnto seen (ascii '\\' :: s) =
      match readEscape s with
      | .error e => .error e
      | .ok (c, r) => readCharsOnto ((String.utf8EncodeChar c).reverse ++ seen) r := by
  rcases h : readEscape s with e | ⟨c, r⟩
  · rw [readCharsOnto, if_neg (by decide), if_pos rfl]
    split
    · rename_i heq
      rw [h] at heq
      rw [Except.error.inj heq]
    · rename_i heq
      cases h.symm.trans heq
  · rw [readCharsOnto_escape h]

/-- An escape by number: a low half of a surrogate pair is refused, a high half has to be followed
by a low one, and any other number is its character. -/
theorem readCharsOnto_code {b₁ b₂ b₃ b₄ : UInt8} {n : Nat} (hn : hexValue? b₁ b₂ b₃ b₄ = some n)
    (seen s : List UInt8) :
    readCharsOnto seen (ascii '\\' :: ascii 'u' :: b₁ :: b₂ :: b₃ :: b₄ :: s) =
      if 0xDC00 ≤ n ∧ n ≤ 0xDFFF then .error (.after .loneSurrogate s)
      else if 0xD800 ≤ n ∧ n ≤ 0xDBFF then readCharsAfter (some n) seen s
      else readCharsOnto ((String.utf8EncodeChar (Char.ofNat n)).reverse ++ seen) s := by
  have hletter : letterEscape? (ascii 'u') = none := by decide
  have hread : readHex (b₁ :: b₂ :: b₃ :: b₄ :: s) = .ok (n, s) := by rw [readHex, hn]
  rw [readCharsOnto_slash, readEscape, hletter]
  dsimp only
  rw [if_pos rfl, readUnicodeEscape, hread]
  dsimp only
  -- a low half alone is an error, a high half waits for its other half, and the rest are characters
  by_cases hlow : 0xDC00 ≤ n ∧ n ≤ 0xDFFF
  · rw [if_pos hlow, if_pos hlow]
  rw [if_neg hlow, if_neg hlow]
  by_cases hhigh : 0xD800 ≤ n ∧ n ≤ 0xDBFF
  · rw [if_pos hhigh, if_pos hhigh, readCharsAfter]
  · rw [if_neg hhigh, if_neg hhigh]

/-- The second half of a pair of surrogates. -/
theorem readLowSurrogate_code {b₁ b₂ b₃ b₄ : UInt8} {low : Nat}
    (hlow : hexValue? b₁ b₂ b₃ b₄ = some low) (high : Nat) (s : List UInt8) :
    readLowSurrogate high (ascii '\\' :: ascii 'u' :: b₁ :: b₂ :: b₃ :: b₄ :: s) =
      if 0xDC00 ≤ low ∧ low ≤ 0xDFFF then .ok (ofSurrogates high low, s)
      else .error (.after .loneSurrogate s) := by
  have hread : readHex (b₁ :: b₂ :: b₃ :: b₄ :: s) = .ok (low, s) := by rw [readHex, hlow]
  rw [readLowSurrogate, if_neg (by decide), if_neg (by decide), hread]
  rfl

/-- Nothing but an escape by number can be the second half of a pair. The texts that fail are those
without the two bytes that begin such an escape. -/
theorem exists_readLowSurrogate_error (high : Nat) {s : List UInt8}
    (h : ∀ r, s ≠ ascii '\\' :: ascii 'u' :: r) : ∃ e, readLowSurrogate high s = .error e := by
  rcases s with _ | ⟨b, _ | ⟨b', r⟩⟩
  · exact ⟨_, rfl⟩
  · rw [readLowSurrogate]
    split
    · exact ⟨_, rfl⟩
    · exact ⟨_, rfl⟩
  · rw [readLowSurrogate]
    -- either the backslash or the letter behind it is not the one that is asked for
    by_cases hb : b = ascii '\\'
    · rw [if_neg fun hne => hne hb]
      have hb' : b' ≠ ascii 'u' := by
        rintro rfl
        exact h r (by rw [hb])
      rw [if_pos hb']
      exact ⟨_, rfl⟩
    · rw [if_pos hb]
      exact ⟨_, rfl⟩

/-- The first byte of a character that stands for itself is no backslash. -/
theorem exists_plain_byte {c : Char} (h : c ≠ '"' ∧ c ≠ '\\' ∧ ¬ c.toNat < 0x20) :
    ∃ b bs, String.utf8EncodeChar c = b :: bs ∧ b ≠ ascii '\\' := by
  obtain ⟨hquote, hslash, hcontrol⟩ := h
  rcases heq : String.utf8EncodeChar c with _ | ⟨b, bs⟩
  · exact absurd heq (String.utf8EncodeChar_ne_nil)
  · refine ⟨b, bs, rfl, ?_⟩
    exact (plain_of_mem_encodeChar hquote hslash hcontrol (heq ▸ List.mem_cons_self ..)).2.1

/-- A character is put in front of those that follow. -/
theorem map_cons_chars (c : Char) (o : Option (List Char)) (seen s : List UInt8) :
    (o.map fun cs => (((String.utf8EncodeChar c).reverse ++ seen).reverse ++ Utf8.encode cs, s)) =
      (o.map (c :: ·)).map fun cs => (seen.reverse ++ Utf8.encode cs, s) := by
  rw [Option.map_map]
  refine congrArg (fun f => Option.map f o) (funext fun cs => ?_)
  rw [Function.comp_apply, Text.Utf8.encode_cons, List.reverse_append, List.reverse_reverse,
    List.append_assoc]

section Pieces

variable {ps : List Piece} {t s : List UInt8}
  (ih : ∀ (high : Option Nat) (seen : List UInt8), (readCharsAfter high seen t).toOption =
    (charsAfter high ps).map fun cs => (seen.reverse ++ Utf8.encode cs, s))

include ih

/-- Reading on behind a character. -/
theorem toOption_readCharsOnto_char (c : Char) (seen : List UInt8) :
    (readCharsOnto ((String.utf8EncodeChar c).reverse ++ seen) t).toOption =
      ((charsAfter none ps).map (c :: ·)).map fun cs => (seen.reverse ++ Utf8.encode cs, s) :=
  (ih none ((String.utf8EncodeChar c).reverse ++ seen)).trans
    (map_cons_chars c (charsAfter none ps) seen s)

/-- A part of a string: a plain character, an escape by letter, or an escape by number. The
induction hypothesis is about the parts behind it, with any characters already seen. -/
theorem toOption_readCharsOnto_piece (p : Piece) (seen : List UInt8) :
    (readCharsOnto seen (p.bytes ++ t)).toOption =
      (charsAfter none (p :: ps)).map fun cs => (seen.reverse ++ Utf8.encode cs, s) := by
  rcases p with ⟨c, h⟩ | ⟨b, h⟩ | ⟨b₁, b₂, b₃, b₄, h⟩
  · rw [Piece.bytes, readCharsOnto_bytes fun b hb => plain_of_mem_encodeChar h.1 h.2.1 h.2.2 hb]
    exact toOption_readCharsOnto_char ih c seen
  · obtain ⟨c, hc⟩ := Option.isSome_iff_exists.mp h
    rw [charsAfter, hc, Option.bind_some]
    exact (congrArg Except.toOption (readCharsOnto_escape (readEscape_letter hc _))).trans
      (toOption_readCharsOnto_char ih c seen)
  · obtain ⟨n, hn⟩ := Option.isSome_iff_exists.mp h
    rw [charsAfter, hn, Option.bind_some]
    refine (congrArg Except.toOption (readCharsOnto_code hn seen _)).trans ?_
    -- a second half cannot stand alone, and a first half waits for the next part
    by_cases hlow : 0xDC00 ≤ n ∧ n ≤ 0xDFFF
    · rw [if_pos hlow, if_pos hlow]
      rfl
    rw [if_neg hlow, if_neg hlow]
    by_cases hhigh : 0xD800 ≤ n ∧ n ≤ 0xDBFF
    · rw [if_pos hhigh, if_pos hhigh]
      exact ih (some n) seen
    · rw [if_neg hhigh, if_neg hhigh]
      exact toOption_readCharsOnto_char ih _ seen

/-- A part of a string behind the first half of a pair. Only an escape with the other half goes on;
everything else ends the reading in an error. -/
theorem toOption_readCharsAfter_half (high : Nat) (p : Piece) (seen : List UInt8) :
    (readCharsAfter (some high) seen (p.bytes ++ t)).toOption =
      (charsAfter (some high) (p :: ps)).map fun cs => (seen.reverse ++ Utf8.encode cs, s) := by
  rw [readCharsAfter]
  rcases p with ⟨c, h⟩ | ⟨b, h⟩ | ⟨b₁, b₂, b₃, b₄, h⟩
  · -- only an escape with four digits can be the other half; a plain character and a short escape
    -- fail
    obtain ⟨b, bs, hbytes, hb⟩ := exists_plain_byte h
    obtain ⟨e, he⟩ := exists_readLowSurrogate_error high
      (s := Piece.bytes (.plain c h) ++ t) fun r hr => by
        rw [Piece.bytes, hbytes] at hr
        exact hb (List.cons.inj hr).1
    rw [he]
    rfl
  · obtain ⟨e, he⟩ := exists_readLowSurrogate_error high
      (s := Piece.bytes (.letter b h) ++ t) fun r hr => by
        obtain rfl := (List.cons.inj (List.cons.inj hr).2).1
        exact absurd h (by decide)
    rw [he]
    rfl
  · obtain ⟨low, hlow⟩ := Option.isSome_iff_exists.mp h
    -- an escape with four digits is the other half exactly when it lies in the low range
    have hpair : readLowSurrogate high (Piece.bytes (.code b₁ b₂ b₃ b₄ h) ++ t) =
        if 0xDC00 ≤ low ∧ low ≤ 0xDFFF then .ok (ofSurrogates high low, t)
        else .error (.after .loneSurrogate t) := readLowSurrogate_code hlow high t
    rw [charsAfter, hlow, Option.bind_some, hpair]
    by_cases hrange : 0xDC00 ≤ low ∧ low ≤ 0xDFFF
    · rw [if_pos hrange, if_pos hrange]
      exact toOption_readCharsOnto_char ih _ seen
    · rw [if_neg hrange, if_neg hrange]
      rfl

end Pieces

/-- **The parts of a string are read** up to the closing quote, or refused. The induction is on the
parts, for all that may have been read and with or without a half pending. -/
theorem toOption_readCharsAfter (high : Option Nat) (ps : List Piece) (seen s : List UInt8) :
    (readCharsAfter high seen (pieceBytes ps ++ ascii '"' :: s)).toOption =
      (charsAfter high ps).map fun cs => (seen.reverse ++ Utf8.encode cs, s) := by
  induction ps generalizing high seen with
  | nil =>
    rw [pieceBytes, List.flatMap_nil, List.nil_append]
    cases high with
    | none =>
      rw [readCharsAfter, readCharsOnto, if_pos rfl, charsAfter, Option.map_some,
        Text.Utf8.encode_nil, List.append_nil]
      rfl
    -- the string ends with half a pair, which both sides refuse
    | some high => rfl
  | cons p ps ih =>
    have hcons : pieceBytes (p :: ps) ++ ascii '"' :: s =
        p.bytes ++ (pieceBytes ps ++ ascii '"' :: s) := by
      rw [pieceBytes, List.flatMap_cons, List.append_assoc, pieceBytes]
    rw [hcons]
    cases high with
    | none => exact toOption_readCharsOnto_piece ih p seen
    | some high => exact toOption_readCharsAfter_half ih high p seen

/-- **A string is read as the one that its parts stand for**, whatever follows it. The parts are a
grammar of JSON strings, so every valid literal is covered and not only those the encoder writes. -/
theorem toOption_readString (ps : List Piece) (s : List UInt8) :
    (readString (pieceBytes ps ++ ascii '"' :: s)).toOption =
      (text? ps).map fun text => (text, s) := by
  have hchars := toOption_readCharsAfter none ps [] s
  rw [readCharsAfter] at hchars
  rw [text?, readString]
  rcases hread : readCharsOnto [] (pieceBytes ps ++ ascii '"' :: s) with e | ⟨bytes, r⟩
  · rw [hread] at hchars
    rw [Option.map_eq_none_iff.mp hchars.symm]
    rfl
  · rw [hread] at hchars
    obtain ⟨cs, hcs, heq⟩ := Option.map_eq_some_iff.mp hchars.symm
    obtain ⟨rfl, rfl⟩ := Prod.mk.inj heq
    rw [hcs, List.reverse_nil, List.nil_append]
    dsimp only
    rw [Text.Utf8.decode_encode]
    rfl

/-! ## Numbers

Numbers are read digit by digit, with a value that saturates. Which value comes out is not computed
here; that it is one value whatever follows is all that is needed. -/

theorem startsWithDigit_digitBytes (d : Fin 10) (ds : List (Fin 10)) (s : List UInt8) :
    startsWithDigit (digitBytes (d :: ds) ++ s) = true := by
  show (digit? (digitByte d)).isSome = true
  rw [digit?_digitByte]
  rfl

/-- Where digits stop being taken does not depend on what follows them. They stop at the first one
with which the number would no longer fit. -/
theorem takeDigits_digitBytes (ds : List (Fin 10)) (n count : Nat) :
    ∃ m k ds', ∀ s, startsWithDigit s = false →
      takeDigits n count (digitBytes ds ++ s) = (m, k, digitBytes ds' ++ s) := by
  induction ds generalizing n count with
  | nil =>
    refine ⟨n, count, [], fun s hs => ?_⟩
    cases s with
    | nil => rfl
    | cons b s =>
      have hb : digit? b = none := Option.isNone_iff_eq_none.mp (Option.isSome_eq_false_iff.mp hs)
      show takeDigits n count (b :: s) = (n, count, b :: s)
      rw [takeDigits, hb]
  | cons d ds ih =>
    by_cases hfits : n * 10 + d.val ≤ maxSignificand
    · obtain ⟨m, k, ds', htake⟩ := ih (n * 10 + d.val) (count + 1)
      refine ⟨m, k, ds', fun s hs => ?_⟩
      show takeDigits n count (digitByte d :: (digitBytes ds ++ s)) = _
      rw [takeDigits, digit?_digitByte]
      dsimp only
      rw [if_pos hfits, htake s hs]
    · -- this digit would be one too many, and stays with those behind it
      refine ⟨n, count, d :: ds, fun s _ => ?_⟩
      show takeDigits n count (digitByte d :: (digitBytes ds ++ s)) = _
      rw [takeDigits, digit?_digitByte]
      dsimp only
      rw [if_neg hfits]
      rfl

/-- The digits of an exponent: all of them are taken, or some are too many. Which of the two it is
depends on the digits alone, not on what follows them. -/
theorem takeExponent_digitBytes (ds : List (Fin 10)) (n : Nat) :
    ∃ o ds', (o.isSome = true → ds' = []) ∧ ∀ s, startsWithDigit s = false →
      takeExponent n (digitBytes ds ++ s) = (o, digitBytes ds' ++ s) := by
  induction ds generalizing n with
  | nil =>
    refine ⟨some n, [], fun _ => rfl, fun s hs => ?_⟩
    cases s with
    | nil => rfl
    | cons b s =>
      have hb : digit? b = none := Option.isNone_iff_eq_none.mp (Option.isSome_eq_false_iff.mp hs)
      show takeExponent n (b :: s) = (some n, b :: s)
      rw [takeExponent, hb]
  | cons d ds ih =>
    by_cases hfits : n * 10 + d.val ≤ maxExponent
    · obtain ⟨o, ds', ho, htake⟩ := ih (n * 10 + d.val)
      refine ⟨o, ds', ho, fun s hs => ?_⟩
      show takeExponent n (digitByte d :: (digitBytes ds ++ s)) = _
      rw [takeExponent, digit?_digitByte]
      dsimp only
      rw [if_pos hfits, htake s hs]
    · -- the digit no longer fits, and it and the digits behind it are left for the caller to pass
      -- over
      refine ⟨none, ds, fun h => absurd h Bool.false_ne_true, fun s _ => ?_⟩
      show takeExponent n (digitByte d :: (digitBytes ds ++ s)) = _
      rw [takeExponent, digit?_digitByte]
      dsimp only
      rw [if_neg hfits]

/-- A reader settles a text: it reads all of it, as one value or not at all, whatever follows. -/
def Settles (read : List UInt8 → Except Fault (Number × List UInt8)) (x : List UInt8) : Prop :=
  ∃ out : Option Number, ∀ s, Apart s → (read (x ++ s)).toOption = out.map fun n => (n, s)

theorem settles_scaledNumber (negative : Bool) (n : Nat) (e : Int) :
    Settles (scaledNumber negative n e) [] := by
  rcases h : Decimal.scaled n e with _ | f
  · refine ⟨none, fun s _ => ?_⟩
    rw [List.nil_append, scaledNumber, h]
    rfl
  · refine ⟨some (.float (Decimal.signed negative f)), fun s _ => ?_⟩
    rw [List.nil_append, scaledNumber, h]
    rfl

/-- What comes of the digits of an exponent. One that is too large makes the number zero, or is
refused. -/
def finishExponent (negative : Bool) (n : Nat) (start : Int) (minus : Bool) :
    Option Nat × List UInt8 → Except Fault (Number × List UInt8)
  | (some m, s) => scaledNumber negative n (if minus then start - m else start + m) s
  | (none, s) =>
    if n ≠ 0 ∧ ¬ minus then .error (.after .numberOutOfRange s)
    else .ok (.float (Decimal.signed negative 0), (skipDigits 0 s).2)

theorem readExponent_bytes (negative : Bool) (n : Nat) (start : Int) (e : Exponent)
    (s : List UInt8) :
    readExponent negative n start (signBytes e.sign ++ digitBytes (e.first :: e.rest) ++ s) =
      finishExponent negative n start (e.sign.getD false)
        (takeExponent e.first (digitBytes e.rest ++ s)) := by
  have hfirst := digit?_digitByte e.first
  rw [List.append_assoc]
  show readExponent negative n start
    (signBytes e.sign ++ digitByte e.first :: (digitBytes e.rest ++ s)) = _
  rw [readExponent, exponentSign_signBytes]
  dsimp only
  generalize digit? (digitByte e.first) = first at hfirst ⊢
  subst hfirst
  rfl

theorem settles_readExponent (negative : Bool) (n : Nat) (start : Int) (e : Exponent) :
    Settles (readExponent negative n start)
      (signBytes e.sign ++ digitBytes (e.first :: e.rest)) := by
  obtain ⟨o, ds', ho, htake⟩ := takeExponent_digitBytes e.rest e.first
  cases o with
  | some m =>
    obtain rfl := ho rfl
    obtain ⟨out, hout⟩ := settles_scaledNumber negative n
      (if e.sign.getD false then start - m else start + m)
    refine ⟨out, fun s hs => ?_⟩
    rw [readExponent_bytes, htake s (startsWithDigit_of_apart hs)]
    exact hout s hs
  | none =>
    -- the exponent overflows: an error if it is positive and there is a digit to move, and zero
    -- otherwise
    by_cases hrange : n ≠ 0 ∧ ¬e.sign.getD false = true
    · refine ⟨none, fun s hs => ?_⟩
      rw [readExponent_bytes, htake s (startsWithDigit_of_apart hs), finishExponent,
        if_pos hrange]
      rfl
    · refine ⟨some (.float (Decimal.signed negative 0)), fun s hs => ?_⟩
      rw [readExponent_bytes, htake s (startsWithDigit_of_apart hs), finishExponent,
        if_neg hrange, skipDigits_digitBytes _ _ (startsWithDigit_of_apart hs)]
      rfl

/-- An exponent or nothing, behind the places of a number. In both cases the number is settled: it
has one value, or none, for every text that may follow. -/
theorem settles_finishFloat (negative : Bool) (n : Nat) (start : Int) (e : Option Exponent) :
    Settles (finishFloat negative n start) (Numeral.exponentBytes e) := by
  cases e with
  | none =>
    obtain ⟨out, hout⟩ := settles_scaledNumber negative n start
    refine ⟨out, fun s hs => ?_⟩
    -- what stands behind the number is no mark of an exponent
    have hscaled : finishFloat negative n start s = scaledNumber negative n start s := by
      rcases hs.cases with rfl | ⟨b, r, rfl, _, _, hmark, _⟩
      · rfl
      · rw [finishFloat, hmark, if_neg Bool.false_ne_true]
    exact (congrArg Except.toOption hscaled).trans (hout s hs)
  | some e =>
    obtain ⟨out, hout⟩ := settles_readExponent negative n start e
    refine ⟨out, fun s hs => ?_⟩
    show (finishFloat negative n start (ascii (if e.capital then 'E' else 'e') ::
      (signBytes e.sign ++ digitBytes (e.first :: e.rest) ++ s))).toOption = _
    rw [finishFloat, if_pos (isExponentMark_mark e.capital)]
    exact hout s hs

theorem settles_readPlaces (negative : Bool) (n : Nat) (start : Int) (d : Fin 10)
    (ds : List (Fin 10)) (e : Option Exponent) :
    Settles (readPlaces negative n start) (digitBytes (d :: ds) ++ Numeral.exponentBytes e) := by
  obtain ⟨m, count, ds', htake⟩ := takeDigits_digitBytes (d :: ds) n 0
  have hrest {s : List UInt8} (hs : Apart s) := startsWithDigit_exponentBytes e hs
  obtain ⟨out, hout⟩ := settles_finishFloat negative m (start - count) e
  cases ds' with
  | nil =>
    by_cases hcount : count = 0
    · refine ⟨none, fun s hs => ?_⟩
      have hstart : startsWithDigit (digitBytes [] ++ (Numeral.exponentBytes e ++ s)) = false :=
        hrest hs
      rw [List.append_assoc, readPlaces, htake _ (hrest hs)]
      dsimp only
      rw [hstart, if_neg Bool.false_ne_true, if_pos hcount]
      rfl
    · refine ⟨out, fun s hs => ?_⟩
      have hstart : startsWithDigit (digitBytes [] ++ (Numeral.exponentBytes e ++ s)) = false :=
        hrest hs
      rw [List.append_assoc, readPlaces, htake _ (hrest hs)]
      dsimp only
      rw [hstart, if_neg Bool.false_ne_true, if_neg hcount]
      exact hout s hs
  | cons d' ds' =>
    -- further digits are dropped
    refine ⟨out, fun s hs => ?_⟩
    rw [List.append_assoc, readPlaces, htake _ (hrest hs)]
    dsimp only
    rw [startsWithDigit_digitBytes, if_pos rfl, skipDigits_digitBytes _ _ (hrest hs)]
    exact hout s hs

/-- A reader of what follows the digits before the point, by the three ways to go on. `finishWhole`
and `finishLong` are such readers, and differ in what they make of the digits. -/
theorem settles_fraction {finish : List UInt8 → Except Fault (Number × List UInt8)}
    (negative : Bool) (n : Nat) (start : Int) (p : Option (Fin 10 × List (Fin 10)))
    (e : Option Exponent) (hend : Settles finish [])
    (hpoint : ∀ s, finish (ascii '.' :: s) = readPlaces negative n start s)
    (hmark : ∀ b s, b ≠ ascii '.' → isExponentMark b = true →
      finish (b :: s) = readExponent negative n start s) :
    Settles finish (Numeral.placesBytes p ++ Numeral.exponentBytes e) := by
  rcases p with _ | ⟨d, ds⟩
  · rcases e with _ | e
    · exact hend
    · -- a mark is not a point, so the test for the point fails first
      have hne : ascii (if e.capital then 'E' else 'e') ≠ ascii '.' := by
        cases e.capital with
        | true => decide
        | false => decide
      obtain ⟨out, hout⟩ := settles_readExponent negative n start e
      refine ⟨out, fun s hs => ?_⟩
      show (finish (ascii (if e.capital then 'E' else 'e') ::
        (signBytes e.sign ++ digitBytes (e.first :: e.rest) ++ s))).toOption = _
      rw [hmark _ _ hne (isExponentMark_mark e.capital)]
      exact hout s hs
  · obtain ⟨out, hout⟩ := settles_readPlaces negative n start d ds e
    refine ⟨out, fun s hs => ?_⟩
    show (finish (ascii '.' ::
      (digitBytes (d :: ds) ++ Numeral.exponentBytes e ++ s))).toOption = _
    rw [hpoint]
    exact hout s hs

theorem settles_finishWhole (negative : Bool) (n : Nat) (p : Option (Fin 10 × List (Fin 10)))
    (e : Option Exponent) :
    Settles (finishWhole negative n) (Numeral.placesBytes p ++ Numeral.exponentBytes e) := by
  refine settles_fraction negative n 0 p e ?_ (fun s => ?_) fun b s hb hmark => ?_
  · refine ⟨some (finishWhole.whole negative n), fun s hs => ?_⟩
    rcases hs.cases with rfl | ⟨b, r, rfl, _, hpoint, hmark, _⟩
    · rfl
    · rw [List.nil_append, finishWhole, if_neg hpoint, hmark, if_neg Bool.false_ne_true]
      rfl
  · rw [finishWhole, if_pos rfl]
  · rw [finishWhole, if_neg hb, if_pos hmark]

theorem settles_finishLong (negative : Bool) (n dropped : Nat)
    (p : Option (Fin 10 × List (Fin 10))) (e : Option Exponent) :
    Settles (finishLong negative n dropped) (Numeral.placesBytes p ++ Numeral.exponentBytes e) := by
  refine settles_fraction negative n dropped p e ?_ (fun s => ?_) fun b s hb hmark => ?_
  · obtain ⟨out, hout⟩ := settles_scaledNumber negative n dropped
    refine ⟨out, fun s hs => ?_⟩
    rw [← hout s hs]
    rcases hs.cases with rfl | ⟨b, r, rfl, _, hpoint, hmark, _⟩
    · rfl
    · rw [List.nil_append, finishLong, if_neg hpoint, hmark, if_neg Bool.false_ne_true]
  · rw [finishLong, if_pos rfl]
  · rw [finishLong, if_neg hb, if_pos hmark]

/-- What comes of the digits of a number: their value, how many there are, and what follows. -/
def finishDigits (negative : Bool) : Nat × Nat × List UInt8 →
    Except Fault (Number × List UInt8)
  | (n, _, r) =>
    if startsWithDigit r then finishLong negative n (skipDigits 0 r).1 (skipDigits 0 r).2
    else finishWhole negative n r

/-- **A number behind its sign is settled.** The value itself is not computed here; it is defined as
what is read when nothing follows, and the theorem is that nothing else can make a difference. -/
theorem settles_readUnsigned (negative : Bool) (n : Numeral) :
    Settles (readUnsigned negative) n.unsignedBytes := by
  have hrest {s : List UInt8} (hs : Apart s) := startsWithDigit_fraction n hs
  obtain ⟨sign, whole, p, e⟩ := n
  rcases whole with _ | ⟨d, ds⟩
  · obtain ⟨out, hout⟩ := settles_finishWhole negative 0 p e
    refine ⟨out, fun s hs => ?_⟩
    have hzero : digit? (ascii '0') = some 0 := by decide
    have hstart : ¬ startsWithDigit (Numeral.placesBytes p ++ Numeral.exponentBytes e ++ s) =
        true := by
      rw [List.append_assoc, hrest hs]
      exact Bool.false_ne_true
    show (readUnsigned negative
      (ascii '0' :: (Numeral.placesBytes p ++ Numeral.exponentBytes e ++ s))).toOption = _
    rw [readUnsigned, hzero]
    show Except.toOption (if startsWithDigit _ then _ else _) = _
    rw [if_neg hstart]
    exact hout s hs
  · obtain ⟨m, count, ds', htake⟩ := takeDigits_digitBytes ds (d.val + 1) 0
    have hread (s : List UInt8) : readUnsigned negative
        (digitByte d.succ :: (digitBytes ds ++ s)) =
        finishDigits negative (takeDigits (d.val + 1) 0 (digitBytes ds ++ s)) := by
      rw [readUnsigned, digit?_digitByte, Fin.val_succ]
      rfl
    have hbytes (s : List UInt8) :
        Numeral.unsignedBytes ⟨sign, some (d, ds), p, e⟩ ++ s =
          digitByte d.succ :: (digitBytes ds ++
            (Numeral.placesBytes p ++ (Numeral.exponentBytes e ++ s))) := by
      simp only [Numeral.unsignedBytes, Numeral.wholeBytes, digitBytes, List.map_cons,
        List.cons_append, List.append_assoc]
    cases ds' with
    | nil =>
      obtain ⟨out, hout⟩ := settles_finishWhole negative m p e
      refine ⟨out, fun s hs => ?_⟩
      have hstart : ¬ startsWithDigit (digitBytes [] ++
          (Numeral.placesBytes p ++ (Numeral.exponentBytes e ++ s))) = true := by
        rw [digitBytes, List.map_nil, List.nil_append, hrest hs]
        exact Bool.false_ne_true
      rw [hbytes, hread, htake _ (hrest hs), finishDigits, if_neg hstart, ← hout s hs,
        List.append_assoc]
      rfl
    | cons d' ds' =>
      -- there are more digits than are kept, and the others only count
      obtain ⟨out, hout⟩ := settles_finishLong negative m (0 + (d' :: ds').length) p e
      refine ⟨out, fun s hs => ?_⟩
      rw [hbytes, hread, htake _ (hrest hs), finishDigits, startsWithDigit_digitBytes, if_pos rfl,
        skipDigits_digitBytes _ _ (hrest hs), ← hout s hs, List.append_assoc]

/-- The value of a number; `none` if it is too large. -/
def Numeral.value? (n : Numeral) : Option Number :=
  (readUnsigned n.negative n.unsignedBytes).toOption.map Prod.fst

/-- **A number is read as one value**, whatever follows it, as long as it is apart from the
number. -/
theorem toOption_readNumber {n : Numeral} {b : UInt8} {t s : List UInt8} (h : n.bytes = b :: t)
    (hs : Apart s) :
    (readNumber b (t ++ s)).toOption = n.value?.map fun x => (x, s) := by
  -- the sign is taken by the caller, and the digits are read alike with and without it
  have hread : readNumber b (t ++ s) = readUnsigned n.negative (n.unsignedBytes ++ s) := by
    rw [Numeral.bytes] at h
    cases hnegative : n.negative with
    | true =>
      rw [hnegative, if_pos rfl] at h
      obtain ⟨rfl, rfl⟩ := List.cons.inj h
      rw [readNumber, if_pos rfl]
    | false =>
      rw [hnegative, if_neg Bool.false_ne_true] at h
      obtain ⟨d, t', heq⟩ := n.unsignedBytes_eq_cons
      obtain ⟨rfl, rfl⟩ := List.cons.inj (h.symm.trans heq)
      rw [readNumber, if_neg (digitByte_ne d (by decide)), heq, List.cons_append]
  obtain ⟨out, hout⟩ := settles_readUnsigned n.negative n
  -- the value of a numeral is what reading it alone gives
  have hvalue : n.value? = out := by
    have hempty := hout [] apart_nil
    rw [List.append_nil] at hempty
    rw [Numeral.value?, hempty, Option.map_map]
    exact congrFun Option.map_id out
  rw [hread, hout s hs, hvalue]

end Rendezvous.Json
