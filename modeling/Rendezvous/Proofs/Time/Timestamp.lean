/-
A timestamp that was written is read back, to the nanosecond, if a leap second in it ends a minute.

The reader takes more texts than the writer makes, and it does not know the width of what it reads:
a field ends after two digits or before the first character that is no digit. So every part of the
text is read for any text behind it, as long as a number that could have been longer is followed by
something else than a digit (`readDigits_append`). The parts then follow one another, and what is
left is arithmetic: the day has the number that it was taken from (`toDays_ofDays`), and a leap
second, which is written as second 60, is put back on top of the second 59 that it follows.

The condition is needed. A part of one second and more behind another second than 59 is written as
the next second, so that two instants share a text (`text_pastHalfMinute`), and it is read as the
other one: whatever the text, no such instant is ever read (`leapEndsMinute_of_parse`).

* `Timestamp.parse_text`: a timestamp is read back if a leap second in it ends a minute.
* `Timestamp.parse_text_eq_normal`: what any timestamp is read as, which is itself exactly under
  this condition (`Timestamp.normal_eq_iff`).
* `Timestamp.leapEndsMinute_of_parse`: no text is read as an instant without it.
-/
import Rendezvous.Proofs.Time.Calendar
import Rendezvous.Time.Reader

set_option autoImplicit false

namespace Rendezvous.Time

open Decimal (padded)

/-! ## Digits

Numbers in the text of an instant are padded with zeros to a width, or longer where they need to be.
-/

theorem valueOnto_of_isDigit {cs : List Char} (hcs : ∀ c ∈ cs, c.isDigit = true) (n : Nat) :
    Decimal.valueOnto n cs = Nat.ofDigitChars 10 cs n := by
  induction cs generalizing n with
  | nil => rfl
  | cons c cs ih =>
    have hvalue : Decimal.digitValue? c = some (c.toNat - 48) := by
      rw [Decimal.digitValue?, if_pos (hcs c (List.mem_cons_self ..))]
    rw [Decimal.valueOnto, hvalue]
    dsimp only
    rw [ih fun c' hc' => hcs c' (List.mem_cons_of_mem c hc'), Nat.ofDigitChars_cons,
      Nat.mul_comm n]
    rfl

theorem isDigit_of_mem_padded {width n : Nat} : ∀ c ∈ padded width n, c.isDigit = true := by
  intro c hc
  rcases List.mem_append.mp hc with hc | hc
  · rw [List.eq_of_mem_replicate hc]
    decide
  · exact Nat.isDigit_of_mem_toDigits (by decide) (by decide) hc

/-- **The digits of a number have its value**, however many zeros stand in front. -/
theorem value_padded (width n : Nat) : Decimal.value (padded width n) = n := by
  rw [Decimal.value, valueOnto_of_isDigit isDigit_of_mem_padded, padded, Nat.ofDigitChars_append,
    Nat.ofDigitChars_replicate_zero, Nat.mul_zero, Nat.ofDigitChars_ten_toDigits]

theorem padded_ne_nil (width n : Nat) : padded width n ≠ [] := by
  intro h
  exact Nat.toDigits_ne_nil (List.append_eq_nil_iff.mp h).2

/-- A number that does not need more digits has the width that is asked for. -/
theorem length_padded {width n : Nat} (hwidth : 0 < width) (hn : n < Nat.pow 10 width) :
    (padded width n).length = width := by
  have hcount : Decimal.digitCount n ≤ width :=
    (Nat.length_toDigits_le_iff (by decide) hwidth).mpr hn
  rw [padded, List.length_append, List.length_replicate]
  exact Nat.sub_add_cancel hcount

/-- A digit is neither a blank nor a sign. -/
theorem plain_of_isDigit {c : Char} (h : c.isDigit = true) :
    Text.isBlank c = false ∧ c ≠ '-' ∧ c ≠ '+' := by
  simp only [Char.isDigit, Bool.and_eq_true, decide_eq_true_eq] at h
  obtain ⟨hlow, hhigh⟩ := h
  have hlow : 48 ≤ c.toNat := hlow
  have hhigh : c.toNat ≤ 57 := hhigh
  refine ⟨?_, ?_, ?_⟩
  · simp only [Text.isBlank, Bool.or_eq_false_iff, Bool.and_eq_false_iff, decide_eq_false_iff_not,
      beq_eq_false_iff_ne]
    omega
  · rintro rfl
    exact absurd hlow (by decide)
  · rintro rfl
    exact absurd hlow (by decide)

/-- The first digit of a number. -/
theorem padded_eq_cons (width n : Nat) :
    ∃ c cs, padded width n = c :: cs ∧ c.isDigit = true := by
  cases heq : padded width n with
  | nil => exact absurd heq (padded_ne_nil width n)
  | cons c cs =>
    exact ⟨c, cs, rfl, isDigit_of_mem_padded c (heq ▸ List.mem_cons_self ..)⟩

theorem trimStart_cons {c : Char} (h : Text.isBlank c = false) (s : List Char) :
    Text.trimStart (c :: s) = c :: s := by
  rw [Text.trimStart, List.dropWhile_cons_of_neg (by rw [h]; exact Bool.false_ne_true)]

theorem trimStart_padded (width n : Nat) (s : List Char) :
    Text.trimStart (padded width n ++ s) = padded width n ++ s := by
  obtain ⟨c, cs, heq, hc⟩ := padded_eq_cons width n
  rw [heq, List.cons_append, trimStart_cons (plain_of_isDigit hc).1]

/-! ## The parts of the text

Year, month, day, hour, minute, second, part of a second and offset, each read from the front of any
text. -/

/-- **Digits up to where they end**: there are no more of them, or no more are wanted. The digits
of a month fill their width, while those of a fraction or of a long year end at the character
behind. -/
theorem readDigits_append {width : Nat} {cs s : List Char} (hcs : ∀ c ∈ cs, c.isDigit = true)
    (hne : cs ≠ []) (hwidth : cs.length ≤ width)
    (hend : cs.length = width ∨ s.takeWhile Char.isDigit = []) :
    readDigits width (cs ++ s) = .ok (Decimal.value cs, s) := by
  -- as many characters as the width allows, and of these the leading digits
  have htake : ((cs ++ s).take width).takeWhile Char.isDigit = cs := by
    rw [List.take_append, List.take_of_length_le hwidth, List.takeWhile_append_of_pos hcs]
    rcases hend with hlength | hnone
    · rw [hlength, Nat.sub_self, List.take_zero, List.takeWhile_nil, List.append_nil]
    · cases s with
      | nil => rw [List.take_nil, List.takeWhile_nil, List.append_nil]
      | cons c s =>
        have hc : ¬c.isDigit = true := by
          intro hc
          rw [List.takeWhile_cons_of_pos hc] at hnone
          cases hnone
        cases width - cs.length with
        | zero => rw [List.take_zero, List.takeWhile_nil, List.append_nil]
        | succ k => rw [List.take_succ_cons, List.takeWhile_cons_of_neg hc, List.append_nil]
  cases cs with
  | nil => exact absurd rfl hne
  | cons c cs =>
    rw [List.cons_append] at htake ⊢
    rw [readDigits, htake, if_neg (by exact Bool.false_ne_true), ← List.cons_append, List.drop_left]

theorem readField_padded {low high n : Nat} (hn : n < 100) (hlow : low ≤ n) (hhigh : n ≤ high)
    (s : List Char) : readField low high (padded 2 n ++ s) = .ok (n, s) := by
  have hlength : (padded 2 n).length = 2 := length_padded (by decide) hn
  rw [readField, trimStart_padded, readDigits_append isDigit_of_mem_padded (padded_ne_nil 2 n)
    (Nat.le_of_eq hlength) (.inl hlength), value_padded]
  show (if low ≤ n ∧ n ≤ high then _ else _) = _
  rw [if_pos ⟨hlow, hhigh⟩]

theorem readMark_cons {c : Char} (h : Text.isBlank c = false) (s : List Char) :
    readMark c (c :: s) = .ok s := by
  rw [readMark, trimStart_cons h]
  dsimp only
  rw [if_pos rfl]

/-- A year, with a sign or without one. Years from 0 to 9999 are written with four digits and no
sign, all others with a sign, and the reader takes the sign as leave to read more digits. -/
theorem readYear_yearText {year : Int} (hlow : -2147483648 ≤ year) (hhigh : year ≤ 2147483647)
    (s : List Char) : readYear (yearText year ++ '-' :: s) = .ok (year, '-' :: s) := by
  have hmark : ('-' :: s).takeWhile Char.isDigit = [] := List.takeWhile_cons_of_neg (by decide)
  -- behind a sign any number of digits may follow
  have hread (n : Nat) : readDigits (padded 4 n ++ '-' :: s).length (padded 4 n ++ '-' :: s) =
      .ok (n, '-' :: s) := by
    rw [readDigits_append isDigit_of_mem_padded (padded_ne_nil 4 n)
      (by rw [List.length_append]; exact Nat.le_add_right ..) (.inr hmark), value_padded]
  unfold yearText
  by_cases hfour : 0 ≤ year ∧ year ≤ 9999
  · have hlength : (padded 4 year.toNat).length = 4 :=
      length_padded (by decide) (show year.toNat < 10000 by omega)
    have hdigits : readDigits 4 (padded 4 year.toNat ++ '-' :: s) = .ok (year.toNat, '-' :: s) := by
      rw [readDigits_append isDigit_of_mem_padded (padded_ne_nil 4 _) (Nat.le_of_eq hlength)
        (.inl hlength), value_padded]
    rw [if_pos hfour]
    obtain ⟨c, cs, heq, hc⟩ := padded_eq_cons 4 year.toNat
    obtain ⟨hblank, hminus, hplus⟩ := plain_of_isDigit hc
    rw [heq, List.cons_append] at hdigits ⊢
    rw [readYear, trimStart_cons hblank]
    split
    · rename_i h
      exact absurd (List.cons.inj h).1 hminus
    · rename_i h
      exact absurd (List.cons.inj h).1 hplus
    · rw [hdigits]
      show Except.ok ((year.toNat : Int), '-' :: s) = _
      rw [Int.toNat_of_nonneg hfour.1]
  · rw [if_neg hfour]
    by_cases hneg : year < 0
    · rw [if_pos hneg, List.cons_append, readYear, trimStart_cons (by decide)]
      show (readDigits _ (padded 4 year.natAbs ++ '-' :: s) >>= fun r =>
        if r.1 ≤ 2147483648 then Except.ok (-(r.1 : Int), r.2) else .error .outOfRange) = _
      rw [hread]
      show (if year.natAbs ≤ 2147483648 then _ else _) = _
      rw [if_pos (by omega), Int.ofNat_natAbs_of_nonpos (Int.le_of_lt hneg), Int.neg_neg]
    · rw [if_neg hneg, List.cons_append, readYear, trimStart_cons (by decide)]
      show (readDigits _ (padded 4 year.natAbs ++ '-' :: s) >>= fun r =>
        if r.1 ≤ 2147483647 then Except.ok ((r.1 : Int), r.2) else .error .outOfRange) = _
      rw [hread]
      show (if year.natAbs ≤ 2147483647 then _ else _) = _
      rw [if_pos (by omega), Int.natAbs_of_nonneg (by omega)]

/-- A point with up to nine digits. Fewer of them stand for a part that is filled up with zeros, as
three digits count milliseconds. -/
theorem readFraction_padded {width n : Nat} (hwidth : 0 < width) (hnine : width ≤ 9)
    (hn : n < Nat.pow 10 width) {c : Char} (hc : c.isDigit = false) (s : List Char) :
    readFraction ('.' :: (padded width n ++ c :: s)) =
      .ok (n * Nat.pow 10 (9 - width), c :: s) := by
  have hc : ¬c.isDigit = true := Bool.eq_false_iff.mp hc
  have hlength := length_padded hwidth hn
  have hdigits : readDigits 9 (padded width n ++ c :: s) = .ok (n, c :: s) := by
    rw [readDigits_append isDigit_of_mem_padded (padded_ne_nil width n) (by omega)
      (.inr (List.takeWhile_cons_of_neg hc)), value_padded]
  have htake : (padded width n ++ c :: s).take
      ((padded width n ++ c :: s).length - (c :: s).length) = padded width n := by
    rw [List.length_append, Nat.add_sub_cancel, List.take_left]
  rw [readFraction, hdigits]
  show Except.ok (Decimal.value _ * _, List.dropWhile _ (c :: s)) = _
  rw [htake, value_padded, hlength, List.dropWhile_cons_of_neg hc]

/-- The part of a second ends in front of a character that cannot belong to it. Nothing is written
for no nanoseconds, and nothing is read then, unless a point follows. -/
theorem readFraction_fractionText {nano : Nat} (h : nano < nanosPerSecond) {c : Char}
    (hdigit : c.isDigit = false) (hpoint : c ≠ '.') (s : List Char) :
    readFraction (fractionText nano ++ c :: s) = .ok (nano, c :: s) := by
  have h : nano < 1000000000 := h
  unfold fractionText
  by_cases hzero : nano = 0
  · rw [if_pos hzero, hzero, List.nil_append, readFraction]
    intro s' heq
    exact hpoint (List.cons.inj heq).1
  rw [if_neg hzero]
  -- three, six or nine digits are written, the fewest that lose nothing
  by_cases hmilli : nano % 1000000 = 0
  · have hlt : nano / 1000000 < 1000 := by omega
    have hvalue : nano / 1000000 * 1000000 = nano := by omega
    rw [if_pos hmilli, List.cons_append, readFraction_padded (by decide) (by decide) hlt hdigit]
    exact congrArg (fun n => Except.ok (n, c :: s)) hvalue
  rw [if_neg hmilli]
  by_cases hmicro : nano % 1000 = 0
  · have hlt : nano / 1000 < 1000000 := by omega
    have hvalue : nano / 1000 * 1000 = nano := by omega
    rw [if_pos hmicro, List.cons_append, readFraction_padded (by decide) (by decide) hlt hdigit]
    exact congrArg (fun n => Except.ok (n, c :: s)) hvalue
  · rw [if_neg hmicro, List.cons_append, readFraction_padded (by decide) (by decide) h hdigit]
    exact congrArg (fun n => Except.ok (n, c :: s)) (Nat.mul_one nano)

/-! ## The whole text

The parts are read in their order and give back a day, a time of day and a part of a second. -/

/-- The second and the part of it give a timestamp back. -/
theorem Timestamp.of?_self (t : Timestamp) : Timestamp.of? t.second t.nano = some t := by
  rw [Timestamp.of?, dif_pos ⟨⟨t.first_le, t.le_last⟩, t.nano_lt⟩]

/-- The year of a timestamp is one that the calendar of timestamps has. -/
theorem Timestamp.year_bounds (t : Timestamp) :
    -262143 ≤ t.date.year ∧ t.date.year ≤ 262142 := by
  have hfirst : yearStart (-262143) * 86400 = firstSecond := by decide
  have hlast : yearStart (262142 + 1) * 86400 = lastSecond + 1 := by decide
  have hlow := t.first_le
  have hhigh := t.le_last
  exact yearOf_bounds_iff.mpr ⟨by omega, by omega⟩

/-- **The parts of a timestamp give it back**, unless they hide a leap second: of a part of one
second and more behind another second than 59 nothing but the next second is left. -/
theorem instant_of_parts {t : Timestamp} (hleap : t.LeapEndsMinute) :
    instant t.date t.hour t.minute (t.secondOfDay % 60 + t.nano / nanosPerSecond)
      (t.nano % nanosPerSecond) 0 = .ok t := by
  have hexists : t.date.exists = true := exists_ofDays _
  have hdays : t.date.toDays = t.second / 86400 := toDays_ofDays _
  obtain ⟨hlow, hhigh⟩ := t.year_bounds
  have hnano := t.nano_lt
  unfold Timestamp.LeapEndsMinute at hleap
  have hofDay : (t.secondOfDay : Int) = t.second % 86400 := by
    unfold Timestamp.secondOfDay
    omega
  unfold nanosPerSecond at hnano hleap ⊢
  rw [instant, if_neg fun h => h ⟨hlow, hhigh, hexists⟩, if_neg (by decide)]
  have hsecond : t.date.toDays * 86400 + ((t.hour * 3600 + t.minute * 60 +
      min (t.secondOfDay % 60 + t.nano / 1000000000) 59 : Nat) : Int) - 0 * 60 = t.second := by
    rw [hdays]
    unfold Timestamp.hour Timestamp.minute
    omega
  -- second 60 is only written for a leap second, and only a leap second is read from it
  have hfraction : (if t.secondOfDay % 60 + t.nano / 1000000000 = 60 then
      t.nano % 1000000000 + 1000000000 else t.nano % 1000000000) = t.nano := by
    split <;> omega
  dsimp only
  unfold nanosPerSecond
  rw [hsecond, hfraction, Timestamp.of?_self]

/-- The parts of a timestamp are read in front of an offset that stands for UTC. A leap second has
to end its minute: only then is it written as `:60` and read as what it was. -/
theorem Timestamp.parse_civilText {t : Timestamp} (hleap : t.LeapEndsMinute) {c : Char}
    (hdigit : c.isDigit = false) (hpoint : c ≠ '.') {s : List Char}
    (hoffset : readOffset (Text.trimStart (c :: s)) = .ok (0, [])) :
    Timestamp.parse (t.civilText ++ c :: s) = .ok t := by
  obtain ⟨hmonth1, hmonth12⟩ : 1 ≤ t.date.month ∧ t.date.month ≤ 12 := month_ofDays _
  obtain ⟨hday1, hday31⟩ : 1 ≤ t.date.day ∧ t.date.day ≤ 31 := day_ofDays _
  obtain ⟨hlow, hhigh⟩ := t.year_bounds
  have hofDay : t.secondOfDay < 86400 := by
    unfold Timestamp.secondOfDay
    omega
  have hhour24 : t.hour ≤ 23 := by
    unfold Timestamp.hour
    omega
  have hminute60 : t.minute ≤ 59 := by
    unfold Timestamp.minute
    omega
  have hsecond60 : t.secondOfDay % 60 + t.nano / nanosPerSecond ≤ 60 := by
    have hnano := t.nano_lt
    unfold nanosPerSecond at hnano ⊢
    omega
  have hnano : t.nano % nanosPerSecond < nanosPerSecond := Nat.mod_lt _ (by decide)
  -- each part is read for any text behind it, so the parts only have to be put in a row
  have hyear (s : List Char) :
      readYear (yearText t.date.year ++ '-' :: s) = .ok (t.date.year, '-' :: s) :=
    readYear_yearText (by omega) (by omega) s
  have hmonth (s : List Char) := readField_padded (by omega) hmonth1 hmonth12 s
  have hday (s : List Char) := readField_padded (by omega) hday1 hday31 s
  have hhour (s : List Char) := readField_padded (by omega) (Nat.zero_le t.hour) hhour24 s
  have hminute (s : List Char) := readField_padded (by omega) (Nat.zero_le t.minute) hminute60 s
  have hsecond (s : List Char) := readField_padded (by omega) (Nat.zero_le _) hsecond60 s
  have hhyphen (s : List Char) : readMark '-' ('-' :: s) = .ok s := readMark_cons (by decide) s
  have hcolon (s : List Char) : readMark ':' (':' :: s) = .ok s := readMark_cons (by decide) s
  have hfraction := readFraction_fractionText hnano hdigit hpoint s
  rw [Timestamp.civilText, Date.text, Timestamp.clock]
  simp only [List.append_assoc, List.cons_append]
  simp only [Timestamp.parse, hyear, hhyphen, hmonth, hday, hhour, hcolon, hminute, hsecond,
    hfraction, hoffset, bind, Except.bind, true_or, if_true]
  exact instant_of_parts hleap

/-- **A timestamp that was written is read**, with `Z` for its offset, as `serde` writes it. -/
theorem Timestamp.parse_text {t : Timestamp} (hleap : t.LeapEndsMinute) :
    Timestamp.parse t.text.toList = .ok t := by
  rw [Timestamp.text, String.toList_ofList]
  exact parse_civilText hleap (by decide) (by decide) rfl

/-- It is read as well if the offset is written as a number, as `to_rfc3339` does. -/
theorem Timestamp.parse_textWithOffset {t : Timestamp} (hleap : t.LeapEndsMinute) :
    Timestamp.parse t.textWithOffset.toList = .ok t := by
  rw [Timestamp.textWithOffset, String.toList_ofList]
  exact parse_civilText hleap (by decide) (by decide) rfl

/-! ## What is never read

The other side of the condition: a text cannot name an instant without it, in whatever way it is
written. -/

/-- A reading that goes on after a first step has that step behind it. -/
theorem exists_of_bind_eq_ok {α β : Type} {x : Except Refusal α} {f : α → Except Refusal β} {b : β}
    (h : x >>= f = .ok b) : ∃ a, x = .ok a ∧ f a = .ok b := by
  cases x with
  | error why => cases h
  | ok a => exact ⟨a, rfl, h⟩

/-- A number with so many digits is below the power of ten that has one more. The value that the
digits are read onto is general, for the induction over them. -/
theorem valueOnto_lt {cs : List Char} (hcs : ∀ c ∈ cs, c.isDigit = true) (n : Nat) :
    Decimal.valueOnto n cs < (n + 1) * Nat.pow 10 cs.length := by
  induction cs generalizing n with
  | nil => exact Nat.lt_of_lt_of_eq (Nat.lt_succ_self n) (Nat.mul_one (n + 1)).symm
  | cons c cs ih =>
    have hc : c.isDigit = true := hcs c (List.mem_cons_self ..)
    -- a digit is at most nine, so the value stays below the next power
    have hnine : c.toNat - 48 ≤ 9 := by
      simp only [Char.isDigit, Bool.and_eq_true, decide_eq_true_eq] at hc
      have hhigh : c.toNat ≤ 57 := hc.2
      omega
    have hvalue : Decimal.digitValue? c = some (c.toNat - 48) := by
      rw [Decimal.digitValue?, if_pos hc]
    have hrest := ih (fun c' hc' => hcs c' (List.mem_cons_of_mem c hc')) (n * 10 + (c.toNat - 48))
    rw [Decimal.valueOnto, hvalue]
    calc Decimal.valueOnto (n * 10 + (c.toNat - 48)) cs
        < (n * 10 + (c.toNat - 48) + 1) * Nat.pow 10 cs.length := hrest
      _ ≤ ((n + 1) * 10) * Nat.pow 10 cs.length := Nat.mul_le_mul_right _ (by omega)
      _ = (n + 1) * Nat.pow 10 (c :: cs).length := by
        rw [Nat.mul_assoc, Nat.mul_comm 10]
        rfl

/-- The digits that are read are a prefix of the text, all of them digits and no more than asked
for. -/
theorem readDigits_eq_ok {width n : Nat} {s rest : List Char}
    (h : readDigits width s = .ok (n, rest)) :
    ∃ cs : List Char, s = cs ++ rest ∧ (∀ c ∈ cs, c.isDigit = true) ∧ cs.length ≤ width := by
  cases s with
  | nil => cases h
  | cons c s =>
    rw [readDigits] at h
    split at h
    · cases h
    have hrest := (Prod.mk.inj (Except.ok.inj h)).2
    have hprefix : ((c :: s).take width).takeWhile Char.isDigit <+: c :: s :=
      (List.takeWhile_prefix _).trans (List.take_prefix _ _)
    refine ⟨((c :: s).take width).takeWhile Char.isDigit, ?_, ?_, ?_⟩
    · rw [← hrest]
      exact (List.prefix_iff_eq_append.mp hprefix).symm
    · exact List.all_eq_true.mp List.all_takeWhile
    · exact Nat.le_trans (List.takeWhile_prefix _).length_le (List.length_take_le _ _)

/-- A part of a second that is read is less than a second: nine digits count nanoseconds. So a text
can name a leap second only by its seconds, as `:60`. -/
theorem readFraction_lt {s rest : List Char} {nano : Nat}
    (h : readFraction s = .ok (nano, rest)) : nano < nanosPerSecond := by
  unfold readFraction at h
  split at h
  · rename_i s
    obtain ⟨⟨n, rest'⟩, hdigits, h⟩ := exists_of_bind_eq_ok h
    obtain ⟨cs, rfl, hcs, hnine⟩ := readDigits_eq_ok hdigits
    -- the digits read are what the text is shorter by
    have htake : (cs ++ rest').take ((cs ++ rest').length - rest'.length) = cs := by
      rw [List.length_append, Nat.add_sub_cancel, List.take_left]
    have hnano := (Prod.mk.inj (Except.ok.inj h)).1
    rw [htake] at hnano
    have hvalue : Decimal.value cs < Nat.pow 10 cs.length := by
      have hlt := valueOnto_lt hcs 0
      rwa [Nat.zero_add, Nat.one_mul] at hlt
    rw [← hnano]
    calc Decimal.value cs * Nat.pow 10 (9 - cs.length)
        < Nat.pow 10 cs.length * Nat.pow 10 (9 - cs.length) :=
          Nat.mul_lt_mul_of_pos_right hvalue (Nat.pow_pos (by decide))
      _ = Nat.pow 10 (cs.length + (9 - cs.length)) := (Nat.pow_add ..).symm
      _ = nanosPerSecond := by rw [Nat.add_sub_cancel' hnine]; rfl
  · rw [← (Prod.mk.inj (Except.ok.inj h)).1]
    decide

/-- The instant of a date and a time of day. Only second 60 makes a leap second of it, and it is put
on top of second 59; an offset is a number of whole minutes and does not move it. -/
theorem leapEndsMinute_of_instant {date : Date} {hour minute second nano : Nat} {offset : Int}
    {t : Timestamp} (hnano : nano < nanosPerSecond)
    (h : instant date hour minute second nano offset = .ok t) : t.LeapEndsMinute := by
  intro hleap
  unfold instant at h
  split at h
  · cases h
  split at h
  · cases h
  dsimp only at h
  unfold Timestamp.of? at h
  -- a sixtieth second is read into the second before it, which ends its minute; any other second
  -- comes with less than a second of nanoseconds
  by_cases hsixty : second = 60
  · rw [if_pos hsixty, hsixty] at h
    split at h
    · rename_i h'
      split at h'
      · rw [← Except.ok.inj h, ← Option.some.inj h']
        dsimp only
        omega
      · cases h'
    · cases h
  · rw [if_neg hsixty] at h
    split at h
    · rename_i h'
      split at h'
      · rw [← Except.ok.inj h, ← Option.some.inj h'] at hleap
        exact absurd hnano (Nat.not_lt.mpr hleap)
      · cases h'
    · cases h

/-- **Whatever is read, a leap second in it ends a minute.** So the condition of the round trip only
concerns values that were made with `with_nanosecond`. -/
theorem Timestamp.leapEndsMinute_of_parse {cs : List Char} {t : Timestamp}
    (h : Timestamp.parse cs = .ok t) : t.LeapEndsMinute := by
  unfold Timestamp.parse at h
  -- the eleven steps in front of the part of a second do not matter
  iterate 11 obtain ⟨_, -, h⟩ := exists_of_bind_eq_ok h
  obtain ⟨_, hfraction, h⟩ := exists_of_bind_eq_ok h
  obtain ⟨_, -, h⟩ := exists_of_bind_eq_ok h
  dsimp only at h
  split at h
  · exact leapEndsMinute_of_instant (readFraction_lt hfraction) h
  · cases h

/-! ## The instant that a text shows

What is left of an instant once it has been written and read. -/

/-- The instant that the text of this one shows. A part of one second and more that is not behind
second 59 is written as the next second, with a second less; everything else is written as what it
is. -/
def Timestamp.normal (t : Timestamp) : Timestamp :=
  if h : t.LeapEndsMinute then t
  else
    { second := t.second + 1
      nano := t.nano - nanosPerSecond
      first_le := by
        have hfirst := t.first_le
        omega
      le_last := by
        -- the last of all seconds ends a minute
        have hlast := t.le_last
        unfold LeapEndsMinute at h
        unfold lastSecond at hlast ⊢
        omega
      nano_lt := Nat.lt_of_le_of_lt (Nat.sub_le ..) t.nano_lt }

theorem Timestamp.normal_of_leapEndsMinute {t : Timestamp} (h : t.LeapEndsMinute) :
    t.normal = t :=
  dif_pos h

/-- What is there instead of a leap second that does not end a minute. -/
theorem Timestamp.normal_of_not {t : Timestamp} (h : ¬t.LeapEndsMinute) :
    t.normal.second = t.second + 1 ∧ t.normal.nano = t.nano - nanosPerSecond := by
  rw [normal, dif_neg h]
  exact ⟨rfl, rfl⟩

theorem Timestamp.leapEndsMinute_normal (t : Timestamp) : t.normal.LeapEndsMinute := by
  by_cases h : t.LeapEndsMinute
  · rwa [normal_of_leapEndsMinute h]
  · intro hle
    rw [(normal_of_not h).2] at hle
    have hnano := t.nano_lt
    unfold nanosPerSecond at hle hnano
    omega

/-- **An instant is what its text shows if and only if a leap second in it ends a minute.** -/
theorem Timestamp.normal_eq_iff {t : Timestamp} : t.normal = t ↔ t.LeapEndsMinute := by
  constructor
  · intro h
    rw [← h]
    exact t.leapEndsMinute_normal
  · exact normal_of_leapEndsMinute

/-- The text shows the normal instant: the second of the minute is one more and the part of it one
second less, and the minute, the hour and the day are the same. -/
theorem Timestamp.civilText_normal (t : Timestamp) : t.normal.civilText = t.civilText := by
  by_cases h : t.LeapEndsMinute
  · rw [normal_of_leapEndsMinute h]
  obtain ⟨hsecond, hnano⟩ := normal_of_not h
  unfold LeapEndsMinute at h
  have hlt := t.nano_lt
  have hnext : t.normal.secondOfDay = t.secondOfDay + 1 := by
    unfold secondOfDay
    omega
  -- the second is none that ends a minute, so the next one lies in the same minute, hour and day
  have hofDay : t.secondOfDay % 60 < 59 := by
    unfold secondOfDay
    omega
  have hdate : t.normal.date = t.date := by
    rw [date, date, hsecond, show (t.second + 1) / 86400 = t.second / 86400 by omega]
  have hhour : t.normal.hour = t.hour := by
    rw [hour, hour, hnext]
    omega
  have hminute : t.normal.minute = t.minute := by
    rw [minute, minute, hnext]
    omega
  unfold nanosPerSecond at h hnano hlt
  have hshown : t.normal.secondOfDay % 60 + t.normal.nano / nanosPerSecond =
      t.secondOfDay % 60 + t.nano / nanosPerSecond := by
    unfold nanosPerSecond
    omega
  have hfraction : t.normal.nano % nanosPerSecond = t.nano % nanosPerSecond := by
    unfold nanosPerSecond
    omega
  rw [civilText, civilText, clock, clock, hdate, hhour, hminute, hshown, hfraction]

theorem Timestamp.text_normal (t : Timestamp) : t.normal.text = t.text := by
  rw [text, text, t.civilText_normal]

/-- **A timestamp that was written is read as its normal instant.** -/
theorem Timestamp.parse_text_eq_normal (t : Timestamp) :
    Timestamp.parse t.text.toList = .ok t.normal := by
  rw [← t.text_normal]
  exact parse_text t.leapEndsMinute_normal

/-- Instants have one text if and only if they have one normal instant. -/
theorem Timestamp.text_eq_iff {t u : Timestamp} : t.text = u.text ↔ t.normal = u.normal := by
  constructor
  · intro h
    have hread := t.parse_text_eq_normal
    rw [h, u.parse_text_eq_normal] at hread
    exact (Except.ok.inj hread).symm
  · intro h
    rw [← t.text_normal, h, u.text_normal]

/-- One and a half seconds behind 2015-06-30T12:00:30Z. -/
def Timestamp.pastHalfMinute : Timestamp :=
  ⟨1435665630, 1500000000, by decide, by decide, by decide⟩

/-- 2015-06-30T12:00:31.5Z, as it is written. -/
def Timestamp.nextHalfSecond : Timestamp :=
  ⟨1435665631, 500000000, by decide, by decide, by decide⟩

/-- Two instants with one text, so that one of them is not read back. -/
theorem Timestamp.text_pastHalfMinute :
    pastHalfMinute.text = nextHalfSecond.text ∧ pastHalfMinute ≠ nextHalfSecond := by
  decide

end Rendezvous.Time
