/-
The calendar in machine words.

`Date.yearsSince` and `Date.ofDays` count in integers without bounds, and `chrono` in words: years
in `i32`, seconds and days in `i64`. Two things could go wrong with words. One could wrap, and it
does not, because the years of a timestamp lie within 2^18 of zero and a day is a second divided by
86400. And the division of words rounds towards zero, where the calendar needs it to round down, so
an instant before 1970 would be put on the day after its own. `div_euclid` corrects for a negative
remainder, which turns the one into the other exactly (`floor_of_tmod`).
-/
import Rendezvous.Proofs.Time.Years

set_option autoImplicit false

namespace Rendezvous.Time

/-! ## Years -/

/-- The years that a timestamp can hold, `DateTime::MIN_UTC` to `MAX_UTC`. -/
def Date.InRange (d : Date) : Prop :=
  -262143 ≤ d.year ∧ d.year ≤ 262142

/-- **Nothing wraps.** The difference of the words is the difference of the numbers, because the
years of a date in range are far from the bounds of 32 bits. -/
theorem yearsSinceInWords_eq {later earlier : Date} (hlater : later.InRange)
    (hearlier : earlier.InRange) :
    (later.yearsSinceInWords earlier).map UInt32.toNat = later.yearsSince earlier := by
  obtain ⟨hlow, hhigh⟩ := hlater
  obtain ⟨hlow', hhigh'⟩ := hearlier
  have hexcess := Date.excess_cases later earlier
  have hcorrection : (if later.month < earlier.month ||
      (later.month == earlier.month && later.day < earlier.day) then 1 else 0) =
        Int32.ofInt (later.excess earlier) := by
    unfold Date.excess
    split
    · rfl
    · rfl
  -- the years are small, so no subtraction leaves the words
  have hyears : (Int32.ofInt later.year - Int32.ofInt earlier.year -
      Int32.ofInt (later.excess earlier)).toInt =
        later.year - earlier.year - later.excess earlier := by
    rw [← Int32.ofInt_sub, ← Int32.ofInt_sub, Int32.toInt_ofInt_of_le (by omega) (by omega)]
  rw [Date.yearsSinceInWords, hcorrection, yearsSince_eq, ← hyears]
  generalize Int32.ofInt later.year - Int32.ofInt earlier.year -
    Int32.ofInt (later.excess earlier) = years
  -- a difference that is negative as a word is negative as a number, and there is no age then
  by_cases hsign : 0 ≤ years
  · have hnonneg : 0 ≤ years.toInt := Int32.le_iff_toInt_le.mp hsign
    rw [if_pos hsign, if_neg (Int.not_lt.mpr hnonneg), Option.map_some,
      Int32.toNat_toUInt32_of_le hsign]
    rfl
  · have hneg : ¬0 ≤ years.toInt := fun h => hsign (Int32.le_iff_toInt_le.mpr h)
    rw [if_neg hsign, if_pos (Int.not_le.mp hneg), Option.map_none]

/-! ## Days and seconds -/

/-- Division towards zero, with the correction for a negative remainder, is division that rounds
down. -/
theorem floor_of_tmod (n : Int) :
    n.tmod 86400 < 0 ∧ n.tdiv 86400 - 1 = n / 86400 ∧ n.tmod 86400 + 86400 = n % 86400 ∨
      ¬n.tmod 86400 < 0 ∧ n.tdiv 86400 = n / 86400 ∧ n.tmod 86400 = n % 86400 := by
  rw [Int.tdiv_eq_ediv, Int.tmod_eq_emod]
  by_cases h : 0 ≤ n ∨ (86400 : Int) ∣ n
  · rw [if_pos h, if_pos h]
    omega
  · rw [if_neg h, if_neg h, show Int.sign 86400 = 1 from rfl,
      show Int.natAbs 86400 = 86400 from rfl]
    omega

/-- **The division comes out right** for every second that fits into a word. So does the day counted
from the first of January of the year one, which is the count `from_num_days_from_ce_opt` takes. -/
theorem toInt_dayInWords (second : Int64) :
    (dayInWords second).toInt = second.toInt / 86400 ∧
      (dayInWords second + 719163).toInt = second.toInt / 86400 + 719163 ∧
      (secondOfDayInWords second).toInt = second.toInt % 86400 := by
  have hlow := second.le_toInt
  have hhigh := second.toInt_lt
  have hdiv : (second / 86400).toInt = second.toInt.tdiv 86400 :=
    Int64.toInt_div_of_ne_right second 86400 (by decide)
  have hmod : (second % 86400).toInt = second.toInt.tmod 86400 := Int64.toInt_mod second 86400
  -- the word division rounds towards zero, so a negative remainder is what has to be corrected
  have hsign : second % 86400 < 0 ↔ second.toInt.tmod 86400 < 0 := by
    rw [Int64.lt_iff_toInt_lt, hmod]
    rfl
  have hday : (dayInWords second).toInt = second.toInt / 86400 := by
    unfold dayInWords
    rcases floor_of_tmod second.toInt with ⟨hneg, hfloor, -⟩ | ⟨hnot, hfloor, -⟩
    · rw [if_pos (hsign.mpr hneg), Int64.toInt_sub, hdiv, show Int64.toInt 1 = 1 from rfl, hfloor]
      exact Int.bmod_eq_of_le_mul_two (by omega) (by omega)
    · rw [if_neg (mt hsign.mp hnot), hdiv, hfloor]
  refine ⟨hday, ?_, ?_⟩
  · rw [Int64.toInt_add, hday, show Int64.toInt 719163 = 719163 from rfl]
    exact Int.bmod_eq_of_le_mul_two (by omega) (by omega)
  · unfold secondOfDayInWords
    rcases floor_of_tmod second.toInt with ⟨hneg, -, hrest⟩ | ⟨hnot, -, hrest⟩
    · rw [if_pos (hsign.mpr hneg), Int64.toInt_add, hmod, show Int64.toInt 86400 = 86400 from rfl,
        hrest]
      exact Int.bmod_eq_of_le_mul_two (by omega) (by omega)
    · rw [if_neg (mt hsign.mp hnot), hmod, hrest]

end Rendezvous.Time
