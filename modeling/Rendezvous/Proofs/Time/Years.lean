/-
Whole years between two days, as `NaiveDate::years_since` counts them.

`Date.yearsSince` subtracts the years and corrects by one if the month and the day have not been
reached. Without the correction it can be put in this way: the count is `k` as long as the earlier
day, moved ahead by `k` years, has been reached or passed, and moved ahead by one year more it has
not (`yearsSince_eq_some_iff`). This is a comparison of three numbers and nothing more: 29 February,
moved into a year that has none, lies between 28 February and 1 March, and so the year is counted on
1 March.

From one day to the next the count changes on a birthday only, and by one (`yearsSince_next`); each
year has one birthday (`exists_birthday_iff`). Neither follows from the comparison alone, since it
does not know which days there are: the first uses the three ways in which a day follows another one
(`Date.next_cases`), the second whether the year has a 29 February.
-/
import Rendezvous.Proofs.Time.Succession

set_option autoImplicit false

namespace Rendezvous.Time

/-! ## Counting years -/

/-- The same month and day in another year, whether or not the calendar has it. Dates are compared
by their numbers, so one that does not exist still has its place among them. -/
def Date.inYear (d : Date) (year : Int) : Date :=
  { d with year := year }

/-- By how much the years are too far apart: by one if the month and the day have not been
reached. -/
def Date.excess (later earlier : Date) : Int :=
  if later.month < earlier.month ||
    (later.month == earlier.month && later.day < earlier.day) then 1 else 0

theorem Date.excess_cases (later earlier : Date) :
    (later.month < earlier.month ∨ later.month = earlier.month ∧ later.day < earlier.day) ∧
        later.excess earlier = 1 ∨
      ¬(later.month < earlier.month ∨ later.month = earlier.month ∧ later.day < earlier.day) ∧
        later.excess earlier = 0 := by
  unfold Date.excess
  split
  · rename_i h
    rw [Bool.or_eq_true, Bool.and_eq_true, decide_eq_true_eq, decide_eq_true_eq, beq_iff_eq] at h
    exact .inl ⟨h, rfl⟩
  · rename_i h
    rw [Bool.or_eq_true, Bool.and_eq_true, decide_eq_true_eq, decide_eq_true_eq, beq_iff_eq] at h
    exact .inr ⟨h, rfl⟩

theorem yearsSince_eq (later earlier : Date) :
    later.yearsSince earlier =
      if later.year - earlier.year - later.excess earlier < 0 then none
      else some (later.year - earlier.year - later.excess earlier).toNat := rfl

/-- **The age is `k`** if the day of birth, moved ahead by `k` years, has been reached, and not yet
if it is moved ahead by one year more. -/
theorem yearsSince_eq_some_iff {later earlier : Date} {k : Nat} :
    later.yearsSince earlier = some k ↔
      earlier.inYear (earlier.year + k) ≤ later ∧
        later < earlier.inYear (earlier.year + k + 1) := by
  have hexcess := Date.excess_cases later earlier
  rw [yearsSince_eq, Date.le_iff, Date.lt_iff]
  unfold Date.inYear
  dsimp only
  split
  · simp only [reduceCtorEq, false_iff]
    omega
  · rw [Option.some.injEq]
    omega

/-- Years are counted from the day of birth on; before it there is no age. -/
theorem yearsSince_eq_none_iff {later earlier : Date} :
    later.yearsSince earlier = none ↔ later < earlier := by
  have hexcess := Date.excess_cases later earlier
  rw [yearsSince_eq, Date.lt_iff]
  split
  · simp only [true_iff]
    omega
  · simp only [reduceCtorEq, false_iff]
    omega

/-- The count does not fall from one day to a later one. A later year has counted one more, and
inside a year the birthday only passes once. -/
theorem yearsSince_mono {today later birth : Date} (h : today ≤ later) {k : Nat}
    (hk : today.yearsSince birth = some k) : ∃ k', later.yearsSince birth = some k' ∧ k ≤ k' := by
  obtain ⟨hreached, -⟩ := yearsSince_eq_some_iff.mp hk
  rw [Date.le_iff] at hreached h
  unfold Date.inYear at hreached
  dsimp only at hreached
  cases hlater : later.yearsSince birth with
  | none =>
    have hbefore := yearsSince_eq_none_iff.mp hlater
    rw [Date.lt_iff] at hbefore
    omega
  | some k' =>
    obtain ⟨-, hnext⟩ := yearsSince_eq_some_iff.mp hlater
    rw [Date.lt_iff] at hnext
    unfold Date.inYear at hnext
    dsimp only at hnext
    exact ⟨k', rfl, by omega⟩

/-! ## Birthdays -/

/-- A day on which the count of years since a birth goes up: the same day of the year, or 1 March
for 29 February in a year that has none. -/
def Date.IsBirthdayOf (day birth : Date) : Prop :=
  day.month = birth.month ∧ day.day = birth.day ∨
    (birth.month = 2 ∧ birth.day = 29) ∧ isLeap day.year = false ∧ day.month = 3 ∧ day.day = 1

instance (day birth : Date) : Decidable (day.IsBirthdayOf birth) :=
  inferInstanceAs (Decidable (_ ∨ _))

theorem monthLength_february (year : Int) :
    monthLength year 2 = if isLeap year then 29 else 28 := rfl

/-- The other months have the same length every year. -/
theorem monthLength_of_ne {month : Nat} (h : month ≠ 2) (year year' : Int) :
    monthLength year month = monthLength year' month := by
  match month with
  | 0 | 1 => rfl
  | 2 => exact absurd rfl h
  | month + 3 => rfl

/-- A day of one year is missing in another one only if it is 29 February. All other months have the
same length in every year. -/
theorem Date.february_of_not_exists {d : Date} (h : d.exists = true) {year : Int}
    (hnot : (d.inYear year).exists = false) :
    (d.month = 2 ∧ d.day = 29) ∧ isLeap year = false := by
  obtain ⟨-, -, hday, hlast⟩ := Date.bounds_of_exists h
  -- the day exists in its own year, and in the other year the month is shorter
  have hpast : monthLength year d.month < d.day := by
    rw [Date.exists, Bool.and_eq_false_iff, decide_eq_false_iff_not,
      decide_eq_false_iff_not] at hnot
    exact Nat.lt_of_not_le (hnot.resolve_left (not_not_intro hday))
  by_cases hmonth : d.month = 2
  · rw [hmonth, monthLength_february] at hlast hpast
    cases hleap : isLeap year with
    | true =>
      rw [hleap, if_pos rfl] at hpast
      split at hlast <;> omega
    | false =>
      rw [hleap, if_neg Bool.false_ne_true] at hpast
      split at hlast
      · exact ⟨⟨hmonth, by omega⟩, rfl⟩
      · omega
  · rw [monthLength_of_ne hmonth d.year year] at hlast
    omega

/-- **Each year has one birthday**: the day itself if the year has it, and 1 March otherwise. The
second case is what `years_since` comes to, since it compares month and day. -/
theorem exists_birthday_iff {birth : Date} (h : birth.exists = true) (year : Int) :
    ∃ birthday : Date, ∀ day : Date,
      (day.exists = true ∧ day.year = year ∧ day.IsBirthdayOf birth) ↔ day = birthday := by
  cases hexists : (birth.inYear year).exists with
  | true =>
    refine ⟨birth.inYear year, fun day => ⟨?_, ?_⟩⟩
    · rintro ⟨-, hyear, ⟨hmonth, hday⟩ | ⟨⟨hmonth, hday⟩, hleap, -⟩⟩
      · obtain ⟨year', month, d⟩ := day
        simp only at hyear hmonth hday
        rw [hyear, hmonth, hday]
        rfl
      · -- the year has a 29 February, so it is a leap year
        obtain ⟨-, -, -, hlast⟩ := Date.bounds_of_exists hexists
        unfold Date.inYear at hlast
        dsimp only at hlast
        rw [hmonth, hday, monthLength_february, ← hyear, hleap] at hlast
        exact absurd hlast (by decide)
    · rintro rfl
      exact ⟨hexists, rfl, .inl ⟨rfl, rfl⟩⟩
  | false =>
    obtain ⟨⟨hmonth, hday⟩, hleap⟩ := Date.february_of_not_exists h hexists
    refine ⟨⟨year, 3, 1⟩, fun day => ⟨?_, ?_⟩⟩
    · rintro ⟨hday', hyear, ⟨hm, hd⟩ | ⟨-, -, hm, hd⟩⟩
      · have hsame : day = birth.inYear year := by
          obtain ⟨year', month, d⟩ := day
          simp only at hyear hm hd
          rw [hyear, hm, hd]
          rfl
        rw [hsame, hexists] at hday'
        cases hday'
      · obtain ⟨year', month, d⟩ := day
        simp only at hyear hm hd
        rw [hyear, hm, hd]
    · rintro rfl
      exact ⟨rfl, rfl, .inr ⟨⟨hmonth, hday⟩, hleap, rfl, rfl⟩⟩

/-- **The count changes on a birthday only, and by one.** The cases are the three ways in which a
day follows another one. -/
theorem yearsSince_next {today birth : Date} (htoday : today.exists = true)
    (hbirth : birth.exists = true) {k : Nat} (hk : today.yearsSince birth = some k) :
    today.next.yearsSince birth =
      some (if today.next.IsBirthdayOf birth then k + 1 else k) := by
  obtain ⟨-, -, hfirst, -⟩ := Date.bounds_of_exists htoday
  obtain ⟨hm1, hm12, hd1, hdLast⟩ := Date.bounds_of_exists hbirth
  have hd31 : birth.day ≤ 31 := Nat.le_trans hdLast (monthLength_le _ _)
  obtain ⟨hreached, hnot⟩ := yearsSince_eq_some_iff.mp hk
  generalize hcount : (if today.next.IsBirthdayOf birth then k + 1 else k) = k'
  have hstep : today.next.IsBirthdayOf birth ∧ k' = k + 1 ∨
      ¬today.next.IsBirthdayOf birth ∧ k' = k := by
    rw [← hcount]
    split
    · exact .inl ⟨‹_›, rfl⟩
    · exact .inr ⟨‹_›, rfl⟩
  rw [yearsSince_eq_some_iff]
  unfold Date.IsBirthdayOf at hstep
  rw [Date.le_iff] at hreached ⊢
  rw [Date.lt_iff] at hnot ⊢
  unfold Date.inYear at hreached hnot ⊢
  dsimp only at hreached hnot ⊢
  rcases Date.next_cases htoday with ⟨-, heq⟩ | ⟨hday, hmonth, heq⟩ | ⟨hday, hmonth, heq⟩
  · -- within a month
    rw [heq] at hstep ⊢
    dsimp only at hstep ⊢
    grind
  · -- a month is over, and a day of birth behind its end can only be 29 February
    have hend : today.month = birth.month → today.day < birth.day →
        (birth.month = 2 ∧ birth.day = 29) ∧ isLeap today.year = false := by
      intro hsame hpast
      apply Date.february_of_not_exists hbirth
      rw [← Bool.not_eq_true]
      intro hexists
      obtain ⟨-, -, -, hlast⟩ := Date.bounds_of_exists hexists
      unfold Date.inYear at hlast
      dsimp only at hlast
      rw [← hsame] at hlast
      omega
    have hshort : isLeap today.year = false → today.month = 2 → today.day = 28 := by
      intro hleap htwo
      rw [hday, htwo, monthLength_february, hleap]
      rfl
    rw [heq] at hstep ⊢
    dsimp only at hstep ⊢
    grind
  · -- a year is over, and it has been the last day of the year
    have hlast : today.day = 31 := by
      rw [hday, hmonth]
      rfl
    rw [heq] at hstep ⊢
    dsimp only at hstep ⊢
    omega

end Rendezvous.Time
