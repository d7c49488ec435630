/-
The day with a number has that number.

`chrono` keeps a date as a year and a day of the year, and gets from a number of days to it by
cycles of 400 years. Here years have 365 or 366 days, and `yearStart` counts them in closed form
(`yearStart_succ`). Four hundred years have exactly 146097 days, so the closed form stays close to
the straight line with that slope: four hundred times the days before a year differ from 146097
times the year by less than one year's worth (`daysBefore_bounds`). The guess of `yearOf` is taken
from the line, and so it is off by at most one year, which is what the function corrects.

Within a year, `monthAndDay` walks through the lengths; what it has passed and what is left add up
to what it started from at every step.
-/
import Rendezvous.Time.Calendar

set_option autoImplicit false

namespace Rendezvous.Time

/-! ## Years

The Gregorian rule, for all years before and after the year one. -/

/-- The number of days of a year. -/
def yearLength (year : Int) : Nat :=
  if isLeap year then 366 else 365

theorem isLeap_iff (year : Int) :
    isLeap year = true ↔ year % 4 = 0 ∧ (year % 100 ≠ 0 ∨ year % 400 = 0) := by
  simp only [isLeap, Bool.and_eq_true, Bool.or_eq_true, beq_iff_eq, bne_iff_ne]

/-- **A year starts when the one before it is over.** The closed form has three divisions, and of
each of them the remainder decides whether the year is a leap year. -/
theorem yearStart_succ (year : Int) : yearStart (year + 1) = yearStart year + yearLength year := by
  unfold yearStart daysBefore yearLength
  by_cases hleap : isLeap year = true
  · rw [if_pos hleap]
    rw [isLeap_iff] at hleap
    omega
  · rw [if_neg hleap]
    rw [isLeap_iff] at hleap
    omega

theorem yearStart_le_add (year : Int) (n : Nat) : yearStart year ≤ yearStart (year + n) := by
  induction n with
  | zero => exact Int.le_of_eq (by rw [Int.natCast_zero, Int.add_zero])
  | succ n ih =>
    rw [Int.natCast_succ, ← Int.add_assoc, yearStart_succ]
    omega

/-- A year that starts before another one is before it. -/
theorem lt_of_yearStart_lt {a b : Int} (h : yearStart a < yearStart b) : a < b := by
  refine Int.not_le.mp fun hba => ?_
  have hle := yearStart_le_add b (a - b).toNat
  rw [show b + ((a - b).toNat : Int) = a by omega] at hle
  omega

/-- The days before a year follow the mean length of a year, with less than a year's worth of error
over the whole cycle. -/
theorem daysBefore_bounds (year : Int) :
    146097 * (year - 1) - 699 ≤ 400 * daysBefore year ∧
      400 * daysBefore year ≤ 146097 * (year - 1) + 396 := by
  unfold daysBefore
  omega

/-- **The year of a day**: the day is not before its start, and before the next one's. The estimate
by the mean length of a year is off by one at most, and the correction is exact. -/
theorem yearOf_spec (day : Int) :
    yearStart (yearOf day) ≤ day ∧ day < yearStart (yearOf day + 1) := by
  unfold yearOf
  dsimp only
  generalize hguess : 400 * (day + 719162) / 146097 + 1 = guess
  -- on the line the day is in the guessed year; the calendar is off by less than one year
  have hline : 146097 * (guess - 1) ≤ 400 * (day + 719162) ∧
      400 * (day + 719162) < 146097 * guess := by omega
  obtain ⟨hlow, hhigh⟩ := hline
  split
  · rename_i h
    have hnext := daysBefore_bounds (guess + 1 + 1)
    refine ⟨h, ?_⟩
    unfold yearStart
    omega
  · rename_i hnot
    split
    · rename_i h
      exact ⟨h, by omega⟩
    · have hbefore := daysBefore_bounds (guess - 1)
      refine ⟨?_, ?_⟩
      · unfold yearStart
        omega
      · rw [Int.sub_add_cancel]
        omega

/-- A year has begun by a day exactly if its first day has. -/
theorem le_yearOf_iff {year day : Int} : year ≤ yearOf day ↔ yearStart year ≤ day := by
  obtain ⟨hstart, hend⟩ := yearOf_spec day
  constructor
  · intro h
    have hle := yearStart_le_add year (yearOf day - year).toNat
    rw [show year + ((yearOf day - year).toNat : Int) = yearOf day by omega] at hle
    omega
  · intro h
    have hlt : year < yearOf day + 1 := lt_of_yearStart_lt (Int.lt_of_le_of_lt h hend)
    omega

/-- A day belongs to one of the years from one to another if it is one of their days. Timestamps are
bounded in this way. -/
theorem yearOf_bounds_iff {low high day : Int} :
    low ≤ yearOf day ∧ yearOf day ≤ high ↔ yearStart low ≤ day ∧ day < yearStart (high + 1) := by
  have hnext : high + 1 ≤ yearOf day ↔ yearStart (high + 1) ≤ day := le_yearOf_iff
  rw [le_yearOf_iff]
  omega

/-! ## Months

The months of a year are a list of lengths. -/

/-- **What walking through the months finds**: a month of the list and a day of it, with the lengths
of the months before it in front. The induction is on the lengths that are left. -/
theorem monthAndDay_spec (lengths : List Nat) (month : Nat) {rest : Nat}
    (hrest : rest < lengths.foldr (· + ·) 0) :
    ∃ i d, monthAndDay lengths month rest = (month + i, d + 1) ∧ i < lengths.length ∧
      d < lengths.getD i 0 ∧ (lengths.take i).foldr (· + ·) 0 + d = rest := by
  induction lengths generalizing month rest with
  | nil => exact absurd hrest (Nat.not_lt_zero rest)
  | cons n lengths ih =>
    rw [monthAndDay]
    -- the day lies in this month, or its length is taken off and the next month is asked
    by_cases hn : rest < n
    · rw [if_pos hn]
      exact ⟨0, rest, rfl, Nat.zero_lt_succ _, hn, Nat.zero_add rest⟩
    · rw [List.foldr_cons] at hrest
      have hleft : rest - n < lengths.foldr (· + ·) 0 := by omega
      obtain ⟨i, d, heq, hi, hd, hsum⟩ := ih (month + 1) hleft
      rw [if_neg hn]
      refine ⟨i + 1, d, ?_, Nat.succ_lt_succ hi, hd, ?_⟩
      · rw [heq, Nat.add_right_comm, Nat.add_assoc]
      · rw [List.take_succ_cons, List.foldr_cons]
        omega

theorem sum_monthLengths (year : Int) :
    (monthLengths year).foldr (· + ·) 0 = yearLength year := by
  unfold monthLengths yearLength
  cases isLeap year with
  | true => rfl
  | false => rfl

theorem monthLength_le (year : Int) (month : Nat) : monthLength year month ≤ 31 := by
  unfold monthLength
  split
  · exact Nat.zero_le 31
  · have hall : ∀ n ∈ monthLengths year, n ≤ 31 := by
      unfold monthLengths
      cases isLeap year with
      | true => decide
      | false => decide
    rw [List.getD_eq_getElem?_getD]
    cases hget : (monthLengths year)[month - 1]? with
    | none => exact Nat.zero_le 31
    | some n => exact hall n (List.mem_of_getElem? hget)

/-! ## Days -/

/-- The date of a day: its year, and the month and day that its place in the year leads to. The last
equation gives back the number of the day, which makes the date unique. -/
theorem ofDays_spec (day : Int) :
    ∃ i d, Date.ofDays day = ⟨yearOf day, 1 + i, d + 1⟩ ∧ i < 12 ∧
      d < (monthLengths (yearOf day)).getD i 0 ∧
      yearStart (yearOf day) + (((monthLengths (yearOf day)).take i).foldr (· + ·) 0 : Nat) + d =
        day := by
  obtain ⟨hstart, hend⟩ := yearOf_spec day
  rw [yearStart_succ] at hend
  have hrest : (day - yearStart (yearOf day)).toNat <
      (monthLengths (yearOf day)).foldr (· + ·) 0 := by
    rw [sum_monthLengths]
    omega
  obtain ⟨i, d, heq, hi, hd, hsum⟩ := monthAndDay_spec (monthLengths (yearOf day)) 1 hrest
  refine ⟨i, d, ?_, hi, hd, by omega⟩
  unfold Date.ofDays
  dsimp only
  rw [heq]

/-- **The day with a number has that number.** The other direction, that a day of the calendar is
the one with its number, is `ofDays_toDays`; it needs the order of dates. -/
theorem toDays_ofDays (day : Int) : (Date.ofDays day).toDays = day := by
  obtain ⟨i, d, heq, _, _, hsum⟩ := ofDays_spec day
  unfold Date.toDays
  rw [heq]
  dsimp only
  rw [Nat.add_sub_cancel_left]
  omega

example : Date.ofDays 11016 = ⟨2000, 2, 29⟩ ∧ Date.ofDays (-719529) = ⟨-1, 12, 31⟩ := by decide

/-- **The calendar has the day with a number.** -/
theorem exists_ofDays (day : Int) : (Date.ofDays day).exists = true := by
  obtain ⟨i, d, heq, _, hd, _⟩ := ofDays_spec day
  have hlength : monthLength (yearOf day) (1 + i) = (monthLengths (yearOf day)).getD i 0 := by
    rw [monthLength, if_neg (by omega), Nat.add_sub_cancel_left]
  simp only [Date.exists, heq, hlength, Bool.and_eq_true, decide_eq_true_eq]
  omega

theorem month_ofDays (day : Int) : 1 ≤ (Date.ofDays day).month ∧ (Date.ofDays day).month ≤ 12 := by
  obtain ⟨i, d, heq, hi, _, _⟩ := ofDays_spec day
  rw [heq]
  dsimp only
  omega

theorem day_ofDays (day : Int) : 1 ≤ (Date.ofDays day).day ∧ (Date.ofDays day).day ≤ 31 := by
  have hexists := exists_ofDays day
  have hle := monthLength_le (Date.ofDays day).year (Date.ofDays day).month
  simp only [Date.exists, Bool.and_eq_true, decide_eq_true_eq] at hexists
  omega

end Rendezvous.Time
