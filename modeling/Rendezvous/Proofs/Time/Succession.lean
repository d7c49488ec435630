/-
The days of the calendar, one after another.

`Date.ofDays` finds the date of a day from its number in one go. A calendar knows of no numbers:
behind a day comes the next one of its month, behind the last one the first of the next month, and
behind the last month the next year (`Date.next`). The two agree. The day with the next number is
the next day (`ofDays_add_one`), and so a number says how far a day is from 1970-01-01, counted day
by day, forwards or back (`numbered_iff`).

It all comes from one fact. Of two days of the calendar, the one with the smaller number has the
smaller date, by year, month and day (`toDays_lt_iff`). Years and months are the same argument
twice: a part that is over is over before the next one begins.
-/
import Mathlib.Data.Int.Init
import Mathlib.Data.List.GetD
import Rendezvous.Proofs.Time.Calendar

set_option autoImplicit false

namespace Rendezvous.Time

/-! ## The order of dates

As the derived order of the fields year, month and day. -/

instance : LE Date := ⟨fun a b => a.le b = true⟩

instance : LT Date := ⟨fun a b => ¬b ≤ a⟩

instance (a b : Date) : Decidable (a ≤ b) :=
  inferInstanceAs (Decidable (a.le b = true))

instance (a b : Date) : Decidable (a < b) :=
  inferInstanceAs (Decidable (¬b ≤ a))

/-- Dates are compared by year, then by month, then by day. -/
theorem Date.le_iff {a b : Date} :
    a ≤ b ↔ a.year < b.year ∨
      a.year = b.year ∧ (a.month < b.month ∨ a.month = b.month ∧ a.day ≤ b.day) := by
  change a.le b = true ↔ _
  simp only [Date.le, Bool.or_eq_true, Bool.and_eq_true, decide_eq_true_eq, beq_iff_eq]

theorem Date.lt_iff {a b : Date} :
    a < b ↔ a.year < b.year ∨
      a.year = b.year ∧ (a.month < b.month ∨ a.month = b.month ∧ a.day < b.day) := by
  change ¬b ≤ a ↔ _
  rw [Date.le_iff]
  omega

theorem Date.lt_or_eq_or_gt (a b : Date) : a < b ∨ a = b ∨ b < a := by
  obtain ⟨year, month, day⟩ := a
  obtain ⟨year', month', day'⟩ := b
  rw [Date.lt_iff, Date.lt_iff, Date.mk.injEq]
  dsimp only
  omega

/-! ## Months

`daysBeforeMonth` plays the part for months that `yearStart` plays for years. -/

/-- The days of a year that are over before a month. -/
def daysBeforeMonth (year : Int) (month : Nat) : Nat :=
  ((monthLengths year).take (month - 1)).foldr (· + ·) 0

theorem Date.toDays_eq (d : Date) :
    d.toDays = yearStart d.year + daysBeforeMonth d.year d.month + d.day - 1 := rfl

theorem sum_take_succ (ns : List Nat) (i : Nat) :
    (ns.take (i + 1)).foldr (· + ·) 0 = (ns.take i).foldr (· + ·) 0 + ns.getD i 0 := by
  induction ns generalizing i with
  | nil =>
    rw [List.take_nil, List.take_nil]
    rfl
  | cons n ns ih =>
    cases i with
    | zero => exact Nat.add_comm n 0
    | succ i =>
      rw [List.take_succ_cons, List.take_succ_cons, List.foldr_cons, List.foldr_cons, ih,
        List.getD_cons_succ, Nat.add_assoc]

/-- **A month starts when the one before it is over.** -/
theorem daysBeforeMonth_succ (year : Int) {month : Nat} (h : 1 ≤ month) :
    daysBeforeMonth year (month + 1) = daysBeforeMonth year month + monthLength year month := by
  obtain ⟨i, rfl⟩ := Nat.exists_eq_add_of_le' h
  rw [daysBeforeMonth, daysBeforeMonth, monthLength, if_neg (Nat.succ_ne_zero i),
    Nat.add_sub_cancel, Nat.add_sub_cancel, sum_take_succ]

theorem daysBeforeMonth_le {year : Int} {month later : Nat} (h : month ≤ later) :
    daysBeforeMonth year month ≤ daysBeforeMonth year later := by
  induction h with
  | refl => exact Nat.le_refl _
  | @step later _ ih =>
    refine Nat.le_trans ih ?_
    cases later with
    | zero => exact Nat.le_refl _
    | succ i =>
      rw [daysBeforeMonth_succ year (Nat.succ_pos i)]
      exact Nat.le_add_right _ _

/-- After the last month the year is over. -/
theorem daysBeforeMonth_thirteen (year : Int) : daysBeforeMonth year 13 = yearLength year :=
  sum_monthLengths year

/-! ## Days of the calendar

A `NaiveDate` is always a day of the calendar. Here a date is three numbers, and `exists` tells
whether there is such a day. -/

/-- A day of the calendar is in one of the twelve months, and within it. -/
theorem Date.bounds_of_exists {d : Date} (h : d.exists = true) :
    1 ≤ d.month ∧ d.month ≤ 12 ∧ 1 ≤ d.day ∧ d.day ≤ monthLength d.year d.month := by
  simp only [Date.exists, Bool.and_eq_true, decide_eq_true_eq] at h
  have hlength : 1 ≤ monthLength d.year d.month := Nat.le_trans h.1 h.2
  rw [monthLength] at hlength
  split at hlength
  · exact absurd hlength (by decide)
  · refine ⟨by omega, ?_, h⟩
    refine Nat.le_of_not_lt fun hmonth => ?_
    -- there is no thirteenth month
    have hlast : (monthLengths d.year).length ≤ d.month - 1 := show 12 ≤ d.month - 1 by omega
    rw [List.getD_eq_default _ _ hlast] at hlength
    exact absurd hlength (by decide)

/-- A day is in its month. -/
theorem Date.toDays_bounds {d : Date} (h : d.exists = true) :
    yearStart d.year + daysBeforeMonth d.year d.month ≤ d.toDays ∧
      d.toDays < yearStart d.year + daysBeforeMonth d.year (d.month + 1) := by
  obtain ⟨hmonth, -, hday, hlast⟩ := Date.bounds_of_exists h
  rw [Date.toDays_eq, daysBeforeMonth_succ d.year hmonth]
  omega

/-- Of two days, the one with the smaller date has the smaller number: its year or its month is over
before the other one's begins, or they differ in the day. -/
theorem Date.toDays_lt_of_lt {a b : Date} (ha : a.exists = true) (hb : b.exists = true)
    (h : a < b) : a.toDays < b.toDays := by
  obtain ⟨-, hover⟩ := Date.toDays_bounds ha
  obtain ⟨hbegun, -⟩ := Date.toDays_bounds hb
  obtain ⟨-, htwelve, -, -⟩ := Date.bounds_of_exists ha
  have hlast : daysBeforeMonth a.year (a.month + 1) ≤ yearLength a.year := by
    rw [← daysBeforeMonth_thirteen]
    exact daysBeforeMonth_le (Nat.succ_le_succ htwelve)
  rcases Date.lt_iff.mp h with hyear | ⟨hyear, hmonth | ⟨hmonth, hday⟩⟩
  · -- the year of the first is over when that of the second begins
    have hnext := yearStart_succ a.year
    have hle := yearStart_le_add (a.year + 1) (b.year - (a.year + 1)).toNat
    rw [show a.year + 1 + ((b.year - (a.year + 1)).toNat : Int) = b.year by omega] at hle
    omega
  · have hle : daysBeforeMonth a.year (a.month + 1) ≤ daysBeforeMonth a.year b.month :=
      daysBeforeMonth_le hmonth
    rw [← hyear] at hbegun
    omega
  · rw [Date.toDays_eq, Date.toDays_eq, hyear, hmonth]
    omega

/-- **The numbers of days are in the order of their dates.** -/
theorem Date.toDays_lt_iff {a b : Date} (ha : a.exists = true) (hb : b.exists = true) :
    a.toDays < b.toDays ↔ a < b := by
  refine ⟨fun hlt => ?_, Date.toDays_lt_of_lt ha hb⟩
  rcases Date.lt_or_eq_or_gt a b with h | rfl | h
  · exact h
  · exact absurd hlt (Int.lt_irrefl _)
  · have hgt := Date.toDays_lt_of_lt hb ha h
    omega

/-- A day of the calendar is the one with its number. Of two days with one number neither has the
smaller date. -/
theorem ofDays_toDays {d : Date} (h : d.exists = true) : Date.ofDays d.toDays = d := by
  have hnumber : (Date.ofDays d.toDays).toDays = d.toDays := toDays_ofDays _
  rcases Date.lt_or_eq_or_gt (Date.ofDays d.toDays) d with hlt | heq | hgt
  · have := Date.toDays_lt_of_lt (exists_ofDays _) h hlt
    omega
  · exact heq
  · have := Date.toDays_lt_of_lt h (exists_ofDays _) hgt
    omega

theorem ofDays_lt_iff {m n : Int} : Date.ofDays m < Date.ofDays n ↔ m < n := by
  rw [← Date.toDays_lt_iff (exists_ofDays m) (exists_ofDays n), toDays_ofDays, toDays_ofDays]

/-! ## The next day

Counting days one by one needs no arithmetic of years, so it tells which day a number should lead
to. -/

/-- The day behind a day of the calendar. -/
def Date.next (d : Date) : Date :=
  if d.day < monthLength d.year d.month then { d with day := d.day + 1 }
  else if d.month < 12 then ⟨d.year, d.month + 1, 1⟩
  else ⟨d.year + 1, 1, 1⟩

/-- What the next day can be: in the same month, the first of a month, or the first of a year. Each
case tells when it applies, so that the numbers can be compared without unfolding `next`. -/
theorem Date.next_cases {d : Date} (h : d.exists = true) :
    (d.day < monthLength d.year d.month ∧ d.next = ⟨d.year, d.month, d.day + 1⟩) ∨
    (d.day = monthLength d.year d.month ∧ d.month < 12 ∧ d.next = ⟨d.year, d.month + 1, 1⟩) ∨
    (d.day = monthLength d.year d.month ∧ d.month = 12 ∧ d.next = ⟨d.year + 1, 1, 1⟩) := by
  obtain ⟨-, hmonth, -, hday⟩ := Date.bounds_of_exists h
  rcases Nat.lt_or_eq_of_le hday with hday | hday
  · exact .inl ⟨hday, if_pos hday⟩
  · have hnot : ¬d.day < monthLength d.year d.month := by omega
    rcases Nat.lt_or_eq_of_le hmonth with hmonth | hmonth
    · refine .inr (.inl ⟨hday, hmonth, ?_⟩)
      rw [Date.next, if_neg hnot, if_pos hmonth]
    · refine .inr (.inr ⟨hday, hmonth, ?_⟩)
      rw [Date.next, if_neg hnot, if_neg (by omega)]

/-- Every month has a first day. -/
theorem monthLength_pos (year : Int) {month : Nat} (h : 1 ≤ month) (h' : month ≤ 12) :
    1 ≤ monthLength year month := by
  have hall : ∀ n ∈ monthLengths year, 1 ≤ n := by
    unfold monthLengths
    cases isLeap year with
    | true => decide
    | false => decide
  have hlt : month - 1 < (monthLengths year).length := show month - 1 < 12 by omega
  rw [monthLength, if_neg (by omega), List.getD_eq_getElem _ _ hlt]
  exact hall _ (List.getElem_mem hlt)

theorem Date.exists_next {d : Date} (h : d.exists = true) : d.next.exists = true := by
  obtain ⟨hmonth, -, -, -⟩ := Date.bounds_of_exists h
  rcases Date.next_cases h with ⟨hday, heq⟩ | ⟨-, hlast, heq⟩ | ⟨-, -, heq⟩
  · rw [heq]
    simp only [Date.exists, Bool.and_eq_true, decide_eq_true_eq]
    omega
  · have hpos : 1 ≤ monthLength d.year (d.month + 1) :=
      monthLength_pos d.year (by omega) (by omega)
    rw [heq]
    simp only [Date.exists, Bool.and_eq_true, decide_eq_true_eq]
    omega
  · rw [heq]
    rfl

/-- **The next day has the next number.** The cases are those of `next`: inside a month, at the end
of a month, and at the end of the year. -/
theorem Date.toDays_next {d : Date} (h : d.exists = true) : d.next.toDays = d.toDays + 1 := by
  obtain ⟨hmonth, -, -, -⟩ := Date.bounds_of_exists h
  have hsucc := daysBeforeMonth_succ d.year hmonth
  rcases Date.next_cases h with ⟨-, heq⟩ | ⟨hday, -, heq⟩ | ⟨hday, hlast, heq⟩
  · rw [heq, Date.toDays_eq, Date.toDays_eq]
    dsimp only
    omega
  · rw [heq, Date.toDays_eq, Date.toDays_eq]
    dsimp only
    omega
  · -- the days of the last month are the last ones of the year
    have hyear := yearStart_succ d.year
    have hfirst : daysBeforeMonth (d.year + 1) 1 = 0 := rfl
    rw [hlast, daysBeforeMonth_thirteen] at hsucc
    rw [heq, Date.toDays_eq, Date.toDays_eq]
    dsimp only
    rw [hfirst, hlast]
    rw [hlast] at hday
    omega

/-- **The day with the next number is the next day.** -/
theorem ofDays_add_one (n : Int) : Date.ofDays (n + 1) = (Date.ofDays n).next := by
  have hexists := exists_ofDays n
  calc Date.ofDays (n + 1)
      = Date.ofDays (Date.ofDays n).next.toDays := by
        rw [Date.toDays_next hexists, toDays_ofDays]
    _ = (Date.ofDays n).next := ofDays_toDays (Date.exists_next hexists)

/-- A day, and how far it is from 1970-01-01: days are counted one by one, forwards and back. -/
inductive Date.Numbered : Int → Date → Prop
  | epoch : Numbered 0 ⟨1970, 1, 1⟩
  | forwards {n : Int} {d : Date} : Numbered n d → Numbered (n + 1) d.next
  | back {n : Int} {d : Date} : d.exists = true → Numbered (n + 1) d.next → Numbered n d

/-- **Counting leads to the day with the number**, and to no other. Counting day by day from the
first one needs no arithmetic at all, so it can serve as the definition that the arithmetic is
measured against. -/
theorem Date.numbered_iff {n : Int} {d : Date} : Date.Numbered n d ↔ d = Date.ofDays n := by
  constructor
  · intro h
    induction h with
    | epoch => rfl
    | forwards _ ih => rw [ofDays_add_one, ← ih]
    | back hexists _ ih =>
      -- two days with the same next day have the same number
      have hnumber := congrArg Date.toDays ih
      rw [Date.toDays_next hexists, toDays_ofDays, Int.add_left_inj] at hnumber
      rw [← hnumber, ofDays_toDays hexists]
  · rintro rfl
    induction n using Int.induction_on with
    | zero => exact .epoch
    | succ n ih =>
      rw [ofDays_add_one]
      exact .forwards ih
    | pred n ih =>
      refine .back (exists_ofDays _) ?_
      rwa [← ofDays_add_one, Int.sub_add_cancel]

end Rendezvous.Time
