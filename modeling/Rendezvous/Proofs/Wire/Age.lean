/-
How old a member is: `UserProfile::age_on`.

The age is the count of whole years from the day of birth, and there is none before that day. All
that is to be known about the count is in `Proofs/Time/Years`; what is added here is that an age is
counted from the day of the birth date in UTC, whatever the time of day, and that counting in words
of 32 bits, which is what the age is returned in, comes out the same for every day that a timestamp
can have.
-/
import Rendezvous.Proofs.Time.Timestamp
import Rendezvous.Proofs.Time.Words
import Rendezvous.Wire.Profile

set_option autoImplicit false

namespace Rendezvous.Wire

open Time (Date Timestamp)

/-! ## The age of a member -/

/-- The age is counted from the day of the birth date, whatever its time of day. -/
theorem ageOn_of_birthDate {p : Profile} {t : Timestamp} (h : p.birthDate = some t) (today : Date) :
    p.ageOn today = today.yearsSince t.date := by
  rw [Profile.ageOn, h]
  rfl

/-- **The age of a member.** With the day of birth at (y, m, d), the age is `k` if and only if today
is not before (y + k, m, d) and is before (y + k + 1, m, d), and there is none if and only if today
is before the day of birth. So the age never falls, and from one day to the next it grows on the
birthday only, and by one; each year has one birthday. The `u32` that `age_on` returns holds it. -/
theorem ageOn_counts_birthdays {p : Profile} {t : Timestamp} (hbirth : p.birthDate = some t)
    {today : Date} (htoday : today.exists = true) :
    (∀ k : Nat, p.ageOn today = some k ↔
      t.date.inYear (t.date.year + k) ≤ today ∧ today < t.date.inYear (t.date.year + k + 1)) ∧
    (p.ageOn today = none ↔ today < t.date) ∧
    (∀ (k : Nat) (later : Date), today ≤ later → p.ageOn today = some k →
      ∃ k', p.ageOn later = some k' ∧ k ≤ k') ∧
    (∀ k : Nat, p.ageOn today = some k →
      p.ageOn today.next = some (if today.next.IsBirthdayOf t.date then k + 1 else k)) ∧
    (∀ year : Int, ∃ birthday : Date, ∀ day : Date,
      (day.exists = true ∧ day.year = year ∧ day.IsBirthdayOf t.date) ↔ day = birthday) ∧
    (today.InRange → (today.yearsSinceInWords t.date).map UInt32.toNat = p.ageOn today) := by
  -- the date of an instant is a day of the calendar, as the lemmas about birthdays need
  have hexists : t.date.exists = true := Time.exists_ofDays _
  simp only [ageOn_of_birthDate hbirth]
  refine ⟨fun k => Time.yearsSince_eq_some_iff, Time.yearsSince_eq_none_iff, ?_, ?_, ?_, ?_⟩
  · intro k later hle hk
    exact Time.yearsSince_mono hle hk
  · intro k hk
    exact Time.yearsSince_next htoday hexists hk
  · intro year
    exact Time.exists_birthday_iff hexists year
  · intro hrange
    exact Time.yearsSinceInWords_eq hrange t.year_bounds

/-- Noon of 29 February 2000. -/
def leapNoon : Timestamp where
  second := 951825600
  nano := 0
  first_le := by decide
  le_last := by decide
  nano_lt := by decide

/-- A member who was born then. -/
def bornOnLeapDay : Profile where
  id := "u1"
  email := "ada@example.com"
  displayName := none
  bio := none
  birthDate := some leapNoon
  gender := none
  interests := []
  photos := []

/-- In 2023, which has no 29 February, the member is a year older on 1 March, and not on the day
before. -/
theorem ageOn_counts_birthdays_leapDay :
    bornOnLeapDay.birthDate = some leapNoon ∧ leapNoon.date = ⟨2000, 2, 29⟩ ∧
      (⟨2023, 2, 28⟩ : Date).exists = true ∧
      bornOnLeapDay.ageOn ⟨2023, 2, 28⟩ = some 22 ∧ bornOnLeapDay.ageOn ⟨2023, 3, 1⟩ = some 23 := by
  have htoday : (⟨2023, 2, 28⟩ : Date).exists = true := by decide
  obtain ⟨hage, -, -, hnext, -, -⟩ :=
    ageOn_counts_birthdays (show bornOnLeapDay.birthDate = some leapNoon from rfl) htoday
  have hbefore : bornOnLeapDay.ageOn ⟨2023, 2, 28⟩ = some 22 :=
    (hage 22).mpr ⟨by decide, by decide⟩
  have hafter := hnext 22 hbefore
  rw [if_pos (by decide)] at hafter
  exact ⟨rfl, by decide, htoday, hbefore, hafter⟩

end Rendezvous.Wire
