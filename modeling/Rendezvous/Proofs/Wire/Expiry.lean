/-
The end of a session, as `TokenPair::expiry` gives it.

The service sends `expires_at` in seconds from 1970-01-01T00:00:00Z, as any number that fits into an
`i64`. There is a timestamp for it if and only if the year is one that timestamps have, and then it
is this second to the nanosecond: its text has the day that counting leads to, and what dividing the
second by 86400 leaves as its time of day (`shows_of_nano_eq`). The division rounds down, before
1970 too, and in words of 64 bits it comes out the same (`toInt_dayInWords`).
-/
import Rendezvous.Proofs.Time.Succession
import Rendezvous.Proofs.Time.Timestamp
import Rendezvous.Proofs.Time.Words
import Rendezvous.Proofs.Wire.RoundTrip

set_option autoImplicit false

namespace Rendezvous.Time

open Decimal (padded)

/-! ## The timestamp of a second

What a timestamp without a part of a second shows, whatever second it is. -/

/-- A timestamp is a second on a day, and shows it: it has no part of a second, its text is the date
and the time of day, and its text is read as the timestamp, with either way to write the offset. -/
structure Timestamp.Shows (t : Timestamp) (second : Int) (day : Date) : Prop where
  second_eq : t.second = second
  nano_eq : t.nano = 0
  date_eq : t.date = day
  secondOfDay_eq : (t.secondOfDay : Int) = second % 86400
  civilText_eq : ∃ h m s : Nat, h < 24 ∧ m < 60 ∧ s < 60 ∧
    ((h * 3600 + m * 60 + s : Nat) : Int) = second % 86400 ∧
    t.civilText = day.text ++ 'T' :: (padded 2 h ++ ':' :: (padded 2 m ++ ':' :: padded 2 s))
  parse_text : Timestamp.parse t.text.toList = .ok t
  parse_textWithOffset : Timestamp.parse t.textWithOffset.toList = .ok t

theorem Timestamp.secondOfDay_eq (t : Timestamp) : (t.secondOfDay : Int) = t.second % 86400 := by
  unfold Timestamp.secondOfDay
  omega

/-- A whole second is no leap second, so the condition under which a text is read back is met. -/
theorem Timestamp.leapEndsMinute_of_nano_eq {t : Timestamp} (h : t.nano = 0) :
    t.LeapEndsMinute := by
  intro hle
  rw [h] at hle
  exact absurd hle (by decide)

/-- A timestamp with no part of a second shows its second, on the day that counting from 1970-01-01
leads to. -/
theorem Timestamp.shows_of_nano_eq {t : Timestamp} (h : t.nano = 0) :
    t.Shows t.second (Date.ofDays (t.second / 86400)) where
  second_eq := rfl
  nano_eq := h
  date_eq := rfl
  secondOfDay_eq := t.secondOfDay_eq
  civilText_eq := by
    have hofDay := t.secondOfDay_eq
    refine ⟨t.hour, t.minute, t.secondOfDay % 60, ?_, ?_, Nat.mod_lt _ (by decide), ?_, ?_⟩
    · unfold Timestamp.hour
      omega
    · unfold Timestamp.minute
      omega
    · rw [← hofDay]
      unfold Timestamp.hour Timestamp.minute
      omega
    · -- without nanoseconds there is no fraction and no sixtieth second
      have hnone : fractionText (0 % nanosPerSecond) = [] := rfl
      have hzero : 0 / nanosPerSecond = 0 := rfl
      rw [Timestamp.civilText, Timestamp.clock, h, hnone, hzero, Nat.add_zero]
      simp only [List.append_assoc, List.cons_append, List.append_nil]
      rfl
  parse_text := parse_text (leapEndsMinute_of_nano_eq h)
  parse_textWithOffset := parse_textWithOffset (leapEndsMinute_of_nano_eq h)

/-- There is a timestamp for a second exactly if its year is one that timestamps have. The bounds on
the second are the starts of two years, so they turn into bounds on the year. -/
theorem Timestamp.isSome_of?_iff (second : Int) :
    (Timestamp.of? second 0).isSome = true ↔
      -262143 ≤ (Date.ofDays (second / 86400)).year ∧
        (Date.ofDays (second / 86400)).year ≤ 262142 := by
  -- the first and the last second are those of the first and the last year
  have hfirst : yearStart (-262143) * 86400 = firstSecond := by decide
  have hlast : yearStart (262142 + 1) * 86400 = lastSecond + 1 := by decide
  have hyear : (Date.ofDays (second / 86400)).year = yearOf (second / 86400) := rfl
  rw [hyear, yearOf_bounds_iff]
  unfold Timestamp.of?
  split
  · rename_i h
    simp only [Option.isSome_some, true_iff]
    omega
  · rename_i h
    have hout : ¬(firstSecond ≤ second ∧ second ≤ lastSecond) := fun hin =>
      h ⟨hin, by decide⟩
    simp only [Option.isSome_none, Bool.false_eq_true, false_iff]
    omega

theorem Timestamp.of?_eq_some {second : Int} {t : Timestamp} (h : Timestamp.of? second 0 = some t) :
    t.second = second ∧ t.nano = 0 := by
  unfold Timestamp.of? at h
  split at h
  · rw [← Option.some.inj h]
    exact ⟨rfl, rfl⟩
  · cases h

/-- One timestamp is earlier than another: by its date, then by the second of the day. -/
def Timestamp.Earlier (t u : Timestamp) : Prop :=
  t.date < u.date ∨ t.date = u.date ∧ t.secondOfDay < u.secondOfDay

theorem Timestamp.earlier_of_second_lt {t u : Timestamp} (h : t.second < u.second) :
    t.Earlier u := by
  have ht := t.secondOfDay_eq
  have hu := u.secondOfDay_eq
  by_cases hday : t.second / 86400 < u.second / 86400
  · exact .inl (ofDays_lt_iff.mpr hday)
  · refine .inr ⟨?_, by omega⟩
    rw [Timestamp.date, Timestamp.date, show t.second / 86400 = u.second / 86400 by omega]

end Rendezvous.Time

namespace Rendezvous.Wire

open Time (Date Timestamp)

/-! ## The end of a session

The second is any `i64`, so most of them have no timestamp, and `expiry` is `None` there. -/

theorem TokenPair.expiry_eq_some {p : TokenPair} {t : Timestamp} (h : p.expiry = some t) :
    t.second = p.expiresAt.toInt ∧ t.nano = 0 :=
  Timestamp.of?_eq_some h

/-- **The end of a session is the instant that the service gave.** Counting from 1970-01-01 leads to
one day. There is a timestamp if and only if the year of this day is one that timestamps have, and
then it shows the second on this day and is decoded as the same timestamp. A day later it is the
next day at the same time, a later end is a later timestamp, and the division into days is right in
words of 64 bits. -/
theorem expiry_is_its_instant (p : TokenPair) :
    ∃ day : Date, (∀ d, Date.Numbered (p.expiresAt.toInt / 86400) d ↔ d = day) ∧
      (p.expiry.isSome = true ↔ -262143 ≤ day.year ∧ day.year ≤ 262142) ∧
      (∀ t, p.expiry = some t → t.Shows p.expiresAt.toInt day ∧
        instant.decode (Text.Utf8.bytes (instant.encode t)) = .ok t) ∧
      (∀ (q : TokenPair) (t u : Timestamp), p.expiry = some t → q.expiry = some u →
        (q.expiresAt.toInt = p.expiresAt.toInt + 86400 →
          u.date = t.date.next ∧ u.secondOfDay = t.secondOfDay) ∧
        (p.expiresAt < q.expiresAt → t.Earlier u)) ∧
      (Time.dayInWords p.expiresAt).toInt = p.expiresAt.toInt / 86400 ∧
      (Time.dayInWords p.expiresAt + 719163).toInt = p.expiresAt.toInt / 86400 + 719163 ∧
      (Time.secondOfDayInWords p.expiresAt).toInt = p.expiresAt.toInt % 86400 := by
  refine ⟨Date.ofDays (p.expiresAt.toInt / 86400), fun d => Date.numbered_iff,
    Timestamp.isSome_of?_iff _, ?_, ?_, Time.toInt_dayInWords p.expiresAt⟩
  · intro t ht
    obtain ⟨hsecond, hnano⟩ := TokenPair.expiry_eq_some ht
    refine ⟨?_, (recovers_instant (Timestamp.leapEndsMinute_of_nano_eq hnano)).decode_encode⟩
    rw [← hsecond]
    exact Timestamp.shows_of_nano_eq hnano
  · intro q t u ht hu
    obtain ⟨hsecond, -⟩ := TokenPair.expiry_eq_some ht
    obtain ⟨hsecond', -⟩ := TokenPair.expiry_eq_some hu
    constructor
    · intro hnext
      -- a day later is the next day number at the same second of it
      have hday : u.second / 86400 = t.second / 86400 + 1 := by omega
      refine ⟨?_, ?_⟩
      · rw [Timestamp.date, hday, Time.ofDays_add_one]
        rfl
      · have hofDay := t.secondOfDay_eq
        have hofDay' := u.secondOfDay_eq
        omega
    · intro hlt
      apply Timestamp.earlier_of_second_lt
      rw [hsecond, hsecond']
      exact Int64.lt_iff_toInt_lt.mp hlt

/-- The last second that has a timestamp, and the first one that has none. -/
example : (TokenPair.mk "a" "r" 8210266876799).expiry.isSome = true ∧
    (TokenPair.mk "a" "r" 8210266876800).expiry = none := by decide

end Rendezvous.Wire
