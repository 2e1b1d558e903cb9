import DrivewayWatch.Time.Instant
import Mathlib.Tactic.Common

/-!
# Elapsed time

The time from one instant to a later one is not negative and grows with the
later one, but only away from leap seconds.  A leap second has no number of its
own, so the instants of the second after it may seem to lie before it.  Where
the day ends between the two, no correction is made, and an elapsed time can
even be negative: `since_neg_iff` says exactly when, and
`nonneg_since_iff_of_lt` when the time to an earlier instant is not.
-/

namespace DrivewayWatch

namespace Instant

/-- An instant is proper if its fraction is less than two seconds and a leap
second is the last second of its minute. -/
structure IsProper (instant : Instant) : Prop where
  fraction_lt : instant.nanosecond < 2000000000
  ends_minute : instant.isLeap = true → instant.second % 60 = 59

theorem lt_iff (first second : Instant) :
    first < second ↔
      first.second < second.second ∨
        (first.second = second.second ∧
          first.nanosecond < second.nanosecond) := by
  change isBefore first second = true ↔ _
  simp [isBefore]

theorem not_lt_self (instant : Instant) : ¬ instant < instant := by
  simp [lt_iff]

theorem not_lt_trans {first second third : Instant}
    (inOrder : ¬ second < first) (laterInOrder : ¬ third < second) :
    ¬ third < first := by
  rw [lt_iff] at *
  omega

/-- The time from an instant to one that is not before it is negative in one
case: the first lies in a leap second at the end of a day, and the other one in
the first second of the next day, but at a lesser fraction of it. -/
theorem since_neg_iff {earlier later : Instant}
    (earlierProper : earlier.IsProper) (laterProper : later.IsProper)
    (inOrder : ¬ later < earlier) :
    (since later earlier).nanoseconds < 0 ↔
      earlier.isLeap = true ∧ earlier.secondOfDay = 86399 ∧
        later.second = earlier.second + 1 ∧
        later.nanosecond + 1000000000 < earlier.nanosecond := by
  obtain ⟨earlierFraction, earlierMinute⟩ := earlierProper
  obtain ⟨laterFraction, laterMinute⟩ := laterProper
  rw [lt_iff] at inOrder
  simp only [since, isLeap, secondOfDay, decide_eq_true_eq] at *
  split_ifs <;> omega

/-- From the first second of a day one goes back to the leap second before it,
at no lesser fraction of the second. -/
structure ReturnsToLeap (first second : Instant) : Prop where
  isLeap : second.isLeap = true
  ends_day : second.secondOfDay = 86399
  next_second : first.second = second.second + 1
  fraction_le : first.nanosecond + 1000000000 ≤ second.nanosecond

/-- The time from an instant to an earlier one is negative but in one case. -/
theorem nonneg_since_iff_of_lt {first second : Instant}
    (firstProper : first.IsProper) (secondProper : second.IsProper)
    (goesBack : second < first) :
    0 ≤ (since second first).nanoseconds ↔ first.ReturnsToLeap second := by
  obtain ⟨firstFraction, firstMinute⟩ := firstProper
  obtain ⟨secondFraction, secondMinute⟩ := secondProper
  have returns_iff : first.ReturnsToLeap second ↔
      second.isLeap = true ∧ second.secondOfDay = 86399 ∧
        first.second = second.second + 1 ∧
        first.nanosecond + 1000000000 ≤ second.nanosecond :=
    ⟨fun ⟨leap, ends, next, fraction⟩ => ⟨leap, ends, next, fraction⟩,
      fun ⟨leap, ends, next, fraction⟩ => ⟨leap, ends, next, fraction⟩⟩
  rw [lt_iff] at goesBack
  rw [returns_iff]
  simp only [since, Instant.isLeap, secondOfDay, decide_eq_true_eq] at *
  split_ifs <;> omega

/-- Only from an earlier instant a whole second has passed. -/
theorem lt_of_second_le_since {earlier later : Instant}
    (fraction : later.nanosecond < 2000000000)
    (secondPassed : .seconds 1 ≤ since later earlier) : earlier < later := by
  have atLeast : 1 * 1000000000 ≤ (since later earlier).nanoseconds :=
    secondPassed
  rw [lt_iff]
  simp only [since, isLeap, secondOfDay, decide_eq_true_eq] at atLeast
  split_ifs at atLeast <;> omega

theorem since_lt_second_of_lt {first second : Instant}
    (secondProper : second.IsProper) (goesBack : second < first) :
    since second first < .seconds 1 := by
  apply Int.not_le.mp
  intro secondPassed
  have inOrder := lt_of_second_le_since secondProper.fraction_lt secondPassed
  rw [lt_iff] at goesBack inOrder
  omega

theorem nanoseconds_since_of_not_leap {earlier later : Instant}
    (earlierPlain : earlier.isLeap = false)
    (laterPlain : later.isLeap = false) :
    (since later earlier).nanoseconds =
      (later.second - earlier.second) * 1000000000 +
        ((later.nanosecond : Int) - earlier.nanosecond) := by
  simp [since, earlierPlain, laterPlain]

/-- Away from leap seconds elapsed time does not shrink. -/
theorem since_le_since_of_not_leap {start sooner later : Instant}
    (startPlain : start.isLeap = false) (soonerPlain : sooner.isLeap = false)
    (laterPlain : later.isLeap = false) (inOrder : ¬ later < sooner) :
    since sooner start ≤ since later start := by
  change (since sooner start).nanoseconds ≤ (since later start).nanoseconds
  rw [nanoseconds_since_of_not_leap startPlain soonerPlain,
    nanoseconds_since_of_not_leap startPlain laterPlain]
  rw [lt_iff] at inOrder
  simp only [isLeap, decide_eq_false_iff_not] at soonerPlain laterPlain
  omega

end Instant

end DrivewayWatch
