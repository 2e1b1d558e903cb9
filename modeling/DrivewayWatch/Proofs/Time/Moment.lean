import DrivewayWatch.Proofs.Time.Elapsed

/-!
# Moments

Points in time read as plain numbers: no leap seconds, and no end of the
calendar.  Moving two moments by one duration keeps the time between them, and
so it is with instants away from leap seconds.
-/

namespace DrivewayWatch

/-- A whole number of nanoseconds before or after some fixed point. -/
structure Moment where
  nanosecond : Int
  deriving Repr, DecidableEq

namespace Moment

instance : LT Moment := ⟨fun a b => a.nanosecond < b.nanosecond⟩

instance : Timeline Moment where
  since later earlier := ⟨later.nanosecond - earlier.nanosecond⟩
  later moment duration := ⟨moment.nanosecond + duration.nanoseconds⟩
  inSeconds? moment seconds :=
    some ⟨moment.nanosecond + (Duration.seconds seconds).nanoseconds⟩
  decidableLT := fun a b =>
    inferInstanceAs (Decidable (a.nanosecond < b.nanosecond))

theorem since_later_later (first second : Moment) (shift : Duration) :
    Timeline.since (Timeline.later first shift)
        (Timeline.later second shift) =
      Timeline.since first second := by
  change Duration.mk (first.nanosecond + shift.nanoseconds -
      (second.nanosecond + shift.nanoseconds)) =
    ⟨first.nanosecond - second.nanosecond⟩
  rw [Int.add_sub_add_right]

end Moment

namespace Instant

theorem isLeap_carry (second nanosecond : Int) :
    (carry second nanosecond).isLeap = false := by
  refine decide_eq_false ?_
  simp only [carry]
  omega

/-- The nanoseconds from the beginning of 1970, leap seconds not counted. -/
def count (instant : Instant) : Int :=
  instant.second * 1000000000 + instant.nanosecond

theorem count_carry (second nanosecond : Int) :
    (carry second nanosecond).count = second * 1000000000 + nanosecond := by
  simp only [count, carry]
  omega

variable {first second : Instant}

theorem since_of_not_leap (firstPlain : first.isLeap = false)
    (secondPlain : second.isLeap = false) :
    since first second = ⟨first.count - second.count⟩ := by
  have elapsed : (since first second).nanoseconds =
      first.count - second.count := by
    rw [nanoseconds_since_of_not_leap secondPlain firstPlain, count, count]
    omega
  exact congrArg Duration.mk elapsed

theorem later_of_not_leap (plain : first.isLeap = false) (shift : Duration) :
    first.later shift =
      carry (first.second + shift.nanoseconds.tdiv 1000000000)
        (first.nanosecond + shift.nanoseconds.tmod 1000000000) := by
  simp [later, plain]

theorem count_later_of_not_leap (plain : first.isLeap = false)
    (shift : Duration) :
    (first.later shift).count = first.count + shift.nanoseconds := by
  have parts := Int.mul_tdiv_add_tmod shift.nanoseconds 1000000000
  rw [later_of_not_leap plain, count_carry, count]
  omega

theorem since_later_later_of_not_leap (firstPlain : first.isLeap = false)
    (secondPlain : second.isLeap = false) (shift : Duration) :
    Timeline.since (Timeline.later first shift)
        (Timeline.later second shift) =
      Timeline.since first second := by
  change since (first.later shift) (second.later shift) = since first second
  have firstMoved : (first.later shift).isLeap = false := by
    rw [later_of_not_leap firstPlain, isLeap_carry]
  have secondMoved : (second.later shift).isLeap = false := by
    rw [later_of_not_leap secondPlain, isLeap_carry]
  rw [since_of_not_leap firstMoved secondMoved,
    since_of_not_leap firstPlain secondPlain,
    count_later_of_not_leap firstPlain, count_later_of_not_leap secondPlain,
    Int.add_sub_add_right]

end Instant

end DrivewayWatch
