import DrivewayWatch.Geometry
import DrivewayWatch.Proofs.Number.Rational

/-!
# Sides of a line

Boxes on different sides of a vertical line share no area, whatever their
corners are like, and averages of boxes on one side stay on that side.
-/

namespace DrivewayWatch

/-- The two sides of a vertical line. -/
inductive Side where
  | left
  | right
  deriving Repr, DecidableEq

/-- A box lies on the left of a line if its second corner does not pass the
line, and on the right if its first corner does not.  A box may lie on both
sides. -/
def Side.Holds (side : Side) (line : Rat) (box : Box Rat) : Prop :=
  match side with
  | left => box.b.x ≤ line
  | right => line ≤ box.a.x

instance (side : Side) (line : Rat) (box : Box Rat) :
    Decidable (side.Holds line box) :=
  match side with
  | .left => inferInstanceAs (Decidable (box.b.x ≤ line))
  | .right => inferInstanceAs (Decidable (line ≤ box.a.x))

namespace Box

theorem sharedArea_rational (first second : Box Rat) :
    sharedArea first second =
      max (min first.b.x second.b.x - max first.a.x second.a.x) 0 *
        max (min first.b.y second.b.y - max first.a.y second.a.y) 0 :=
  rfl

theorem overlap_rational (first second : Box Rat) :
    first.overlap second =
      sharedArea first second /
        (first.area + second.area - sharedArea first second) :=
  rfl

theorem sharedArea_comm (first second : Box Rat) :
    sharedArea first second = sharedArea second first := by
  simp only [sharedArea_rational, min_comm first.b.x, max_comm first.a.x,
    min_comm first.b.y, max_comm first.a.y]

theorem sharedArea_eq_zero_of_left_of_right {line : Rat}
    {first second : Box Rat} (firstLeft : Side.left.Holds line first)
    (secondRight : Side.right.Holds line second) :
    sharedArea first second = 0 := by
  have noWidth :
      min first.b.x second.b.x - max first.a.x second.a.x ≤ 0 := by
    have reaches : min first.b.x second.b.x ≤ line :=
      (min_le_left _ _).trans firstLeft
    have begins : line ≤ max first.a.x second.a.x :=
      secondRight.trans (le_max_right _ _)
    linarith
  rw [sharedArea_rational, max_eq_right noWidth, zero_mul]

/-- Boxes on different sides of a line do not overlap. -/
theorem overlap_eq_zero_of_sides {line : Rat} {first second : Box Rat}
    {firstSide secondSide : Side} (differ : firstSide ≠ secondSide)
    (firstHolds : firstSide.Holds line first)
    (secondHolds : secondSide.Holds line second) :
    first.overlap second = 0 := by
  have nothingShared : sharedArea first second = 0 := by
    cases firstSide <;> cases secondSide
    · exact absurd rfl differ
    · exact sharedArea_eq_zero_of_left_of_right firstHolds secondHolds
    · rw [sharedArea_comm]
      exact sharedArea_eq_zero_of_left_of_right secondHolds firstHolds
    · exact absurd rfl differ
  rw [overlap_rational, nothingShared, zero_div]

theorem average_a_x_rational (first second : Box Rat) :
    (first.average second).a.x = (first.a.x + second.a.x) / 2 :=
  rfl

theorem average_b_x_rational (first second : Box Rat) :
    (first.average second).b.x = (first.b.x + second.b.x) / 2 :=
  rfl

theorem holds_average {line : Rat} {side : Side} {first second : Box Rat}
    (firstHolds : side.Holds line first)
    (secondHolds : side.Holds line second) :
    side.Holds line (first.average second) := by
  cases side <;> simp only [Side.Holds] at firstHolds secondHolds ⊢
  · rw [average_b_x_rational]
    linarith
  · rw [average_a_x_rational]
    linarith

end Box

end DrivewayWatch
