import DrivewayWatch.Proofs.Geometry.Sides

/-!
# How much boxes overlap

Boxes that share some area have their corners in order, and what they share is
a part of either of them.  So no overlap exceeds one, not even of boxes whose
corners are out of order: those share nothing.
-/

namespace DrivewayWatch

namespace Box

theorem area_rational (box : Box Rat) :
    box.area = (box.b.x - box.a.x) * (box.b.y - box.a.y) :=
  rfl

/-- The width of what two boxes share, negative if they lie side by side. -/
def sharedWidth (first second : Box Rat) : Rat :=
  min first.b.x second.b.x - max first.a.x second.a.x

/-- The height of what two boxes share, negative if one lies above the other. -/
def sharedHeight (first second : Box Rat) : Rat :=
  min first.b.y second.b.y - max first.a.y second.a.y

theorem sharedArea_eq (first second : Box Rat) :
    sharedArea first second =
      max (sharedWidth first second) 0 * max (sharedHeight first second) 0 :=
  rfl

theorem sharedArea_nonneg (first second : Box Rat) :
    0 ≤ sharedArea first second :=
  mul_nonneg (le_max_right _ _) (le_max_right _ _)

theorem sharedWidth_le (first second : Box Rat) :
    sharedWidth first second ≤ first.b.x - first.a.x := by
  have ends := min_le_left first.b.x second.b.x
  have begins := le_max_left first.a.x second.a.x
  unfold sharedWidth
  linarith

theorem sharedHeight_le (first second : Box Rat) :
    sharedHeight first second ≤ first.b.y - first.a.y := by
  have ends := min_le_left first.b.y second.b.y
  have begins := le_max_left first.a.y second.a.y
  unfold sharedHeight
  linarith

theorem sharedArea_pos_iff {first second : Box Rat} :
    0 < sharedArea first second ↔
      0 < sharedWidth first second ∧ 0 < sharedHeight first second := by
  rw [sharedArea_eq]
  constructor
  · intro positive
    have width : max (sharedWidth first second) 0 ≠ 0 :=
      left_ne_zero_of_mul positive.ne'
    have height : max (sharedHeight first second) 0 ≠ 0 :=
      right_ne_zero_of_mul positive.ne'
    simpa only [ne_eq, max_eq_right_iff, not_le] using And.intro width height
  · rintro ⟨width, height⟩
    rw [max_eq_left width.le, max_eq_left height.le]
    exact mul_pos width height

/-- What two boxes share is a part of the first one. -/
theorem sharedArea_le_area {first second : Box Rat}
    (positive : 0 < sharedArea first second) :
    sharedArea first second ≤ first.area := by
  obtain ⟨width, height⟩ := sharedArea_pos_iff.mp positive
  rw [sharedArea_eq, max_eq_left width.le, max_eq_left height.le,
    area_rational]
  exact mul_le_mul (sharedWidth_le first second) (sharedHeight_le first second)
    height.le (width.le.trans (sharedWidth_le first second))

theorem overlap_le_one (first second : Box Rat) :
    first.overlap second ≤ 1 := by
  rw [overlap_rational]
  rcases (sharedArea_nonneg first second).eq_or_lt with nothing | positive
  · rw [← nothing, zero_div]
    exact zero_le_one
  · have inFirst := sharedArea_le_area positive
    have inSecond : sharedArea first second ≤ second.area := by
      rw [sharedArea_comm] at positive ⊢
      exact sharedArea_le_area positive
    have covered : 0 <
        first.area + second.area - sharedArea first second := by
      linarith
    rw [div_le_one₀ covered]
    linarith

end Box

end DrivewayWatch
