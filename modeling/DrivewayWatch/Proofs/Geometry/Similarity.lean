import DrivewayWatch.Proofs.Geometry.Overlap
import Mathlib.MeasureTheory.Measure.Lebesgue.Basic
import Mathlib.Tactic.Ring

/-!
# Overlap as a similarity

Over exact numbers the overlap of two boxes of positive area does what a measure
of similarity has to do.  It is symmetric, it lies between nothing and one, it
is nothing exactly for boxes that share no region of positive area and one
exactly for equal boxes, and it does not see where the origin of the frame lies
or how its axes are scaled.
-/

namespace DrivewayWatch

open MeasureTheory

namespace Box

/-- The second corner is not before the first one on either axis. -/
structure IsOrdered (box : Box Rat) : Prop where
  x_le : box.a.x ≤ box.b.x
  y_le : box.a.y ≤ box.b.y

/-- The four coordinates that make up a box. -/
def coordinates : List (Box Rat → Rat) :=
  [(·.a.x), (·.a.y), (·.b.x), (·.b.y)]

/-- A box between two others in every coordinate. -/
def IsBetween (middle first second : Box Rat) : Prop :=
  ∀ coordinate ∈ coordinates,
    min (coordinate first) (coordinate second) ≤ coordinate middle ∧
      coordinate middle ≤ max (coordinate first) (coordinate second)

/-- The points of the plane that a box covers. -/
def region (box : Box Rat) : Set (ℝ × ℝ) :=
  Set.Icc (box.a.x : ℝ) box.b.x ×ˢ Set.Icc (box.a.y : ℝ) box.b.y

/-- The box in a frame whose axes are stretched and whose origin is moved. -/
def rescaled (scale shift : Point Rat) (box : Box Rat) : Box Rat :=
  ofCorners (scale.x * box.a.x + shift.x) (scale.y * box.a.y + shift.y)
    (scale.x * box.b.x + shift.x) (scale.y * box.b.y + shift.y)

/-- What is called the shared area is the area of what both boxes cover, also
for boxes whose corners are out of order. -/
theorem volume_region_inter (first second : Box Rat) :
    volume (first.region ∩ second.region) =
      ENNReal.ofReal ((sharedArea first second : Rat) : ℝ) := by
  have clipped (length : ℝ) :
      ENNReal.ofReal length = ENNReal.ofReal (max length 0) := by
    rw [ENNReal.ofReal_max, ENNReal.ofReal_zero, max_eq_left zero_le]
  rw [region, region, Set.prod_inter_prod, Set.Icc_inter_Icc, Set.Icc_inter_Icc,
    Measure.volume_eq_prod, Measure.prod_prod, Real.volume_Icc, Real.volume_Icc,
    clipped (_ - _), clipped (_ ⊓ _ - _),
    ← ENNReal.ofReal_mul (le_max_right _ _), sharedArea_rational]
  push_cast
  rfl

/-- No area is shared exactly if every common region has no area. -/
theorem sharedArea_eq_zero_iff (first second : Box Rat) :
    sharedArea first second = 0 ↔
      ∀ part ⊆ first.region ∩ second.region, volume part = 0 := by
  have nothing : sharedArea first second = 0 ↔
      volume (first.region ∩ second.region) = 0 := by
    rw [volume_region_inter, ENNReal.ofReal_eq_zero, Rat.cast_nonpos,
      le_antisymm_iff, and_iff_left (sharedArea_nonneg first second)]
  rw [nothing]
  constructor
  · intro noArea part within
    exact measure_mono_null within noArea
  · intro noPart
    exact noPart _ subset_rfl

variable {first second : Box Rat}

theorem overlap_comm (first second : Box Rat) :
    first.overlap second = second.overlap first := by
  rw [overlap_rational, overlap_rational, sharedArea_comm first,
    add_comm first.area]

/-- The two boxes together cover some area. -/
theorem covered_pos (firstPositive : 0 < first.area)
    (secondPositive : 0 < second.area) :
    0 < first.area + second.area - sharedArea first second := by
  rcases (sharedArea_nonneg first second).eq_or_lt with nothing | shared
  · linarith
  · have inFirst := sharedArea_le_area shared
    linarith

theorem overlap_nonneg (firstPositive : 0 < first.area)
    (secondPositive : 0 < second.area) : 0 ≤ first.overlap second := by
  rw [overlap_rational]
  exact div_nonneg (sharedArea_nonneg first second)
    (covered_pos firstPositive secondPositive).le

theorem overlap_eq_zero_iff (firstPositive : 0 < first.area)
    (secondPositive : 0 < second.area) :
    first.overlap second = 0 ↔
      ∀ part ⊆ first.region ∩ second.region, volume part = 0 := by
  have covered := covered_pos firstPositive secondPositive
  rw [overlap_rational, div_eq_zero_iff, or_iff_left covered.ne',
    sharedArea_eq_zero_iff]

theorem sharedArea_self (ordered : first.IsOrdered) :
    sharedArea first first = first.area := by
  rw [sharedArea_rational, area_rational, min_self, max_self, min_self,
    max_self, max_eq_left (sub_nonneg.mpr ordered.x_le),
    max_eq_left (sub_nonneg.mpr ordered.y_le)]

/-- An interval that shares all of its length with another lies within it. -/
theorem inside_of_common_eq {low high low' high' : Rat}
    (wholly : min high high' - max low low' = high - low) :
    low' ≤ low ∧ high ≤ high' := by
  have begins := le_max_left low low'
  have beginsInside := le_max_right low low'
  have ends := min_le_left high high'
  have endsInside := min_le_right high high'
  constructor <;> linarith

/-- A box that shares all of its area lies within the other one. -/
theorem inside_of_sharedArea_eq_area (positive : 0 < first.area)
    (wholly : sharedArea first second = first.area) :
    (second.a.x ≤ first.a.x ∧ first.b.x ≤ second.b.x) ∧
      second.a.y ≤ first.a.y ∧ first.b.y ≤ second.b.y := by
  have shared : 0 < sharedArea first second := wholly ▸ positive
  obtain ⟨width, height⟩ := sharedArea_pos_iff.mp shared
  have narrower := sharedWidth_le first second
  have lower := sharedHeight_le first second
  rw [sharedArea_eq, max_eq_left width.le, max_eq_left height.le,
    area_rational] at wholly
  -- Neither side of the common part is shorter, or its area would be less.
  have sameWidth : sharedWidth first second = first.b.x - first.a.x := by
    refine narrower.antisymm (le_of_not_gt fun shorter => ?_)
    have less := mul_lt_mul shorter lower height (width.le.trans narrower)
    exact less.ne wholly
  have sameHeight : sharedHeight first second = first.b.y - first.a.y := by
    rw [sameWidth] at wholly
    exact mul_left_cancel₀ (sameWidth ▸ width.ne') wholly
  exact ⟨inside_of_common_eq sameWidth, inside_of_common_eq sameHeight⟩

theorem eq_of_corners (ax : first.a.x = second.a.x)
    (ay : first.a.y = second.a.y) (bx : first.b.x = second.b.x)
    (byy : first.b.y = second.b.y) :
    first = second := by
  obtain ⟨⟨_, _⟩, _, _⟩ := first
  obtain ⟨⟨_, _⟩, _, _⟩ := second
  simp only [mk.injEq, Point.mk.injEq]
  exact ⟨⟨ax, ay⟩, bx, byy⟩

theorem overlap_eq_one_iff (firstOrdered : first.IsOrdered)
    (firstPositive : 0 < first.area) (secondPositive : 0 < second.area) :
    first.overlap second = 1 ↔ first = second := by
  have covered := covered_pos firstPositive secondPositive
  rw [overlap_rational, div_eq_one_iff_eq covered.ne']
  constructor
  · intro same
    have shared : 0 < sharedArea first second := by linarith
    have inFirst := sharedArea_le_area shared
    have inSecond : sharedArea second first ≤ second.area := by
      rw [sharedArea_comm] at shared
      exact sharedArea_le_area shared
    rw [sharedArea_comm] at inSecond
    have allOfFirst : sharedArea first second = first.area := by linarith
    have allOfSecond : sharedArea second first = second.area := by
      rw [sharedArea_comm]
      linarith
    obtain ⟨⟨left, right⟩, top, bottom⟩ :=
      inside_of_sharedArea_eq_area firstPositive allOfFirst
    obtain ⟨⟨left', right'⟩, top', bottom'⟩ :=
      inside_of_sharedArea_eq_area secondPositive allOfSecond
    exact eq_of_corners (left'.antisymm left) (top'.antisymm top)
      (right.antisymm right') (bottom.antisymm bottom')
  · rintro rfl
    rw [sharedArea_self firstOrdered]
    ring

section Rescaling

variable {scale shift : Point Rat}

theorem area_rescaled (box : Box Rat) :
    (box.rescaled scale shift).area = scale.x * scale.y * box.area := by
  simp only [area_rational, rescaled, ofCorners]
  ring

/-- Stretching an axis stretches what two intervals on it have in common. -/
theorem common_rescaled {stretch : Rat} (positive : 0 < stretch)
    (move low low' high high' : Rat) :
    max (min (stretch * high + move) (stretch * high' + move) -
        max (stretch * low + move) (stretch * low' + move)) 0 =
      stretch * max (min high high' - max low low') 0 := by
  rw [min_add_add_right, max_add_add_right,
    ← mul_min_of_nonneg _ _ positive.le, ← mul_max_of_nonneg _ _ positive.le,
    add_sub_add_right_eq_sub, ← mul_sub, mul_max_of_nonneg _ _ positive.le,
    mul_zero]

theorem sharedArea_rescaled (xPositive : 0 < scale.x) (yPositive : 0 < scale.y)
    (first second : Box Rat) :
    sharedArea (first.rescaled scale shift) (second.rescaled scale shift) =
      scale.x * scale.y * sharedArea first second := by
  simp only [sharedArea_rational, rescaled, ofCorners,
    common_rescaled xPositive, common_rescaled yPositive]
  ring

theorem overlap_rescaled (xPositive : 0 < scale.x) (yPositive : 0 < scale.y)
    (first second : Box Rat) :
    (first.rescaled scale shift).overlap (second.rescaled scale shift) =
      first.overlap second := by
  have positive : scale.x * scale.y ≠ 0 := (mul_pos xPositive yPositive).ne'
  rw [overlap_rational, overlap_rational,
    sharedArea_rescaled xPositive yPositive, area_rescaled, area_rescaled,
    ← mul_add, ← mul_sub, mul_div_mul_left _ _ positive]

end Rescaling

section Average

theorem coordinate_average (first second : Box Rat) :
    ∀ coordinate ∈ coordinates, coordinate (first.average second) =
      (coordinate first + coordinate second) / 2 := by
  simp only [coordinates, List.forall_mem_cons]
  exact ⟨rfl, rfl, rfl, rfl, by simp⟩

theorem average_a_y_rational (first second : Box Rat) :
    (first.average second).a.y = (first.a.y + second.a.y) / 2 :=
  rfl

theorem average_b_y_rational (first second : Box Rat) :
    (first.average second).b.y = (first.b.y + second.b.y) / 2 :=
  rfl

theorem isOrdered_average (firstOrdered : first.IsOrdered)
    (secondOrdered : second.IsOrdered) :
    (first.average second).IsOrdered where
  x_le := by
    rw [average_a_x_rational, average_b_x_rational]
    linarith [firstOrdered.x_le, secondOrdered.x_le]
  y_le := by
    rw [average_a_y_rational, average_b_y_rational]
    linarith [firstOrdered.y_le, secondOrdered.y_le]

theorem isBetween_average (first second : Box Rat) :
    (first.average second).IsBetween first second := by
  intro coordinate member
  rw [coordinate_average first second coordinate member]
  rcases le_total (coordinate first) (coordinate second) with less | more
  · rw [min_eq_left less, max_eq_right less]
    constructor <;> linarith
  · rw [min_eq_right more, max_eq_left more]
    constructor <;> linarith

theorem average_comm (first second : Box Rat) :
    first.average second = second.average first := by
  simp only [average, midpoint, ofCorners]
  rw [add_comm first.a.x, add_comm first.a.y, add_comm first.b.x,
    add_comm first.b.y]

end Average

/-- The overlap of two ordered boxes of positive area is a similarity: it is
symmetric, from zero to one, zero exactly if the boxes share no region of
positive area, one exactly if they are equal, the same in every frame, and never
a quotient by zero.  The average of two ordered boxes is ordered, lies between
them and does not depend on which of them comes first. -/
theorem overlap_is_similarity (first second : Box Rat)
    (firstOrdered : first.IsOrdered) (secondOrdered : second.IsOrdered) :
    (0 < first.area → 0 < second.area →
      0 < first.area + second.area - sharedArea first second ∧
      first.overlap second = second.overlap first ∧
      0 ≤ first.overlap second ∧ first.overlap second ≤ 1 ∧
      (first.overlap second = 0 ↔
        ∀ part ⊆ first.region ∩ second.region, volume part = 0) ∧
      (first.overlap second = 1 ↔ first = second) ∧
      ∀ scale shift : Point Rat, 0 < scale.x → 0 < scale.y →
        (first.rescaled scale shift).overlap (second.rescaled scale shift) =
          first.overlap second) ∧
    (first.average second).IsOrdered ∧
    (first.average second).IsBetween first second ∧
    first.average second = second.average first := by
  refine ⟨fun firstPositive secondPositive => ⟨?_, ?_, ?_, ?_, ?_, ?_, ?_⟩,
    isOrdered_average firstOrdered secondOrdered, isBetween_average _ _,
    average_comm _ _⟩
  · exact covered_pos firstPositive secondPositive
  · exact overlap_comm _ _
  · exact overlap_nonneg firstPositive secondPositive
  · exact overlap_le_one _ _
  · exact overlap_eq_zero_iff firstPositive secondPositive
  · exact overlap_eq_one_iff firstOrdered firstPositive secondPositive
  · intro scale shift xPositive yPositive
    exact overlap_rescaled xPositive yPositive first second

/-- A box of six units and a box of four that share two of them. -/
theorem overlap_is_similarity_of_crossing :
    ((ofCorners 0 0 2 3 : Box Rat).IsOrdered ∧
      (ofCorners 1 0 3 2 : Box Rat).IsOrdered) ∧
    (ofCorners 0 0 2 3 : Box Rat).overlap (ofCorners 1 0 3 2) = 1 / 4 ∧
    (ofCorners 1 0 3 2 : Box Rat).overlap (ofCorners 0 0 2 3) = 1 / 4 := by
  have firstOrdered : (ofCorners 0 0 2 3 : Box Rat).IsOrdered :=
    ⟨by decide, by decide⟩
  have secondOrdered : (ofCorners 1 0 3 2 : Box Rat).IsOrdered :=
    ⟨by decide, by decide⟩
  obtain ⟨similarity, -⟩ :=
    overlap_is_similarity _ _ firstOrdered secondOrdered
  obtain ⟨-, symmetric, -⟩ := similarity (by decide +kernel) (by decide +kernel)
  have quarter : (ofCorners 0 0 2 3 : Box Rat).overlap (ofCorners 1 0 3 2) =
      1 / 4 := by
    decide +kernel
  exact ⟨⟨firstOrdered, secondOrdered⟩, quarter, symmetric ▸ quarter⟩

end Box

end DrivewayWatch
