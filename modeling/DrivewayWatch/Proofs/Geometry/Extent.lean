import DrivewayWatch.Proofs.Geometry.Similarity
import DrivewayWatch.Tracking.Track
import Mathlib.Algebra.Order.BigOperators.Group.List

/-!
# The extent of boxes and their mean

The box around a list of boxes is the least one that holds them all: a box holds
it exactly if it holds every box of the list.  Nothing else about the list
matters, neither its order nor how it was put together.  The mean is the exact
quotient of sum and number in every coordinate, so it lies in the range of the
list and within the extent.
-/

namespace DrivewayWatch

namespace Box

/-- A box whose corners do not pass those of another one. -/
structure IsWithin (inner outer : Box Rat) : Prop where
  left : outer.a.x ≤ inner.a.x
  top : outer.a.y ≤ inner.a.y
  right : inner.b.x ≤ outer.b.x
  bottom : inner.b.y ≤ outer.b.y

/-- The least box that holds all boxes of a list. -/
structure IsExtentOf (extent : Box Rat) (boxes : List (Box Rat)) : Prop where
  around : ∀ box ∈ boxes, box.IsWithin extent
  least : ∀ other, (∀ box ∈ boxes, box.IsWithin other) → extent.IsWithin other

/-- Every coordinate is the sum over the list, divided by its length. -/
def IsMeanOf (mean : Box Rat) (boxes : List (Box Rat)) : Prop :=
  ∀ coordinate ∈ coordinates,
    coordinate mean = (boxes.map coordinate).sum / boxes.length

/-- No coordinate is less, or greater, than in every box of the list. -/
def IsInRangeOf (middle : Box Rat) (boxes : List (Box Rat)) : Prop :=
  ∀ coordinate ∈ coordinates,
    (∃ low ∈ boxes, coordinate low ≤ coordinate middle) ∧
      ∃ high ∈ boxes, coordinate middle ≤ coordinate high

section Extent

variable {first second : Box Rat}

theorem IsWithin.refl (box : Box Rat) : box.IsWithin box :=
  ⟨le_rfl, le_rfl, le_rfl, le_rfl⟩

theorem IsWithin.antisymm (inside : first.IsWithin second)
    (around : second.IsWithin first) : first = second :=
  eq_of_corners (around.left.antisymm inside.left)
    (around.top.antisymm inside.top) (inside.right.antisymm around.right)
    (inside.bottom.antisymm around.bottom)

/-- Two boxes that are held by the same boxes are equal. -/
theorem eq_of_isWithin_iff
    (same : ∀ other, first.IsWithin other ↔ second.IsWithin other) :
    first = second :=
  ((same second).mpr (.refl second)).antisymm ((same first).mp (.refl first))

theorem join_isWithin_iff (first second other : Box Rat) :
    (first.join second).IsWithin other ↔
      first.IsWithin other ∧ second.IsWithin other := by
  constructor
  · rintro ⟨left, top, right, bottom⟩
    exact ⟨⟨left.trans (min_le_left _ _), top.trans (min_le_left _ _),
        (le_max_left _ _).trans right, (le_max_left _ _).trans bottom⟩,
      ⟨left.trans (min_le_right _ _), top.trans (min_le_right _ _),
        (le_max_right _ _).trans right, (le_max_right _ _).trans bottom⟩⟩
  · rintro ⟨inside, secondInside⟩
    exact ⟨le_min inside.left secondInside.left,
      le_min inside.top secondInside.top,
      max_le inside.right secondInside.right,
      max_le inside.bottom secondInside.bottom⟩

theorem foldl_join_isWithin_iff (rest : List (Box Rat))
    (first other : Box Rat) :
    (rest.foldl join first).IsWithin other ↔
      first.IsWithin other ∧ ∀ box ∈ rest, box.IsWithin other := by
  induction rest generalizing first with
  | nil => simp
  | cons box rest ih =>
      rw [List.foldl_cons, ih, join_isWithin_iff, List.forall_mem_cons,
        and_assoc]

theorem enclosing?_isWithin_iff {boxes : List (Box Rat)} {extent : Box Rat}
    (found : enclosing? boxes = some extent) (other : Box Rat) :
    extent.IsWithin other ↔ ∀ box ∈ boxes, box.IsWithin other := by
  cases boxes with
  | nil => simp [enclosing?] at found
  | cons first rest =>
      obtain rfl : rest.foldl join first = extent := Option.some.inj found
      rw [foldl_join_isWithin_iff, List.forall_mem_cons]

theorem enclosing?_eq_none_iff (boxes : List (Box Rat)) :
    enclosing? boxes = none ↔ boxes = [] := by
  cases boxes <;> simp [enclosing?]

theorem exists_enclosing? {boxes : List (Box Rat)} (nonempty : boxes ≠ []) :
    ∃ extent, enclosing? boxes = some extent :=
  Option.ne_none_iff_exists'.mp
    (mt (enclosing?_eq_none_iff boxes).mp nonempty)

theorem isExtentOf_of_enclosing? {boxes : List (Box Rat)} {extent : Box Rat}
    (found : enclosing? boxes = some extent) : extent.IsExtentOf boxes where
  around := (enclosing?_isWithin_iff found extent).mp (.refl extent)
  least other := (enclosing?_isWithin_iff found other).mpr

/-- Lists whose boxes are held by the same boxes have the same extent. -/
theorem enclosing?_congr {boxes others : List (Box Rat)}
    (sameEmpty : boxes = [] ↔ others = [])
    (same : ∀ outer, (∀ box ∈ boxes, box.IsWithin outer) ↔
      ∀ box ∈ others, box.IsWithin outer) :
    enclosing? boxes = enclosing? others := by
  by_cases empty : boxes = []
  · rw [empty, sameEmpty.mp empty]
  · obtain ⟨extent, found⟩ := exists_enclosing? empty
    obtain ⟨other, otherFound⟩ := exists_enclosing? (mt sameEmpty.mpr empty)
    rw [found, otherFound, Option.some.injEq]
    apply eq_of_isWithin_iff
    intro outer
    rw [enclosing?_isWithin_iff found, same,
      enclosing?_isWithin_iff otherFound]

theorem enclosing?_perm {boxes others : List (Box Rat)}
    (perm : boxes.Perm others) : enclosing? boxes = enclosing? others := by
  apply enclosing?_congr
  · rw [← List.length_eq_zero_iff, perm.length_eq, List.length_eq_zero_iff]
  · intro outer
    simp only [perm.mem_iff]

theorem forall_mem_enclosing?_iff (boxes : List (Box Rat)) (outer : Box Rat) :
    (∀ extent ∈ (enclosing? boxes).toList, extent.IsWithin outer) ↔
      ∀ box ∈ boxes, box.IsWithin outer := by
  cases found : enclosing? boxes with
  | none =>
      rw [(enclosing?_eq_none_iff boxes).mp found]
      simp
  | some extent =>
      rw [← enclosing?_isWithin_iff found]
      simp

/-- The extents of two parts, as far as there are any, have the extent of the
whole list. -/
theorem enclosing?_append (front back : List (Box Rat)) :
    enclosing? ((enclosing? front).toList ++ (enclosing? back).toList) =
      enclosing? (front ++ back) := by
  apply enclosing?_congr
  · simp only [List.append_eq_nil_iff, Option.toList_eq_nil_iff,
      enclosing?_eq_none_iff]
  · intro outer
    simp only [List.forall_mem_append, forall_mem_enclosing?_iff]

end Extent

section Mean

variable {boxes : List (Box Rat)}

theorem meanOf_rational (coordinate : Box Rat → Rat) (boxes : List (Box Rat)) :
    meanOf coordinate boxes =
      (boxes.map coordinate).sum / boxes.length := by
  have summed : total coordinate boxes = (boxes.map coordinate).sum := by
    rw [List.sum_eq_foldl, List.foldl_map]
    rfl
  rw [meanOf, summed]
  rfl

theorem mean?_eq_some (nonempty : boxes ≠ []) :
    mean? boxes = some (ofCorners (meanOf (·.a.x) boxes) (meanOf (·.a.y) boxes)
      (meanOf (·.b.x) boxes) (meanOf (·.b.y) boxes)) := by
  cases boxes with
  | nil => exact absurd rfl nonempty
  | cons first rest => rfl

theorem isMeanOf_of_mean? {mean : Box Rat} (found : mean? boxes = some mean) :
    mean.IsMeanOf boxes := by
  cases boxes with
  | nil => simp [mean?] at found
  | cons first rest =>
      obtain rfl := Option.some.inj found
      simp only [IsMeanOf, coordinates, List.forall_mem_cons]
      exact ⟨meanOf_rational _ _, meanOf_rational _ _, meanOf_rational _ _,
        meanOf_rational _ _, by simp⟩

theorem mean?_perm {others : List (Box Rat)} (perm : boxes.Perm others) :
    mean? boxes = mean? others := by
  have sameMean (coordinate : Box Rat → Rat) :
      meanOf coordinate boxes = meanOf coordinate others := by
    rw [meanOf_rational, meanOf_rational, (perm.map coordinate).sum_eq,
      perm.length_eq]
  by_cases empty : boxes = []
  · rw [empty] at perm ⊢
    rw [List.nil_perm.mp perm]
  · have othersNonempty : others ≠ [] := by
      intro othersEmpty
      rw [othersEmpty] at perm
      exact empty (List.perm_nil.mp perm)
    rw [mean?_eq_some empty, mean?_eq_some othersNonempty]
    simp only [sameMean]

/-- Some number of a list is at most its mean, and some number is at least. -/
theorem exists_le_mean_and_mean_le (nonempty : boxes ≠ [])
    (coordinate : Box Rat → Rat) :
    (∃ low ∈ boxes,
      coordinate low ≤ (boxes.map coordinate).sum / boxes.length) ∧
    ∃ high ∈ boxes,
      (boxes.map coordinate).sum / boxes.length ≤ coordinate high := by
  have count : (boxes.length : Rat) ≠ 0 :=
    Nat.cast_ne_zero.mpr (mt List.length_eq_zero_iff.mp nonempty)
  -- The mean in every place has the same sum as the list.
  have level : (boxes.map fun _ =>
      (boxes.map coordinate).sum / boxes.length).sum =
        (boxes.map coordinate).sum := by
    rw [List.map_const', List.sum_replicate, nsmul_eq_mul,
      mul_div_cancel₀ _ count]
  exact ⟨List.exists_le_of_sum_le nonempty coordinate _ level.ge,
    List.exists_le_of_sum_le nonempty _ coordinate level.le⟩

theorem IsMeanOf.isInRangeOf {mean : Box Rat} (isMean : mean.IsMeanOf boxes)
    (nonempty : boxes ≠ []) : mean.IsInRangeOf boxes := by
  intro coordinate member
  rw [isMean coordinate member]
  exact exists_le_mean_and_mean_le nonempty coordinate

/-- What lies in the range of a list does not leave its extent. -/
theorem IsInRangeOf.isWithin {middle extent : Box Rat}
    (inRange : middle.IsInRangeOf boxes) (isExtent : extent.IsExtentOf boxes) :
    middle.IsWithin extent := by
  simp only [IsInRangeOf, coordinates, List.forall_mem_cons] at inRange
  obtain ⟨⟨⟨first, firstMember, firstLow⟩, -⟩,
    ⟨⟨second, secondMember, secondLow⟩, -⟩,
    ⟨-, third, thirdMember, thirdHigh⟩,
    ⟨-, fourth, fourthMember, fourthHigh⟩, -⟩ := inRange
  exact ⟨(isExtent.around first firstMember).left.trans firstLow,
    (isExtent.around second secondMember).top.trans secondLow,
    thirdHigh.trans (isExtent.around third thirdMember).right,
    fourthHigh.trans (isExtent.around fourth fourthMember).bottom⟩

theorem IsMeanOf.isOrdered {mean : Box Rat} (isMean : mean.IsMeanOf boxes)
    (ordered : ∀ box ∈ boxes, box.IsOrdered) : mean.IsOrdered := by
  simp only [IsMeanOf, coordinates, List.forall_mem_cons] at isMean
  obtain ⟨left, top, right, bottom, -⟩ := isMean
  have count : (0 : Rat) ≤ boxes.length := Nat.cast_nonneg _
  constructor
  · rw [left, right]
    exact div_le_div_of_nonneg_right
      (List.sum_le_sum fun box member => (ordered box member).x_le) count
  · rw [top, bottom]
    exact div_le_div_of_nonneg_right
      (List.sum_le_sum fun box member => (ordered box member).y_le) count

theorem IsExtentOf.isOrdered {extent : Box Rat}
    (isExtent : extent.IsExtentOf boxes) (nonempty : boxes ≠ [])
    (ordered : ∀ box ∈ boxes, box.IsOrdered) : extent.IsOrdered := by
  obtain ⟨box, member⟩ := List.exists_mem_of_ne_nil boxes nonempty
  obtain ⟨left, top, right, bottom⟩ := isExtent.around box member
  exact ⟨left.trans ((ordered box member).x_le.trans right),
    top.trans ((ordered box member).y_le.trans bottom)⟩

end Mean

/-- Boxes, at least one, have an extent and a mean.  The extent is the least box
that holds them all.  The mean is exact in every coordinate and in the range of
the boxes.  Both are the same for every order of the list, and the extent is
found from the extents of any two parts of it.  A track has the extent and the
mean of its boxes, so its average box never leaves its total box; if all its
boxes are ordered, so are these two. -/
theorem extent_is_least_and_holds_mean (boxes : List (Box Rat))
    (nonempty : boxes ≠ []) :
    ∃ extent mean, enclosing? boxes = some extent ∧ mean? boxes = some mean ∧
      extent.IsExtentOf boxes ∧ mean.IsMeanOf boxes ∧
      mean.IsInRangeOf boxes ∧
      (∀ others, boxes.Perm others →
        enclosing? others = some extent ∧ mean? others = some mean) ∧
      (∀ front back, boxes = front ++ back →
        enclosing? ((enclosing? front).toList ++ (enclosing? back).toList) =
          some extent) ∧
      ∀ (T : Type) (track : Track Rat T), track.boxes = boxes →
        track.totalBox = extent ∧ track.averageBox = mean ∧
        track.averageBox.IsWithin track.totalBox ∧
        ((∀ box ∈ boxes, box.IsOrdered) →
          track.totalBox.IsOrdered ∧ track.averageBox.IsOrdered) := by
  obtain ⟨extent, found⟩ := exists_enclosing? nonempty
  have meanFound := mean?_eq_some nonempty
  have isExtent := isExtentOf_of_enclosing? found
  have isMean := isMeanOf_of_mean? meanFound
  have inRange := isMean.isInRangeOf nonempty
  refine ⟨extent, _, found, meanFound, isExtent, isMean, inRange, ?_, ?_, ?_⟩
  · intro others perm
    exact ⟨enclosing?_perm perm ▸ found, mean?_perm perm ▸ meanFound⟩
  · rintro front back rfl
    rw [enclosing?_append, found]
  · rintro T track rfl
    have isTotal : track.totalBox = extent := by
      rw [Track.totalBox, found, Option.getD_some]
    have isAverage : some track.averageBox = mean? track.boxes := by
      rw [Track.averageBox, meanFound, Option.getD_some]
    rw [meanFound, Option.some.injEq] at isAverage
    rw [isTotal, isAverage]
    refine ⟨rfl, rfl, inRange.isWithin isExtent, fun ordered => ?_⟩
    exact ⟨isExtent.isOrdered nonempty ordered, isMean.isOrdered ordered⟩

/-- Two boxes beside each other, the first of one unit, the second of four. -/
theorem extent_is_least_and_holds_mean_of_pair :
    [(ofCorners 0 0 1 1 : Box Rat), ofCorners 2 1 4 3] ≠ [] ∧
    enclosing? [(ofCorners 2 1 4 3 : Box Rat), ofCorners 0 0 1 1] =
      some (ofCorners 0 0 4 3) ∧
    mean? [(ofCorners 2 1 4 3 : Box Rat), ofCorners 0 0 1 1] =
      some (ofCorners 1 (1 / 2) (5 / 2) 2) := by
  obtain ⟨extent, mean, found, meanFound, -, -, -, anyOrder, -⟩ :=
    extent_is_least_and_holds_mean
      [(ofCorners 0 0 1 1 : Box Rat), ofCorners 2 1 4 3] (by simp)
  obtain ⟨sameExtent, sameMean⟩ := anyOrder _ (List.Perm.swap _ _ _)
  refine ⟨by simp, ?_, ?_⟩
  · rw [sameExtent, ← found]
    decide +kernel
  · rw [sameMean, ← meanFound]
    decide +kernel

end Box

end DrivewayWatch
