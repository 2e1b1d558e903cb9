import Mathlib.Data.List.Basic
import Mathlib.Order.Lattice

/-!
# The first of the greatest

Where a greatest element is chosen and several have the greatest score, the
choice falls on the one that stands first.  A scan from the front finds it if a
further element replaces the choice so far only where its score is greater.
-/

namespace DrivewayWatch

variable {α β : Type} [LinearOrder β]

/-- The elements before the choice have lesser scores, and those behind it have
no greater ones. -/
def IsFirstGreatest (score : α → β) (list : List α) (choice : α) : Prop :=
  ∃ before after, list = before ++ choice :: after ∧
    (∀ other ∈ before, score other < score choice) ∧
    ∀ other ∈ after, score other ≤ score choice

theorem isFirstGreatest_singleton (score : α → β) (choice : α) :
    IsFirstGreatest score [choice] choice :=
  ⟨[], [], rfl, by simp, by simp⟩

namespace IsFirstGreatest

variable {score : α → β} {list : List α} {choice next : α}

theorem mem (greatest : IsFirstGreatest score list choice) :
    choice ∈ list := by
  obtain ⟨before, after, rfl, -, -⟩ := greatest
  exact List.mem_append_right _ List.mem_cons_self

theorem score_le (greatest : IsFirstGreatest score list choice) {other : α}
    (member : other ∈ list) : score other ≤ score choice := by
  obtain ⟨before, after, rfl, less, notMore⟩ := greatest
  rcases List.mem_append.mp member with inBefore | others
  · exact (less other inBefore).le
  rcases List.mem_cons.mp others with rfl | inAfter
  · exact le_rfl
  · exact notMore other inAfter

theorem concat_of_lt (greatest : IsFirstGreatest score list choice)
    (greater : score choice < score next) :
    IsFirstGreatest score (list ++ [next]) next := by
  refine ⟨list, [], rfl, ?_, by simp⟩
  intro other member
  exact (greatest.score_le member).trans_lt greater

theorem concat_of_not_lt (greatest : IsFirstGreatest score list choice)
    (notGreater : ¬ score choice < score next) :
    IsFirstGreatest score (list ++ [next]) choice := by
  obtain ⟨before, after, rfl, less, notMore⟩ := greatest
  refine ⟨before, after ++ [next], by simp, less, ?_⟩
  intro other member
  rcases List.mem_append.mp member with inAfter | isNext
  · exact notMore other inAfter
  · rw [List.mem_singleton.mp isNext]
    exact le_of_not_gt notGreater

/-- The first of the greatest among images is the image of the first of the
greatest. -/
theorem exists_of_map {γ : Type} {image : γ → α} {sources : List γ}
    (greatest : IsFirstGreatest score (sources.map image) choice) :
    ∃ source, image source = choice ∧
      IsFirstGreatest (fun source => score (image source)) sources source := by
  obtain ⟨before, after, split, less, notMore⟩ := greatest
  obtain ⟨front, others, rfl, rfl, othersSplit⟩ :=
    List.map_eq_append_iff.mp split
  obtain ⟨source, back, rfl, rfl, rfl⟩ := List.map_eq_cons_iff.mp othersSplit
  refine ⟨source, rfl, front, back, rfl, ?_, ?_⟩
  · intro other member
    exact less _ (List.mem_map_of_mem member)
  · intro other member
    exact notMore _ (List.mem_map_of_mem member)

end IsFirstGreatest

end DrivewayWatch
