import DrivewayWatch.Text.Blank
import Mathlib.Data.List.TakeWhile

/-!
# Trimming

A text is what trimming leaves with blank characters on both sides, and blank
characters put around a text do not change what trimming leaves of it.
-/

namespace DrivewayWatch.Text

/-- A text of nothing but blank characters. -/
def IsBlank (text : List Char) : Prop :=
  ∀ c ∈ text, isBlank c = true

theorem IsBlank.reverse {text : List Char} (blank : IsBlank text) :
    IsBlank text.reverse := by
  intro c member
  exact blank c (List.mem_reverse.mp member)

theorem trimFront_of_isBlank {text : List Char} (blank : IsBlank text) :
    trimFront text = [] :=
  List.dropWhile_eq_nil_iff.mpr blank

theorem trimFront_append_of_isBlank {front : List Char} (blank : IsBlank front)
    (text : List Char) : trimFront (front ++ text) = trimFront text :=
  List.dropWhile_append_of_pos blank

theorem trimFront_append_of_not_isBlank {text : List Char}
    (notBlank : ¬ IsBlank text) (back : List Char) :
    trimFront (text ++ back) = trimFront text ++ back := by
  have something : (text.dropWhile isBlank).isEmpty = false := by
    rw [List.isEmpty_eq_false_iff]
    exact mt List.dropWhile_eq_nil_iff.mp notBlank
  rw [trimFront, List.dropWhile_append, something]
  rfl

theorem trimBack_append_of_isBlank (text : List Char) {back : List Char}
    (blank : IsBlank back) : trimBack (text ++ back) = trimBack text := by
  rw [trimBack, List.reverse_append, trimFront_append_of_isBlank blank.reverse]
  rfl

/-- Blank characters around a text are trimmed away. -/
theorem trim_append {front back : List Char} (frontBlank : IsBlank front)
    (text : List Char) (backBlank : IsBlank back) :
    trim (front ++ text ++ back) = trim text := by
  rw [List.append_assoc, trim, trimFront_append_of_isBlank frontBlank, trim]
  by_cases blank : IsBlank text
  · rw [trimFront_append_of_isBlank blank, trimFront_of_isBlank backBlank,
      trimFront_of_isBlank blank]
  · rw [trimFront_append_of_not_isBlank blank,
      trimBack_append_of_isBlank _ backBlank]

theorem exists_trimFront (text : List Char) :
    ∃ front, text = front ++ trimFront text ∧ IsBlank front := by
  refine ⟨text.takeWhile isBlank, List.takeWhile_append_dropWhile.symm, ?_⟩
  intro c member
  exact List.mem_takeWhile_imp member

/-- What trimming takes from a text is blank. -/
theorem exists_trim (text : List Char) :
    ∃ front back, text = front ++ trim text ++ back ∧ IsBlank front ∧
      IsBlank back := by
  obtain ⟨front, split, frontBlank⟩ := exists_trimFront text
  obtain ⟨back, backSplit, backBlank⟩ :=
    exists_trimFront (trimFront text).reverse
  refine ⟨front, back.reverse, ?_, frontBlank, backBlank.reverse⟩
  have rest : trimFront text = trim text ++ back.reverse := by
    rw [← List.reverse_inj, backSplit, List.reverse_append,
      List.reverse_reverse, trim, trimBack, List.reverse_reverse]
  rw [List.append_assoc, ← rest, ← split]

theorem trim_trim (text : List Char) : trim (trim text) = trim text := by
  obtain ⟨front, back, split, frontBlank, backBlank⟩ := exists_trim text
  have inside := trim_append frontBlank (trim text) backBlank
  rw [← split] at inside
  exact inside.symm

theorem trimFront_cons_of_not_blank {c : Char} (notBlank : isBlank c = false)
    (rest : List Char) : trimFront (c :: rest) = c :: rest :=
  List.dropWhile_cons_of_neg (by simp [notBlank])

/-- Nothing is trimmed between two characters that are not blank. -/
theorem trim_enclosed {first last : Char} (firstKept : isBlank first = false)
    (lastKept : isBlank last = false) (inner : List Char) :
    trim (first :: (inner ++ [last])) = first :: (inner ++ [last]) := by
  have backwards : (first :: (inner ++ [last])).reverse =
      last :: (inner.reverse ++ [first]) := by
    simp
  rw [trim, trimFront_cons_of_not_blank firstKept, trimBack, backwards,
    trimFront_cons_of_not_blank lastKept, ← backwards, List.reverse_reverse]

theorem trimFront_eq_self {text : List Char}
    (noBlank : ∀ c ∈ text, isBlank c = false) : trimFront text = text := by
  cases text with
  | nil => rfl
  | cons c rest =>
      exact trimFront_cons_of_not_blank (noBlank c List.mem_cons_self) rest

theorem trim_eq_self {text : List Char}
    (noBlank : ∀ c ∈ text, isBlank c = false) : trim text = text := by
  have backwards : trimFront text.reverse = text.reverse :=
    trimFront_eq_self fun c member => noBlank c (List.mem_reverse.mp member)
  rw [trim, trimFront_eq_self noBlank, trimBack, backwards,
    List.reverse_reverse]

/-- Trimming leaves nothing of a text exactly if it is blank. -/
theorem trim_eq_nil_iff {text : List Char} : trim text = [] ↔ IsBlank text := by
  constructor
  · intro nothing
    obtain ⟨front, back, split, frontBlank, backBlank⟩ := exists_trim text
    rw [split, nothing, List.append_nil]
    exact List.forall_mem_append.mpr ⟨frontBlank, backBlank⟩
  · intro blank
    rw [trim, trimFront_of_isBlank blank]
    rfl

theorem isEmpty_trimmed_iff {text : String} :
    (trimmed text).isEmpty = true ↔ IsBlank text.toList := by
  rw [String.isEmpty_iff, trimmed, String.ofList_eq_empty_iff, trim_eq_nil_iff]

end DrivewayWatch.Text
