import DrivewayWatch.Text.Search
import Mathlib.Tactic.Common

/-!
# Texts taken apart

A beginning or an ending is found where it was put.  A text is split wherever a
separator stands, from the front; so what was joined with a separator comes
apart into the same pieces if none of them has the separator's first letter.
-/

namespace DrivewayWatch.Text

variable {α : Type} [BEq α]

section ReflBEq

variable [ReflBEq α]

@[simp]
theorem after?_append (beginning text : List α) :
    after? beginning (beginning ++ text) = some text := by
  induction beginning with
  | nil => rfl
  | cons a beginning ih => simp [after?, ih]

theorem before?_append (text ending : List α) :
    before? ending (text ++ ending) = some text := by
  rw [before?, List.reverse_append, after?_append, Option.map_some,
    List.reverse_reverse]

end ReflBEq

theorem length_of_after?_eq_some {beginning text rest : List α}
    (found : after? beginning text = some rest) :
    text.length = beginning.length + rest.length := by
  induction beginning generalizing text with
  | nil =>
      obtain rfl := Option.some.inj found
      simp
  | cons a beginning ih =>
      cases text with
      | nil => simp [after?] at found
      | cons b text =>
          simp only [after?, Option.ite_none_right_eq_some] at found
          have := ih found.2
          simp only [List.length_cons]
          omega

section LawfulBEq

variable [LawfulBEq α]

theorem eq_append_of_after?_eq_some {beginning text rest : List α}
    (found : after? beginning text = some rest) : text = beginning ++ rest := by
  induction beginning generalizing text with
  | nil => exact Option.some.inj found
  | cons a beginning ih =>
      cases text with
      | nil => simp [after?] at found
      | cons b text =>
          simp only [after?, Option.ite_none_right_eq_some, beq_iff_eq] at found
          rw [found.1, ih found.2, List.cons_append]

theorem eq_append_of_before?_eq_some {ending text rest : List α}
    (found : before? ending text = some rest) : text = rest ++ ending := by
  obtain ⟨reversed, isReversed, rfl⟩ := Option.map_eq_some_iff.mp found
  have split := congrArg List.reverse (eq_append_of_after?_eq_some isReversed)
  simpa using split

theorem after?_eq_none_of_not_prefix {beginning text : List α}
    (differs : ¬ beginning <+: text) : after? beginning text = none := by
  rw [Option.eq_none_iff_forall_ne_some]
  intro rest found
  exact differs ⟨rest, (eq_append_of_after?_eq_some found).symm⟩

theorem before?_eq_none_of_not_suffix {ending text : List α}
    (differs : ¬ ending <:+ text) : before? ending text = none := by
  rw [Option.eq_none_iff_forall_ne_some]
  intro rest found
  exact differs ⟨rest, (eq_append_of_before?_eq_some found).symm⟩

end LawfulBEq

/-- A text begins as before if what is put behind it has none of the letters
that it should begin with. -/
theorem isPrefix_of_append {β : Type} {beginning text back : List β}
    (begins : beginning <+: text ++ back) (apart : ∀ c ∈ beginning, c ∉ back) :
    beginning <+: text := by
  rcases List.prefix_or_prefix_of_prefix begins (List.prefix_append text back)
    with inText | ⟨others, rfl⟩
  · exact inText
  · have inBack : others <+: back :=
      (List.prefix_append_right_inj text).mp begins
    cases others with
    | nil => simp
    | cons c others =>
        have atEnd : c ∈ text ++ c :: others :=
          List.mem_append_right text List.mem_cons_self
        exact absurd (inBack.subset List.mem_cons_self) (apart c atEnd)

/-- The pieces of a text between the separators in it.  The first letter of the
separator is given apart from the others, as no separator is empty. -/
def pieces (first : α) (others : List α) : List α → List (List α)
  | [] => [[]]
  | a :: text =>
    if a == first then
      match _found : after? others text with
      | some rest => [] :: pieces first others rest
      | none => (pieces first others text).modifyHead (a :: ·)
    else (pieces first others text).modifyHead (a :: ·)
termination_by text => text.length
decreasing_by
  all_goals simp only [List.length_cons]
  · have := length_of_after?_eq_some _found
    omega
  all_goals omega

variable [LawfulBEq α] {first : α} {others : List α}

theorem pieces_cons_of_ne {a : α} (differs : a ≠ first) (text : List α) :
    pieces first others (a :: text) =
      (pieces first others text).modifyHead (a :: ·) := by
  rw [pieces, if_neg (by simpa using differs)]

theorem pieces_separator_append (rest : List α) :
    pieces first others (first :: (others ++ rest)) =
      [] :: pieces first others rest := by
  rw [pieces, if_pos (by simp)]
  split
  · next found =>
      rw [after?_append, Option.some.injEq] at found
      rw [found]
  · next missed =>
      rw [after?_append] at missed
      cases missed

theorem pieces_append_of_not_mem {piece : List α} (apart : first ∉ piece)
    (rest : List α) :
    pieces first others (piece ++ rest) =
      (pieces first others rest).modifyHead (piece ++ ·) := by
  induction piece with
  | nil =>
      rw [List.nil_append]
      cases pieces first others rest <;> rfl
  | cons a piece ih =>
      rw [List.mem_cons, not_or] at apart
      rw [List.cons_append, pieces_cons_of_ne (Ne.symm apart.1), ih apart.2,
        List.modifyHead_modifyHead]
      rfl

/-- Splitting undoes joining. -/
theorem pieces_intercalate {parts : List (List α)} (nonempty : parts ≠ [])
    (apart : ∀ part ∈ parts, first ∉ part) :
    pieces first others ((first :: others).intercalate parts) = parts := by
  induction parts with
  | nil => exact absurd rfl nonempty
  | cons part parts ih =>
      obtain ⟨inPart, inOthers⟩ := List.forall_mem_cons.mp apart
      cases parts with
      | nil =>
          have alone : pieces first others (part ++ []) = _ :=
            pieces_append_of_not_mem inPart []
          simpa [pieces] using alone
      | cons next parts =>
          rw [List.intercalate_cons_cons, List.append_assoc,
            pieces_append_of_not_mem inPart, List.cons_append,
            pieces_separator_append, ih (by simp) inOthers]
          simp

end DrivewayWatch.Text
