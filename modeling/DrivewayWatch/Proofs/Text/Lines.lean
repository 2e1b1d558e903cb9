import DrivewayWatch.Text.Lines
import Mathlib.Tactic.Common

/-!
# Lines, cut and joined

No line of a text holds a line feed, and lines without one are what the text
that is joined from them is cut into.
-/

namespace DrivewayWatch.Text.Lines

/-- The text with these lines, each with its line feed. -/
def join (lines : List Bytes) : Bytes :=
  lines.flatMap (· ++ [lineFeed])

theorem ofBytes_append_lineFeed {line : Bytes} (inside : lineFeed ∉ line)
    (rest : Bytes) :
    ofBytes (line ++ lineFeed :: rest) = line :: ofBytes rest := by
  induction line with
  | nil => simp [ofBytes]
  | cons byte line ih =>
      have isOther : byte ≠ lineFeed := fun same =>
        inside (same ▸ List.mem_cons_self)
      have cut := ih fun member => inside (List.mem_cons_of_mem _ member)
      rw [List.cons_append, ofBytes, if_neg isOther, cut, addFront]

theorem ofBytes_join {lines : List Bytes}
    (inside : ∀ line ∈ lines, lineFeed ∉ line) :
    ofBytes (join lines) = lines := by
  induction lines with
  | nil => rfl
  | cons line lines ih =>
      obtain ⟨inLine, inOthers⟩ := List.forall_mem_cons.mp inside
      have joined : join (line :: lines) = line ++ lineFeed :: join lines := by
        simp [join]
      rw [joined, ofBytes_append_lineFeed inLine, ih inOthers]

theorem not_mem_of_mem_addFront {byte : UInt8} {lines : List Bytes}
    (isOther : byte ≠ lineFeed) (inside : ∀ line ∈ lines, lineFeed ∉ line) :
    ∀ line ∈ addFront byte lines, lineFeed ∉ line := by
  cases lines with
  | nil => simpa [addFront] using isOther.symm
  | cons first lines =>
      obtain ⟨inFirst, inOthers⟩ := List.forall_mem_cons.mp inside
      rw [addFront, List.forall_mem_cons]
      refine ⟨?_, inOthers⟩
      rw [List.mem_cons, not_or]
      exact ⟨isOther.symm, inFirst⟩

theorem not_mem_of_mem_ofBytes (text : Bytes) :
    ∀ line ∈ ofBytes text, lineFeed ∉ line := by
  induction text with
  | nil => simp [ofBytes]
  | cons byte rest ih =>
      rw [ofBytes]
      by_cases ends : byte = lineFeed
      · rw [if_pos ends, List.forall_mem_cons]
        exact ⟨List.not_mem_nil, ih⟩
      · rw [if_neg ends]
        exact not_mem_of_mem_addFront ends ih

end DrivewayWatch.Text.Lines
