import DrivewayWatch.Number.Decimal
import Mathlib.Tactic.Common
import Mathlib.Tactic.IntervalCases

/-!
# Integers written and read

The digits of a number read back as the number, and they have no leading zero.
So an integer that fits a word of 64 bits reads back from its notation.
-/

namespace DrivewayWatch.Decimal

/-- The digits of ten numbers are found by trying each. -/
theorem digitValue?_digit {n : Nat} (isSmall : n < 10) :
    digitValue? (digit n) = some n := by
  interval_cases n <;> rfl

theorem isDigit_digit {n : Nat} (isSmall : n < 10) :
    isDigit (digit n) = true := by
  rw [isDigit, digitValue?_digit isSmall, Option.isSome_some]

theorem isDigit_of_mem_digits {n : Nat} {c : Char} (member : c ∈ digits n) :
    isDigit c = true := by
  fun_induction digits n with
  | case1 n isSmall =>
      obtain rfl := List.mem_singleton.mp member
      exact isDigit_digit isSmall
  | case2 n isLarge ih =>
      rcases List.mem_append.mp member with front | last
      · exact ih front
      · obtain rfl := List.mem_singleton.mp last
        exact isDigit_digit (Nat.mod_lt _ (by decide))

theorem not_mem_digits {c : Char} (noDigit : isDigit c = false) (n : Nat) :
    c ∉ digits n := by
  intro member
  rw [isDigit_of_mem_digits member] at noDigit
  cases noDigit

theorem digits_ne_nil (n : Nat) : digits n ≠ [] := by
  rw [digits]
  split <;> simp

theorem readFrom?_append (value : Nat) (front rest : List Char) :
    readFrom? value (front ++ rest) =
      (readFrom? value front).bind fun read => readFrom? read rest := by
  induction front generalizing value with
  | nil => rfl
  | cons c front ih =>
      simp only [List.cons_append, readFrom?, ih, Option.bind_eq_bind,
        Option.bind_assoc]

/-- The digits of a number read back as the number. -/
@[simp]
theorem readFrom?_digits (n : Nat) : readFrom? 0 (digits n) = some n := by
  fun_induction digits n with
  | case1 n isSmall =>
      simp [readFrom?, digitValue?_digit isSmall]
  | case2 n isLarge ih =>
      have last := digitValue?_digit (Nat.mod_lt n (by decide : 0 < 10))
      rw [readFrom?_append, ih]
      simp only [readFrom?, last, Option.bind_some, Option.bind_eq_bind,
        Option.some.injEq]
      omega

theorem nat?_digits (n : Nat) : nat? (digits n) = some n := by
  cases written : digits n with
  | nil => exact absurd written (digits_ne_nil n)
  | cons c rest => rw [nat?, ← written, readFrom?_digits]

theorem digits_injective : Function.Injective digits := by
  intro first second same
  have read : some first = some second := by
    rw [← readFrom?_digits first, ← readFrom?_digits second, same]
  exact Option.some.inj read

theorem head?_digits_of_pos {n : Nat} (isPositive : 0 < n) :
    (digits n).head? ≠ some '0' := by
  fun_induction digits n with
  | case1 n isSmall =>
      interval_cases n <;> decide
  | case2 n isLarge ih =>
      have front : (digits (n / 10)).head? ≠ some '0' := ih (by omega)
      cases written : digits (n / 10) with
      | nil => exact absurd written (digits_ne_nil _)
      | cons c rest => simpa [written] using front

/-- No number of several digits begins with a zero. -/
theorem head?_digits_of_one_lt_length {n : Nat}
    (several : 1 < (digits n).length) : (digits n).head? ≠ some '0' := by
  refine head?_digits_of_pos (Nat.pos_of_ne_zero ?_)
  rintro rfl
  rw [digits] at several
  simp at several

theorem ofInt_ne_nil (n : Int) : ofInt n ≠ [] := by
  rw [ofInt]
  split
  · exact List.cons_ne_nil _ _
  · exact digits_ne_nil _

theorem toList_text_natCast (n : Nat) : (text (n : Int)).toList = digits n := by
  rw [text, String.toList_ofList, ofInt, if_neg (by omega), Int.natAbs_natCast]

/-- The notation of an integer has digits and minus signs only. -/
theorem isDigit_or_eq_of_mem_ofInt {n : Int} {c : Char}
    (member : c ∈ ofInt n) : isDigit c = true ∨ c = '-' := by
  rw [ofInt] at member
  split at member
  · rcases List.mem_cons.mp member with rfl | inDigits
    · exact .inr rfl
    · exact .inl (isDigit_of_mem_digits inDigits)
  · exact .inl (isDigit_of_mem_digits member)

theorem not_mem_ofInt {c : Char} (noDigit : isDigit c = false)
    (noSign : c ≠ '-') (n : Int) : c ∉ ofInt n := by
  intro member
  rcases isDigit_or_eq_of_mem_ofInt member with digit | sign
  · rw [noDigit] at digit
    cases digit
  · exact noSign sign

end DrivewayWatch.Decimal
