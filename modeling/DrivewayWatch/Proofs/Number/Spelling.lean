import DrivewayWatch.Proofs.Number.Decimal
import DrivewayWatch.Text.Blank
import Mathlib.Data.Nat.Digits.Defs

/-!
# What spells an integer

The readers of integers accept exactly the texts of at most one sign and at
least one digit, and the number that they find is the sum of the digits at their
places.
-/

namespace DrivewayWatch.Decimal

/-- At least one digit and nothing else. -/
structure IsNumeral (text : List Char) : Prop where
  nonempty : text ≠ []
  digits : ∀ c ∈ text, '0' ≤ c ∧ c ≤ '9'

/-- The sum of the digits at their places. -/
def numberOf (digits : List Char) : Nat :=
  Nat.ofDigits 10 (digits.reverse.map fun c => c.toNat - '0'.toNat)

/-- The texts that spell an integer: digits with at most one sign in front. -/
inductive Denotes : List Char → Int → Prop
  | plain {digits : List Char} (isNumeral : IsNumeral digits) :
      Denotes digits (numberOf digits)
  | plus {digits : List Char} (isNumeral : IsNumeral digits) :
      Denotes ('+' :: digits) (numberOf digits)
  | minus {digits : List Char} (isNumeral : IsNumeral digits) :
      Denotes ('-' :: digits) (-numberOf digits)

theorem numberOf_cons (c : Char) (rest : List Char) :
    numberOf (c :: rest) =
      (c.toNat - '0'.toNat) * 10 ^ rest.length + numberOf rest := by
  rw [numberOf, List.reverse_cons, List.map_append, Nat.ofDigits_append,
    List.length_map, List.length_reverse, List.map_singleton,
    Nat.ofDigits_singleton, numberOf]
  ring

theorem digitValue?_eq_some_iff {c : Char} {digit : Nat} :
    digitValue? c = some digit ↔
      ('0' ≤ c ∧ c ≤ '9') ∧ c.toNat - '0'.toNat = digit := by
  rw [digitValue?]
  split
  · next isDigit => simp [isDigit]
  · next noDigit => simp [noDigit]

/-- A reader that goes on from a number moves it by one place for each digit. -/
theorem readFrom?_eq_some_iff {value n : Nat} {text : List Char} :
    readFrom? value text = some n ↔
      (∀ c ∈ text, '0' ≤ c ∧ c ≤ '9') ∧
        value * 10 ^ text.length + numberOf text = n := by
  induction text generalizing value with
  | nil => simp [readFrom?, numberOf]
  | cons c rest ih =>
      rw [readFrom?, Option.bind_eq_bind, Option.bind_eq_some_iff]
      simp only [digitValue?_eq_some_iff, ih, List.forall_mem_cons,
        numberOf_cons, List.length_cons]
      constructor
      · rintro ⟨_, ⟨isDigit, rfl⟩, digits, rfl⟩
        exact ⟨⟨isDigit, digits⟩, by ring⟩
      · rintro ⟨⟨isDigit, digits⟩, rfl⟩
        exact ⟨_, ⟨isDigit, rfl⟩, digits, by ring⟩

theorem nat?_eq_some_iff {text : List Char} {n : Nat} :
    nat? text = some n ↔ IsNumeral text ∧ numberOf text = n := by
  cases text with
  | nil =>
      constructor
      · intro read
        cases read
      · rintro ⟨isNumeral, -⟩
        exact absurd rfl isNumeral.nonempty
  | cons c rest =>
      rw [nat?, readFrom?_eq_some_iff, Nat.zero_mul, Nat.zero_add]
      constructor
      · rintro ⟨digits, value⟩
        exact ⟨⟨List.cons_ne_nil _ _, digits⟩, value⟩
      · rintro ⟨isNumeral, value⟩
        exact ⟨isNumeral.digits, value⟩

theorem map_nat?_eq_some_iff {text : List Char} {sign : Nat → Int} {n : Int} :
    (nat? text).map sign = some n ↔
      IsNumeral text ∧ sign (numberOf text) = n := by
  rw [Option.map_eq_some_iff]
  constructor
  · rintro ⟨value, found, rfl⟩
    obtain ⟨isNumeral, rfl⟩ := nat?_eq_some_iff.mp found
    exact ⟨isNumeral, rfl⟩
  · rintro ⟨isNumeral, rfl⟩
    exact ⟨_, nat?_eq_some_iff.mpr ⟨isNumeral, rfl⟩, rfl⟩

/-- No numeral begins with a sign. -/
theorem IsNumeral.ne_cons {text : List Char} (isNumeral : IsNumeral text)
    {c : Char} (isSign : c = '+' ∨ c = '-') (rest : List Char) :
    text ≠ c :: rest := by
  rintro rfl
  have isDigit := isNumeral.digits c List.mem_cons_self
  rcases isSign with rfl | rfl <;> exact absurd isDigit (by decide)

theorem int?_eq_some_iff {text : List Char} {n : Int} :
    int? text = some n ↔ Denotes text n := by
  constructor
  · intro read
    fun_cases int? text with
    | case1 rest =>
        obtain ⟨isNumeral, rfl⟩ := map_nat?_eq_some_iff.mp read
        exact .plus isNumeral
    | case2 rest =>
        obtain ⟨isNumeral, rfl⟩ := map_nat?_eq_some_iff.mp read
        exact .minus isNumeral
    | case3 _ noPlus noMinus =>
        rw [int?.eq_3 _ noPlus noMinus] at read
        obtain ⟨isNumeral, rfl⟩ := map_nat?_eq_some_iff.mp read
        exact .plain isNumeral
  · intro denotes
    cases denotes with
    | plain isNumeral =>
        rw [int?.eq_3 text (isNumeral.ne_cons (.inl rfl))
          (isNumeral.ne_cons (.inr rfl))]
        exact map_nat?_eq_some_iff.mpr ⟨isNumeral, rfl⟩
    | plus isNumeral => exact map_nat?_eq_some_iff.mpr ⟨isNumeral, rfl⟩
    | minus isNumeral => exact map_nat?_eq_some_iff.mpr ⟨isNumeral, rfl⟩

/-- The reader of words of 64 bits takes no other number for one of them. -/
theorem int64?_eq_some_iff {text : List Char} {n : Int} :
    int64? text = some n ↔ Denotes text n ∧ Word.isSigned n = true := by
  rw [int64?, Option.filter_eq_some_iff, int?_eq_some_iff]

theorem isNumeral_digits (n : Nat) : IsNumeral (digits n) where
  nonempty := digits_ne_nil n
  digits c member := by
    have isDigit := isDigit_of_mem_digits member
    obtain ⟨_, found⟩ := Option.isSome_iff_exists.mp isDigit
    exact (digitValue?_eq_some_iff.mp found).1

theorem numberOf_digits (n : Nat) : numberOf (digits n) = n := by
  have read := (readFrom?_eq_some_iff.mp (readFrom?_digits n)).2
  rwa [Nat.zero_mul, Nat.zero_add] at read

theorem denotes_ofInt (n : Int) : Denotes (ofInt n) n := by
  have isNumeral := isNumeral_digits n.natAbs
  have value := numberOf_digits n.natAbs
  rw [ofInt]
  split
  · next negative =>
      have spelled := Denotes.minus isNumeral
      rwa [value, show -(n.natAbs : Int) = n by omega] at spelled
  · next nonneg =>
      have spelled := Denotes.plain isNumeral
      rwa [value, show (n.natAbs : Int) = n by omega] at spelled

/-- No character of what spells an integer is blank. -/
theorem Denotes.isBlank_eq_false {text : List Char} {n : Int}
    (denotes : Denotes text n) : ∀ c ∈ text, Text.isBlank c = false := by
  have ofNumeral {digits : List Char} (isNumeral : IsNumeral digits) :
      ∀ c ∈ digits, Text.isBlank c = false := by
    intro c member
    obtain ⟨notBelow, notAbove⟩ := isNumeral.digits c member
    have least : 48 ≤ c.toNat := notBelow
    have greatest : c.toNat ≤ 57 := notAbove
    simp only [Text.isBlank, Bool.or_eq_false_iff, Bool.and_eq_false_iff,
      decide_eq_false_iff_not, beq_eq_false_iff_ne]
    omega
  cases denotes with
  | plain isNumeral => exact ofNumeral isNumeral
  | plus isNumeral =>
      exact List.forall_mem_cons.mpr ⟨by decide, ofNumeral isNumeral⟩
  | minus isNumeral =>
      exact List.forall_mem_cons.mpr ⟨by decide, ofNumeral isNumeral⟩

end DrivewayWatch.Decimal
