import DrivewayWatch.Intake.Record
import DrivewayWatch.Proofs.Time.Elapsed
import Mathlib.Algebra.Ring.Nat

/-!
# Instants that are read

Both readers accept the second 60 in any minute, and fractions of any length.
What they yield is proper all the same: the fraction is less than a second, or
less than two in a leap second, and a leap second ends its minute in whatever
zone it was written, as offsets are whole minutes.
-/

namespace DrivewayWatch

namespace Decimal

theorem digitValue?_lt {c : Char} {value : Nat}
    (read : digitValue? c = some value) : value < 10 := by
  simp only [digitValue?, Option.ite_none_right_eq_some,
    Option.some.injEq] at read
  obtain ⟨⟨-, upTo⟩, rfl⟩ := read
  have : c.toNat ≤ '9'.toNat := upTo
  simp at this ⊢
  omega

theorem readFrom?_lt {value number : Nat} {text : List Char}
    (read : readFrom? value text = some number) :
    number < (value + 1) * 10 ^ text.length := by
  induction text generalizing value with
  | nil =>
      simp only [readFrom?, Option.some.injEq] at read
      simp [read]
  | cons c text ih =>
      simp only [readFrom?, Option.bind_eq_bind,
        Option.bind_eq_some_iff] at read
      obtain ⟨digit, isDigit, readRest⟩ := read
      have digitBound := digitValue?_lt isDigit
      calc
        number < (value * 10 + digit + 1) * 10 ^ text.length := ih readRest
        _ ≤ (value + 1) * 10 * 10 ^ text.length :=
          Nat.mul_le_mul_right _ (by omega)
        _ = (value + 1) * 10 ^ (c :: text).length := by
          rw [List.length_cons, Nat.pow_succ, Nat.mul_assoc, Nat.mul_comm 10]

end Decimal

namespace Reading

theorem number?_lt {least most value : Nat} {text rest : List Char}
    (read : number? least most text = some (value, rest)) :
    text.length - rest.length ≤ most ∧
      value < 10 ^ (text.length - rest.length) := by
  simp only [number?, Option.ite_none_left_eq_some, Option.bind_eq_bind,
    Option.bind_eq_some_iff, Option.ite_none_right_eq_some,
    Option.some.injEq, Prod.mk.injEq] at read
  obtain ⟨-, _, digits, -, rfl, rfl⟩ := read
  have within : ((text.take most).takeWhile Decimal.isDigit).length ≤
      (text.take most).length := (List.takeWhile_sublist _).length_le
  rw [List.length_take] at within
  have taken : text.length -
      (text.drop ((text.take most).takeWhile Decimal.isDigit).length).length =
        ((text.take most).takeWhile Decimal.isDigit).length := by
    rw [List.length_drop]
    omega
  rw [taken]
  exact ⟨by omega, by simpa using Decimal.readFrom?_lt digits⟩

theorem fraction?_lt {nanosecond : Nat} {text rest : List Char}
    (read : fraction? text = some (nanosecond, rest)) :
    nanosecond < 1000000000 := by
  simp only [fraction?, Option.bind_eq_bind, Option.bind_eq_some_iff,
    Prod.exists, Option.pure_def, Option.some.injEq, Prod.mk.injEq] at read
  obtain ⟨value, afterDigits, digits, rfl, -⟩ := read
  obtain ⟨atMost, bound⟩ := number?_lt digits
  calc
    value * 10 ^ (9 - (text.length - afterDigits.length)) <
        10 ^ (text.length - afterDigits.length) *
          10 ^ (9 - (text.length - afterDigits.length)) :=
      Nat.mul_lt_mul_of_pos_right bound (Nat.pow_pos (by decide))
    _ = 1000000000 := by
      rw [← Nat.pow_add, Nat.add_sub_cancel' atMost]

theorem optionalFraction?_lt {nanosecond : Nat} {text rest : List Char}
    (read : optionalFraction? text = some (nanosecond, rest)) :
    nanosecond < 1000000000 := by
  unfold optionalFraction? at read
  split at read
  · exact fraction?_lt read
  · obtain ⟨rfl, -⟩ := Prod.mk.inj (Option.some.inj read)
    decide

/-- An offset is a number of whole minutes. -/
theorem offset?_emod {divider? : List Char → Option (List Char)}
    {text rest : List Char} {offset : Int}
    (read : offset? divider? text = some (offset, rest)) : offset % 60 = 0 := by
  unfold offset? at read
  split at read
  · obtain ⟨rfl, -⟩ := Prod.mk.inj (Option.some.inj read)
    rfl
  · obtain ⟨rfl, -⟩ := Prod.mk.inj (Option.some.inj read)
    rfl
  · simp only [Option.bind_eq_bind, Option.bind_eq_some_iff, Prod.exists,
      Option.ite_none_left_eq_some, Option.some.injEq, Prod.mk.injEq] at read
    obtain ⟨negative, _, -, hours, _, -, _, -, minutes, _, -, -, rfl, -⟩ :=
      read
    split <;> omega

theorem looseOffset?_emod {text rest : List Char} {offset : Int}
    (read : looseOffset? text = some (offset, rest)) : offset % 60 = 0 := by
  unfold looseOffset? at read
  split at read
  · obtain ⟨rfl, -⟩ := Prod.mk.inj (Option.some.inj read)
    rfl
  · exact offset?_emod read

theorem Fields.isProper_of_instant? {fields : Fields} {zoned : ZonedInstant}
    (read : fields.instant? = some zoned)
    (fraction : fields.nanosecond < 1000000000)
    (wholeMinutes : fields.offset % 60 = 0) : zoned.instant.IsProper := by
  simp only [instant?, Option.ite_none_right_eq_some,
    Option.some.injEq] at read
  obtain ⟨-, -, rfl⟩ := read
  by_cases leap : fields.second = 60
  · refine ⟨?_, fun _ => ?_⟩ <;> simp [leap] <;> omega
  · refine ⟨?_, fun isLeap => ?_⟩
    · simp [leap]
      omega
    · simp [leap, Instant.isLeap] at isLeap
      omega

/-- What the lenient reader yields is proper. -/
theorem isProper_of_lenient? {text : List Char} {zoned : ZonedInstant}
    (read : lenient? text = some zoned) : zoned.instant.IsProper := by
  simp only [lenient?, Option.bind_eq_bind, Option.bind_eq_some_iff,
    Prod.exists, Option.ite_none_right_eq_some] at read
  obtain ⟨_, _, -, _, -, _, _, -, _, -, _, _, -, _, -, _, _, -, _, -, _, _, -,
    _, -, _, _, -, _, _, fraction, _, _, offset, -, fields⟩ := read
  exact Fields.isProper_of_instant? fields (optionalFraction?_lt fraction)
    (looseOffset?_emod offset)

theorem isProper_of_strict? {text : List Char} {zoned : ZonedInstant}
    (read : strict? text = some zoned) : zoned.instant.IsProper := by
  simp only [strict?, Option.bind_eq_bind, Option.bind_eq_some_iff,
    Prod.exists, Option.ite_none_right_eq_some] at read
  obtain ⟨_, _, -, _, -, _, _, -, _, -, _, _, -, _, -, _, _, -, _, -, _, _, -,
    _, -, _, _, -, _, _, fraction, _, _, offset, -, fields⟩ := read
  exact Fields.isProper_of_instant? fields (optionalFraction?_lt fraction)
    (offset?_emod offset)

end Reading

/-- The times of the records that are taken in are proper. -/
theorem Intake.isProper_of_time? {document : Json.Document}
    {instant : Instant} (read : time? document = some instant) :
    instant.IsProper := by
  simp only [time?, Option.bind_eq_bind, Option.bind_eq_some_iff,
    Option.pure_def, Option.some.injEq] at read
  obtain ⟨_, -, _, lenient, rfl⟩ := read
  exact Reading.isProper_of_lenient? lenient

end DrivewayWatch
