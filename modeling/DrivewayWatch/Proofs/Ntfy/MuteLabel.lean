import DrivewayWatch.Ntfy.Message
import DrivewayWatch.Proofs.Number.Decimal
import DrivewayWatch.Proofs.Text.Search
import Mathlib.Data.Set.Function

/-!
# Labels of mute buttons

A label shows the whole minutes of a time, and an hour and more as hours and
minutes.  What it shows can be read from it: `minutesOf?_muteLabel`.  So buttons
for different numbers of whole minutes have different labels.
-/

namespace DrivewayWatch.Ntfy

open Decimal

/-- The parts of a label that show a number of minutes. -/
def shownParts (minutes : Nat) : List (List Char) :=
  if minutes < 60 then [digits minutes ++ ['m']]
  else if minutes % 60 = 0 then [digits (minutes / 60) ++ ['h']]
  else [digits (minutes / 60) ++ ['h'], digits (minutes % 60) ++ ['m']]

/-- Nothing of a time shows but its whole minutes. -/
theorem toList_timeLabel (seconds : Nat) :
    (timeLabel seconds).toList =
      [' '].intercalate (shownParts (seconds / 60)) := by
  -- Both kinds of division agree on numbers that are not negative.
  have hours : (seconds : Int).tdiv 3600 = (seconds / 60 / 60 : Nat) := by
    rw [Nat.div_div_eq_div_mul]
    rfl
  have minutes : ((seconds : Int).tmod 3600).tdiv 60 =
      (seconds / 60 % 60 : Nat) := by
    rw [← Nat.mod_mul_right_div_self]
    rfl
  have whole : (seconds : Int).tdiv 60 = (seconds / 60 : Nat) := rfl
  rw [timeLabel, hours, minutes, whole, shownParts]
  by_cases isShort : seconds / 60 < 60
  · rw [if_neg (by omega), if_pos isShort]
    generalize seconds / 60 = shown
    simp [toList_text_natCast]
  · rw [if_pos (by omega), if_neg isShort]
    generalize seconds / 60 / 60 = shownHours
    generalize seconds / 60 % 60 = shownMinutes
    by_cases isFull : shownMinutes = 0
    · simp [isFull, toList_text_natCast]
    · simp [isFull, toList_text_natCast]

/-- The minutes in a part of a label, which ends with the letter of its unit. -/
def minutesOfPart? (part : List Char) : Option Nat :=
  match part.getLast? with
  | some 'h' => (nat? part.dropLast).map (60 * ·)
  | some 'm' => nat? part.dropLast
  | _ => none

/-- The minutes in all parts of a label. -/
def minutesOfParts? : List (List Char) → Option Nat
  | [] => some 0
  | part :: parts => do
    return (← minutesOfPart? part) + (← minutesOfParts? parts)

/-- The minutes that a label names. -/
def minutesOf? (label : String) : Option Nat :=
  if label = "Unmute" then some 0
  else (Text.after? "Mute ".toList label.toList).bind fun time =>
    minutesOfParts? (Text.pieces ' ' [] time)

theorem minutesOfPart?_hours (n : Nat) :
    minutesOfPart? (digits n ++ ['h']) = some (60 * n) := by
  simp [minutesOfPart?, nat?_digits]

theorem minutesOfPart?_minutes (n : Nat) :
    minutesOfPart? (digits n ++ ['m']) = some n := by
  simp [minutesOfPart?, nat?_digits]

theorem minutesOfParts?_shownParts (minutes : Nat) :
    minutesOfParts? (shownParts minutes) = some minutes := by
  unfold shownParts
  split_ifs with isShort isFull
  · simp [minutesOfParts?, minutesOfPart?_minutes]
  · have whole : 60 * (minutes / 60) = minutes := by omega
    simp [minutesOfParts?, minutesOfPart?_hours, whole]
  · have sum : 60 * (minutes / 60) + minutes % 60 = minutes :=
      Nat.div_add_mod minutes 60
    simp [minutesOfParts?, minutesOfPart?_hours, minutesOfPart?_minutes, sum]

/-- A label is cut between its parts and nowhere else. -/
theorem pieces_shownParts (minutes : Nat) :
    Text.pieces ' ' [] ([' '].intercalate (shownParts minutes)) =
      shownParts minutes := by
  have inDigits : ∀ n, ' ' ∉ digits n := not_mem_digits rfl
  apply Text.pieces_intercalate
  · unfold shownParts
    split_ifs <;> simp
  · unfold shownParts
    split_ifs <;> simp [inDigits]

theorem toList_muteLabel {seconds : Nat} (isSome : seconds ≠ 0) :
    (muteLabel seconds).toList = "Mute ".toList ++
      [' '].intercalate (shownParts (seconds / 60)) := by
  rw [muteLabel, if_neg (by omega), String.toList_append, toList_timeLabel]

theorem muteLabel_eq_unmute_iff (seconds : Nat) :
    muteLabel seconds = "Unmute" ↔ seconds = 0 := by
  constructor
  · intro same
    by_contra isSome
    have label := toList_muteLabel isSome
    rw [same] at label
    simp at label
  · rintro rfl
    rfl

/-- A label names the whole minutes of its time. -/
theorem minutesOf?_muteLabel (seconds : Nat) :
    minutesOf? (muteLabel seconds) = some (seconds / 60) := by
  by_cases isZero : seconds = 0
  · subst isZero
    rfl
  · rw [minutesOf?, if_neg ((muteLabel_eq_unmute_iff seconds).not.mpr isZero),
      toList_muteLabel isZero, Text.after?_append, Option.bind_some,
      pieces_shownParts, minutesOfParts?_shownParts]

example : ["Unmute", "Mute 10m", "Mute 1h", "Mute 1h 30m"].map minutesOf? =
    [some 0, some 10, some 60, some 90] := by
  decide +kernel

/-- Two times have one label exactly if both are nothing or neither is, and
their whole minutes are the same. -/
theorem muteLabel_eq_muteLabel_iff (first second : Nat) :
    muteLabel first = muteLabel second ↔
      (first = 0 ↔ second = 0) ∧ first / 60 = second / 60 := by
  constructor
  · intro same
    constructor
    · rw [← muteLabel_eq_unmute_iff, same, muteLabel_eq_unmute_iff]
    · have named := congrArg minutesOf? same
      rwa [minutesOf?_muteLabel, minutesOf?_muteLabel, Option.some.injEq]
        at named
  · rintro ⟨bothZero, sameMinutes⟩
    by_cases isZero : first = 0
    · rw [isZero, bothZero.mp isZero]
    · apply String.toList_injective
      rw [toList_muteLabel isZero, toList_muteLabel (bothZero.not.mp isZero),
        sameMinutes]

/-- What a label tells.  The label of whole minutes names their number, so no
two times of whole minutes have one label, be it "Unmute" or one with minutes,
with hours or with both.  The seconds beyond the last whole minute do not show,
except that less than a minute is told from nothing. -/
theorem labels_determine_whole_minutes :
    (∀ minutes : Nat, minutesOf? (muteLabel (60 * minutes)) = some minutes) ∧
    Set.InjOn muteLabel {seconds : Int | 0 ≤ seconds ∧ 60 ∣ seconds} ∧
    ∀ first second : Nat, muteLabel first = muteLabel second ↔
      (first = 0 ↔ second = 0) ∧ first / 60 = second / 60 := by
  have named : ∀ minutes : Nat,
      minutesOf? (muteLabel (60 * minutes)) = some minutes := by
    intro minutes
    have read := minutesOf?_muteLabel (60 * minutes)
    rwa [Int.natCast_mul, Nat.mul_div_cancel_left minutes (by decide)] at read
  refine ⟨named, ?_, muteLabel_eq_muteLabel_iff⟩
  rintro _ ⟨firstNonneg, first, rfl⟩ _ ⟨secondNonneg, second, rfl⟩ same
  lift first to Nat using by omega
  lift second to Nat using by omega
  have sameMinutes := congrArg minutesOf? same
  rw [named, named, Option.some.injEq] at sameMinutes
  rw [sameMinutes]

end DrivewayWatch.Ntfy
