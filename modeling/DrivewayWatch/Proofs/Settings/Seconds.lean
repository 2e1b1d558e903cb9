import DrivewayWatch.Ntfy.Settings
import DrivewayWatch.Proofs.Number.Extended
import DrivewayWatch.Proofs.Tracking.Checks

/-!
# Seconds in settings

Configured seconds become whole microseconds, or whole milliseconds for the time
between two messages.  Read as exact numbers they are rounded to the nearest
unit, a half away from zero, as long as that fits 64 bits.  Beyond, microseconds
jump to the longest duration, which is greater than all of them, and
milliseconds stop at it, so the order is kept.  Floating-point numbers are rounded once more
before, which does not change the order either.
-/

namespace DrivewayWatch

open ExtendedRational

section Exact

variable {amount other : ExtendedRational}

theorem infinity_of_pos {x : Rat} (positive : 0 < x) : infinity x = above :=
  if_pos positive

theorem infinity_of_neg {x : Rat} (negative : x < 0) : infinity x = below := by
  rw [infinity, if_neg negative.not_gt, if_pos negative]

theorem round_above_mul {k : Nat} (positive : 0 < k) :
    Scalar.round (above * Scalar.ofNat k) = .above := by
  have sign : (0 : Rat) < 1 * k := by
    rw [one_mul]
    exact Nat.cast_pos.mpr positive
  exact congrArg rounded (infinity_of_pos sign)

theorem round_below_mul {k : Nat} (positive : 0 < k) :
    Scalar.round (below * Scalar.ofNat k) = .below := by
  have sign : -1 * (k : Rat) < 0 := by
    rw [neg_one_mul, neg_lt_zero]
    exact Nat.cast_pos.mpr positive
  exact congrArg rounded (infinity_of_neg sign)

theorem extended_le_cases (notMore : amount ≤ other) :
    amount = below ∨ other = above ∨
      ∃ x y, amount = number x ∧ other = number y ∧ x ≤ y := by
  cases amount with
  | below => exact .inl rfl
  | number x =>
      cases other with
      | below => exact notMore.elim
      | number y => exact .inr (.inr ⟨x, y, rfl, rfl, notMore⟩)
      | above => exact .inr (.inl rfl)
  | above =>
      cases other with
      | above => exact .inr (.inl rfl)
      | _ => exact notMore.elim

theorem extended_nonneg_cases (nonneg : number 0 ≤ amount) :
    amount = above ∨ ∃ x, amount = number x ∧ 0 ≤ x := by
  rcases extended_le_cases nonneg with
    isBelow | isAbove | ⟨x, y, isZero, isNumber, notMore⟩
  · cases isBelow
  · exact .inl isAbove
  · cases isZero
    exact .inr ⟨y, isNumber, notMore⟩

theorem roundRational_mul_nonneg {x : Rat} (nonneg : 0 ≤ x) (k : Nat) :
    0 ≤ roundRational (x * k) := by
  rw [roundRational_of_nonneg (mul_nonneg nonneg (Nat.cast_nonneg k))]
  exact Int.natCast_nonneg _

theorem roundRational_mul_mono {x y : Rat} (notMore : x ≤ y) (k : Nat) :
    roundRational (x * k) ≤ roundRational (y * k) :=
  roundRational_mono (mul_le_mul_of_nonneg_right notMore (Nat.cast_nonneg k))

namespace Duration

theorem ofSeconds_below : ofSeconds below = .shortest := by
  rw [ofSeconds_eq_ofRounded, round_below_mul (by norm_num)]
  rfl

theorem ofSeconds_above : ofSeconds above = .longest := by
  rw [ofSeconds_eq_ofRounded, round_above_mul (by norm_num)]
  rfl

theorem ofSecondsInMilliseconds_above :
    ofSecondsInMilliseconds above = .longest := by
  rw [ofSecondsInMilliseconds_eq_ofRounded, round_above_mul (by norm_num)]
  rfl

theorem ofSeconds_number (x : Rat) :
    ofSeconds (number x) =
      saturated (roundRational (x * (1000000 : Nat))) :=
  rfl

theorem ofSecondsInMilliseconds_number (x : Rat) :
    ofSecondsInMilliseconds (number x) =
      saturatedInMilliseconds (roundRational (x * (1000 : Nat))) :=
  rfl

theorem ofSeconds_extended_mono (notMore : amount ≤ other) :
    ofSeconds amount ≤ ofSeconds other := by
  rcases extended_le_cases notMore with
    rfl | rfl | ⟨x, y, rfl, rfl, notMore⟩
  · rw [ofSeconds_below]
    exact (ofRounded_bounds _).1
  · rw [ofSeconds_above]
    exact (ofRounded_bounds _).2
  · rw [ofSeconds_number, ofSeconds_number]
    exact saturated_mono (roundRational_mul_mono notMore _)

/-- The sign of an integer that does not fit is that of the number it is nearest
to. -/
theorem saturated_roundRational_eq (x : Rat) (k : Nat) :
    saturated (roundRational (x * k)) =
      if Word.least ≤ roundRational (x * k) ∧
          roundRational (x * k) ≤ Word.greatest then
        microseconds (roundRational (x * k))
      else if x < 0 then shortest else longest := by
  rw [saturated]
  split_ifs with fits isNegative negative negative
  · rfl
  · rfl
  · have nonneg := roundRational_mul_nonneg (not_lt.mp negative) k
    exact absurd isNegative nonneg.not_gt
  · -- Zero would fit.
    have nonpos := roundRational_mul_mono negative.le k
    rw [zero_mul] at nonpos
    have isZero : roundRational (x * k) = 0 :=
      le_antisymm nonpos (not_lt.mp isNegative)
    rw [isZero] at fits
    exact absurd (by decide) fits
  · rfl

end Duration

theorem convertsInOrder_extended : ConvertsInOrder ExtendedRational := by
  constructor
  case microseconds_mono => exact Duration.ofSeconds_extended_mono
  case microseconds_nonneg =>
    intro amount nonneg
    have order := Duration.ofSeconds_extended_mono (not_lt_zero_iff.mp nonneg)
    rwa [Duration.ofSeconds_number, zero_mul] at order
  case milliseconds_mono =>
    intro amount other nonneg notMore
    rcases extended_le_cases notMore with
      rfl | rfl | ⟨x, y, rfl, rfl, notMore⟩
    · exact (not_lt_zero_iff.mp nonneg).elim
    · rw [Duration.ofSecondsInMilliseconds_above]
      exact Duration.ofRoundedInMilliseconds_le _
    · exact Duration.saturatedInMilliseconds_mono
        (roundRational_mul_nonneg (not_lt_zero_iff.mp nonneg) _)
        (roundRational_mul_mono notMore _)
  case milliseconds_nonneg =>
    intro amount nonneg
    rcases extended_nonneg_cases (not_lt_zero_iff.mp nonneg) with
      rfl | ⟨x, rfl, positive⟩
    · rw [Duration.ofSecondsInMilliseconds_above]
      decide
    · exact Duration.saturatedInMilliseconds_nonneg
        (roundRational_mul_nonneg positive _)

end Exact

/-- Greater seconds in settings do not become a shorter duration, and those that
are accepted do not become a negative one. -/
structure SettingsKeepOrder (K : Type) [Scalar K] : Prop where
  pruneAge_mono : ∀ {first second : TrackerSettings K},
    first.pruneSeconds ≤ second.pruneSeconds →
      first.pruneAge ≤ second.pruneAge
  pruneAge_nonneg : ∀ {settings : TrackerSettings K}, settings.fault? = none →
    0 ≤ settings.pruneAge.nanoseconds
  minLength_mono : ∀ {first second : CriteriaSettings K} {classification},
    first.minSecondsFor classification ≤
        second.minSecondsFor classification →
      first.minLength classification ≤ second.minLength classification
  debounce_mono : ∀ {first second : Ntfy.Settings K},
    ¬ first.debounceSeconds < Scalar.ofNat 0 →
      first.debounceSeconds ≤ second.debounceSeconds →
        first.debounce ≤ second.debounce
  debounce_nonneg : ∀ {settings : Ntfy.Settings K},
    ¬ settings.debounceSeconds < Scalar.ofNat 0 →
      0 ≤ settings.debounce.nanoseconds

theorem not_pruneSeconds_lt_of_fault?_eq_none {K : Type} [Scalar K]
    {settings : TrackerSettings K} (accepted : settings.fault? = none) :
    ¬ settings.pruneSeconds < Scalar.ofNat 0 := by
  intro negative
  unfold TrackerSettings.fault? at accepted
  rw [if_pos negative] at accepted
  split at accepted <;> cases accepted

theorem ConvertsInOrder.settingsKeepOrder {K : Type} [Scalar K]
    (inOrder : ConvertsInOrder K) : SettingsKeepOrder K := by
  constructor
  case pruneAge_mono => exact inOrder.microseconds_mono
  case pruneAge_nonneg =>
    intro settings accepted
    exact inOrder.microseconds_nonneg
      (not_pruneSeconds_lt_of_fault?_eq_none accepted)
  case minLength_mono =>
    intro first second classification notMore
    rw [minLength_eq, minLength_eq]
    exact inOrder.microseconds_mono notMore
  case debounce_mono => exact inOrder.milliseconds_mono
  case debounce_nonneg => exact inOrder.milliseconds_nonneg

theorem not_debounceSeconds_lt_of_fault?_eq_none
    {settings : Ntfy.Settings Float} (accepted : settings.fault? = none) :
    ¬ settings.debounceSeconds < Scalar.ofNat 0 := by
  intro negative
  have isNegative : settings.debounceSeconds < 0.0 := negative
  unfold Ntfy.Settings.fault? at accepted
  rw [if_pos isNegative] at accepted
  split at accepted
  · cases accepted
  · split at accepted <;> cases accepted

/-- Seconds become the nearest number of whole units, or the longest or shortest
duration.  Negative seconds between two messages are left out, as no settings
with them are accepted. -/
theorem seconds_convert_in_order :
    (∀ x : Rat, ∃ n : Int, IsNearest (x * 1000000) n ∧
      Duration.ofSeconds (number x) =
        if Word.least ≤ n ∧ n ≤ Word.greatest then .microseconds n
        else if x < 0 then .shortest else .longest) ∧
    (Duration.ofSeconds below = .shortest ∧
      Duration.ofSeconds above = .longest) ∧
    (∀ amount other : ExtendedRational, amount ≤ other →
      Duration.ofSeconds amount ≤ Duration.ofSeconds other) ∧
    (∀ amount : ExtendedRational,
      (number 0 ≤ amount → 0 ≤ (Duration.ofSeconds amount).nanoseconds) ∧
      (amount ≤ number 0 → (Duration.ofSeconds amount).nanoseconds ≤ 0)) ∧
    (∀ (settings : Ntfy.Settings ExtendedRational) (x : Rat),
      settings.debounceSeconds = number x → 0 ≤ x →
        ∃ n : Int, IsNearest (x * 1000) n ∧
          settings.debounce = .milliseconds (min n Word.greatest)) ∧
    (∀ settings : Ntfy.Settings ExtendedRational,
      settings.debounceSeconds = above →
        settings.debounce = .milliseconds Word.greatest) ∧
    SettingsKeepOrder ExtendedRational ∧ SettingsKeepOrder Float ∧
    ∀ settings : Ntfy.Settings Float, settings.fault? = none →
      0 ≤ settings.debounce.nanoseconds := by
  have zero : Duration.ofSeconds (number 0) = ⟨0⟩ := by
    rw [Duration.ofSeconds_number, zero_mul]
    rfl
  refine ⟨?_, ⟨Duration.ofSeconds_below, Duration.ofSeconds_above⟩, ?_, ?_, ?_,
    ?_, convertsInOrder_extended.settingsKeepOrder,
    convertsInOrder_float.settingsKeepOrder, ?_⟩
  · intro x
    refine ⟨_, isNearest_roundRational _, ?_⟩
    have converted := Duration.saturated_roundRational_eq x 1000000
    rwa [Nat.cast_ofNat] at converted
  · intro amount other
    exact Duration.ofSeconds_extended_mono
  · intro amount
    constructor
    · intro nonneg
      have order := Duration.ofSeconds_extended_mono nonneg
      rwa [zero] at order
    · intro nonpos
      have order := Duration.ofSeconds_extended_mono nonpos
      rwa [zero] at order
  · intro settings x isNumber nonneg
    refine ⟨_, isNearest_roundRational _, ?_⟩
    have unit : 0 ≤ roundRational (x * 1000) :=
      roundRational_mul_nonneg nonneg 1000
    rw [Ntfy.Settings.debounce, isNumber,
      Duration.ofSecondsInMilliseconds_number, Nat.cast_ofNat,
      Duration.saturatedInMilliseconds_of_nonneg unit]
  · intro settings isAbove
    rw [Ntfy.Settings.debounce, isAbove]
    exact Duration.ofSecondsInMilliseconds_above
  · intro settings accepted
    exact convertsInOrder_float.milliseconds_nonneg
      (not_debounceSeconds_lt_of_fault?_eq_none accepted)

/-- Messages that are half a millisecond apart at least. -/
def halfMillisecond : Ntfy.Settings ExtendedRational :=
  { Ntfy.Settings.standard with
    debounceSeconds := number (1 / 2000)
    timeoutSeconds := number 10 }

theorem seconds_convert_in_order_of_halfMillisecond :
    (0 : Rat) ≤ 1 / 2000 ∧ halfMillisecond.debounce = .milliseconds 1 := by
  have nonneg : (0 : Rat) ≤ 1 / 2000 := by norm_num
  obtain ⟨-, -, -, -, debounced, -⟩ := seconds_convert_in_order
  obtain ⟨n, isNearest, converted⟩ :=
    debounced halfMillisecond (1 / 2000) rfl nonneg
  have half : (1 / 2000 : Rat) * 1000 = 1 / 2 := by norm_num
  rw [half] at isNearest
  obtain ⟨lower, upper⟩ := abs_le.mp isNearest.near
  have notAbove : n ≤ 1 := by
    exact_mod_cast (by linarith : (n : Rat) ≤ 1)
  have notBelow : 0 ≤ n := by
    exact_mod_cast (by linarith : (0 : Rat) ≤ n)
  have notZero : n ≠ 0 := by
    rintro rfl
    have away := isNearest.away (by norm_num)
    norm_num at away
  obtain rfl : n = 1 := by omega
  exact ⟨nonneg, converted⟩

end DrivewayWatch
