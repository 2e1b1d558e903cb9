import DrivewayWatch.Proofs.Number.Operations
import DrivewayWatch.Time.Duration

/-!
# Configured seconds

Seconds become a duration by a product, which is rounded to a floating-point
number, and by rounding that to an integer.  Both keep the order, and so do the
bounds.  So greater seconds never become a shorter duration, and seconds that are
not negative never become a negative one.  The bounds hide where a product is too
large for a floating-point number, as it is out of bounds before.
-/

namespace DrivewayWatch

open Binary64 Float.Model Float.Model.UnpackedFloat

namespace Duration

/-- The duration of a number of microseconds within the bounds. -/
def saturated (n : Int) : Duration :=
  if Word.least ≤ n ∧ n ≤ Word.greatest then microseconds n
  else if n < 0 then shortest else longest

def ofRounded : Rounded → Duration
  | .integer n => saturated n
  | .above => longest
  | .below => shortest
  | .undefined => microseconds 0

/-- The duration of a number of milliseconds within the bounds. -/
def saturatedInMilliseconds (n : Int) : Duration :=
  if Word.least < n ∧ n ≤ Word.greatest then milliseconds n else longest

def ofRoundedInMilliseconds : Rounded → Duration
  | .integer n => saturatedInMilliseconds n
  | .above => longest
  | .below => longest
  | .undefined => milliseconds 0

theorem ofSeconds_eq_ofRounded {K : Type} [Scalar K] (amount : K) :
    ofSeconds amount =
      ofRounded (Scalar.round (amount * Scalar.ofNat 1000000)) :=
  rfl

theorem ofSecondsInMilliseconds_eq_ofRounded {K : Type} [Scalar K]
    (amount : K) :
    ofSecondsInMilliseconds amount = ofRoundedInMilliseconds
      (Scalar.round (amount * Scalar.ofNat 1000)) :=
  rfl

theorem saturated_mono {n m : Int} (notMore : n ≤ m) :
    saturated n ≤ saturated m := by
  change (saturated n).nanoseconds ≤ (saturated m).nanoseconds
  unfold saturated
  split_ifs <;>
    simp only [microseconds, shortest, longest, milliseconds, Word.least,
      Word.greatest] at * <;>
    omega

theorem saturated_of_greatest_lt {n : Int} (above : Word.greatest < n) :
    saturated n = longest := by
  have nonneg : ¬ n < 0 := by
    unfold Word.greatest at above
    omega
  rw [saturated, if_neg (fun inside => inside.2.not_gt above), if_neg nonneg]

theorem saturated_of_lt_least {n : Int} (below : n < Word.least) :
    saturated n = shortest := by
  have negative : n < 0 := by
    unfold Word.least at below
    omega
  rw [saturated, if_neg (fun inside => inside.1.not_gt below), if_pos negative]

theorem saturated_bounds (n : Int) :
    shortest ≤ saturated n ∧ saturated n ≤ longest := by
  have below : min n Word.least - 1 < Word.least := by omega
  have above : Word.greatest < max n Word.greatest + 1 := by omega
  constructor
  · rw [← saturated_of_lt_least below]
    exact saturated_mono (by omega)
  · rw [← saturated_of_greatest_lt above]
    exact saturated_mono (by omega)

theorem ofRounded_bounds (rounded : Rounded) :
    shortest ≤ ofRounded rounded ∧ ofRounded rounded ≤ longest := by
  cases rounded with
  | integer n => exact saturated_bounds n
  | _ => exact ⟨by decide, by decide⟩

theorem saturatedInMilliseconds_of_nonneg {n : Int} (nonneg : 0 ≤ n) :
    saturatedInMilliseconds n = milliseconds (min n Word.greatest) := by
  have notLeast : Word.least < n := lt_of_lt_of_le (by decide) nonneg
  rw [saturatedInMilliseconds]
  by_cases fits : n ≤ Word.greatest
  · rw [if_pos ⟨notLeast, fits⟩, min_eq_left fits]
  · rw [if_neg (fun inside => fits inside.2), min_eq_right (by omega)]
    rfl

theorem saturatedInMilliseconds_mono {n m : Int} (nonneg : 0 ≤ n)
    (notMore : n ≤ m) :
    saturatedInMilliseconds n ≤ saturatedInMilliseconds m := by
  rw [saturatedInMilliseconds_of_nonneg nonneg,
    saturatedInMilliseconds_of_nonneg (nonneg.trans notMore)]
  change min n Word.greatest * 1000000 ≤ min m Word.greatest * 1000000
  omega

theorem ofRoundedInMilliseconds_le (rounded : Rounded) :
    ofRoundedInMilliseconds rounded ≤ longest := by
  cases rounded with
  | integer n =>
      change (saturatedInMilliseconds n).nanoseconds ≤ longest.nanoseconds
      unfold saturatedInMilliseconds
      split_ifs <;>
        simp only [longest, milliseconds] at * <;>
        omega
  | _ => decide

/-- A duration that does not tell integers out of bounds from the infinity on
their side. -/
structure Saturates (duration : Rounded → Duration) : Prop where
  above : ∀ n, Word.greatest < n → duration (.integer n) = duration .above
  below : ∀ n, n < Word.least → duration (.integer n) = duration .below

theorem saturates_ofRounded : Saturates ofRounded :=
  ⟨fun _ => saturated_of_greatest_lt, fun _ => saturated_of_lt_least⟩

theorem saturates_ofRoundedInMilliseconds :
    Saturates ofRoundedInMilliseconds := by
  constructor
  · intro n above
    exact if_neg fun inside => inside.2.not_gt above
  · intro n below
    exact if_neg fun inside => inside.1.not_gt below

end Duration

section Product

variable {u : UnpackedFloat} {x : Rat}

/-- A number whose exponent is too large for its field is out of bounds. -/
theorem le_roundRational_of_overflow {m : Nat} {e : Int} (full : 2 ^ 52 ≤ m)
    (overflows : 972 ≤ e) : 2 ^ 64 ≤ roundRational ((m : Rat) * 2 ^ e) := by
  have large : ((2 ^ 64 : Nat) : Rat) ≤ m * 2 ^ e :=
    calc ((2 ^ 64 : Nat) : Rat) = 2 ^ 52 * 2 ^ (12 : Int) := by norm_num
      _ ≤ 2 ^ 52 * 2 ^ e :=
        mul_le_mul_of_nonneg_left
          (zpow_le_zpow_right₀ one_le_two (by omega)) (by positivity)
      _ ≤ m * 2 ^ e :=
        mul_le_mul_of_nonneg_right (by exact_mod_cast full) (two_zpow_pos e).le
  have rounded := roundRational_mono large
  rwa [roundRational_of_nonneg (Nat.cast_nonneg _), nearest_natCast] at rounded

/-- An infinity that comes of an overflow has the duration of the number that it
stands for. -/
theorem Duration.Saturates.round_ofBits_pack {duration : Rounded → Duration}
    (saturates : Duration.Saturates duration) (canonical : IsCanonical u)
    (standsFor : (ofUnpacked u).rational? = some x) :
    duration (ofBits (UnpackedFloat.pack .binary64 u).toNat).round =
      duration (.integer (roundRational x)) := by
  cases u with
  | notANumber => cases standsFor
  | infinity sign => cases standsFor
  | zero sign =>
      rw [ofBits_pack_zero]
      exact congrArg duration (round_eq standsFor)
  | finite sign m e positive =>
      rw [ofBits_pack_finite sign positive canonical]
      split
      · next overflows =>
          have full : 2 ^ 52 ≤ m := canonical.2.2.resolve_left (by omega)
          have large := le_roundRational_of_overflow full overflows
          obtain rfl := Option.some.inj standsFor
          cases sign with
          | positive =>
              have above : Word.greatest < roundRational ((m : Rat) * 2 ^ e) :=
                lt_of_lt_of_le (by decide) large
              exact (saturates.above _ above).symm
          | negative =>
              have below :
                  roundRational (-((m : Rat) * 2 ^ e)) < Word.least := by
                rw [roundRational_neg]
                exact lt_of_le_of_lt (neg_le_neg large) (by decide)
              exact (saturates.below _ below).symm
      · exact congrArg duration (round_eq standsFor)

end Product

theorem isFactor_million : IsFactor (Float.ofNat 1000000) 1000000 :=
  ⟨1000000 * 2 ^ 33, -33, by norm_num, rfl, by norm_num, by norm_num⟩

theorem isFactor_thousand : IsFactor (Float.ofNat 1000) 1000 :=
  ⟨1000 * 2 ^ 43, -43, by norm_num, rfl, by norm_num, by norm_num⟩

section Amounts

variable {amount factor : Float} {x k : Rat}

/-- The product as it is computed: taken apart, multiplied, and packed again. -/
theorem roundFloat_mul (amount factor : Float) :
    roundFloat (amount * factor) =
      (ofBits (UnpackedFloat.pack .binary64
        (UnpackedFloat.mul .binary64 amount.toModel.unpack
          factor.toModel.unpack)).toNat).round :=
  rfl

theorem Duration.Saturates.round_of_rational {duration : Rounded → Duration}
    (saturates : Duration.Saturates duration) (isFactor : IsFactor factor k)
    (standsFor : (ofUnpacked amount.toModel.unpack).rational? = some x) :
    duration (roundFloat (amount * factor)) =
      duration (.integer (roundRational (Binary64.rounded (x * k)))) := by
  obtain ⟨n, f, positive, unpacked, full, rfl⟩ := isFactor
  obtain ⟨canonical, value⟩ :=
    mul_full (isCanonical_unpack _) standsFor positive full
  rw [roundFloat_mul, unpacked]
  exact saturates.round_ofBits_pack canonical value

theorem roundFloat_of_infinite {negative : Bool} (isFactor : IsFactor factor k)
    (isInfinite : ofUnpacked amount.toModel.unpack = infinite negative) :
    roundFloat (amount * factor) = if negative then .below else .above := by
  obtain ⟨n, f, positive, unpacked, -, -⟩ := isFactor
  rw [roundFloat_mul, unpacked]
  cases unpacked : amount.toModel.unpack with
  | infinity sign =>
      rw [unpacked] at isInfinite
      rw [UnpackedFloat.mul, ofBits_pack_infinity]
      cases sign <;> cases isInfinite <;> rfl
  | _ =>
      rw [unpacked] at isInfinite
      cases isInfinite

theorem roundFloat_of_notANumber
    (isNone : amount.toModel.unpack = .notANumber) :
    roundFloat (amount * factor) = .undefined := by
  have bits : ofBits (UnpackedFloat.pack .binary64 .notANumber).toNat =
      Binary64.notANumber := by
    decide +kernel
  rw [roundFloat_mul, isNone, UnpackedFloat.mul, bits]
  rfl

theorem float_le_cases {other : Float} (notMore : amount ≤ other) :
    ofUnpacked amount.toModel.unpack = infinite true ∨
      ofUnpacked other.toModel.unpack = infinite false ∨
        ∃ x y, (ofUnpacked amount.toModel.unpack).rational? = some x ∧
          (ofUnpacked other.toModel.unpack).rational? = some y ∧ x ≤ y :=
  le_cases (isCanonical_unpack _) (isCanonical_unpack _)
    (of_decide_eq_true notMore)

/-- What is not negative is not a number, is infinite, or stands for a number
that is not negative. -/
theorem nonneg_cases (nonneg : ¬ amount < Float.ofNat 0) :
    amount.toModel.unpack = .notANumber ∨
      ofUnpacked amount.toModel.unpack = infinite false ∨
        ∃ x, (ofUnpacked amount.toModel.unpack).rational? = some x ∧ 0 ≤ x := by
  have order : ¬ amount.toModel.unpack.lt (.zero .positive) = true := by
    intro less
    exact nonneg (decide_eq_true less)
  cases unpacked : amount.toModel.unpack with
  | notANumber => exact .inl rfl
  | infinity sign =>
      cases sign with
      | negative =>
          rw [unpacked] at order
          exact absurd rfl order
      | positive => exact .inr (.inl rfl)
  | zero sign => exact .inr (.inr ⟨0, rational?_zero _, le_rfl⟩)
  | finite sign m e positive =>
      cases sign with
      | negative =>
          rw [unpacked] at order
          exact absurd rfl order
      | positive => exact .inr (.inr ⟨_, rfl, magnitude_nonneg m e⟩)

/-- What is not less than such a number is not negative either. -/
theorem le_cases_of_nonneg {other : Float} (nonneg : ¬ amount < Float.ofNat 0)
    (notMore : amount ≤ other) :
    ofUnpacked other.toModel.unpack = infinite false ∨
      ∃ x y, (ofUnpacked amount.toModel.unpack).rational? = some x ∧
        (ofUnpacked other.toModel.unpack).rational? = some y ∧ 0 ≤ x ∧
          x ≤ y := by
  have sign := nonneg_cases nonneg
  rcases float_le_cases notMore with
    least | greatest | ⟨x, y, first, second, less⟩
  · rcases sign with isNone | isInfinite | ⟨x, standsFor, -⟩
    · rw [isNone] at least
      cases least
    · cases isInfinite.symm.trans least
    · rw [least] at standsFor
      cases standsFor
  · exact .inl greatest
  · rcases sign with isNone | isInfinite | ⟨z, standsFor, positive⟩
    · rw [isNone] at first
      cases first
    · rw [isInfinite] at first
      cases first
    · obtain rfl := Option.some.inj (first.symm.trans standsFor)
      exact .inr ⟨x, y, first, second, positive, less⟩

end Amounts

theorem roundRational_rounded_nonneg {x : Rat} (nonneg : 0 ≤ x) :
    0 ≤ roundRational (rounded x) := by
  rw [rounded_of_nonneg nonneg,
    roundRational_of_nonneg (roundedMagnitude_nonneg x)]
  exact Int.natCast_nonneg _

theorem roundRational_rounded_mono {x y k : Rat} (positive : 0 < k)
    (notMore : x ≤ y) :
    roundRational (rounded (x * k)) ≤ roundRational (rounded (y * k)) :=
  roundRational_mono (rounded_mono
    (mul_le_mul_of_nonneg_right notMore positive.le))

/-- Seconds of a kind are converted in order: greater ones do not become a
shorter duration, and those that are not negative do not become a negative
one. -/
structure ConvertsInOrder (K : Type) [Scalar K] : Prop where
  microseconds_mono : ∀ {amount other : K}, amount ≤ other →
    Duration.ofSeconds amount ≤ Duration.ofSeconds other
  microseconds_nonneg : ∀ {amount : K}, ¬ amount < Scalar.ofNat 0 →
    0 ≤ (Duration.ofSeconds amount).nanoseconds
  milliseconds_mono : ∀ {amount other : K}, ¬ amount < Scalar.ofNat 0 →
    amount ≤ other → Duration.ofSecondsInMilliseconds amount ≤
      Duration.ofSecondsInMilliseconds other
  milliseconds_nonneg : ∀ {amount : K}, ¬ amount < Scalar.ofNat 0 →
    0 ≤ (Duration.ofSecondsInMilliseconds amount).nanoseconds

namespace Duration

variable {amount other : Float}

/-- Greater seconds do not become a shorter duration. -/
theorem ofSeconds_mono (notMore : amount ≤ other) :
    ofSeconds amount ≤ ofSeconds other := by
  rw [ofSeconds_eq_ofRounded, ofSeconds_eq_ofRounded]
  change ofRounded (roundFloat (amount * Float.ofNat 1000000)) ≤
    ofRounded (roundFloat (other * Float.ofNat 1000000))
  rcases float_le_cases notMore with
    least | greatest | ⟨x, y, first, second, less⟩
  · rw [roundFloat_of_infinite isFactor_million least]
    exact (ofRounded_bounds _).1
  · rw [roundFloat_of_infinite isFactor_million greatest]
    exact (ofRounded_bounds _).2
  · rw [saturates_ofRounded.round_of_rational isFactor_million first,
      saturates_ofRounded.round_of_rational isFactor_million second]
    exact saturated_mono
      (roundRational_rounded_mono isFactor_million.pos less)

theorem saturated_nonneg {n : Int} (nonneg : 0 ≤ n) :
    0 ≤ (saturated n).nanoseconds :=
  saturated_mono (n := 0) nonneg

theorem saturatedInMilliseconds_nonneg {n : Int} (nonneg : 0 ≤ n) :
    0 ≤ (saturatedInMilliseconds n).nanoseconds :=
  saturatedInMilliseconds_mono (n := 0) le_rfl nonneg

theorem ofSeconds_nonneg (nonneg : ¬ amount < Float.ofNat 0) :
    0 ≤ (ofSeconds amount).nanoseconds := by
  rw [ofSeconds_eq_ofRounded]
  change 0 ≤ (ofRounded (roundFloat (amount * Float.ofNat 1000000))).nanoseconds
  rcases nonneg_cases nonneg with isNone | isInfinite | ⟨x, standsFor, nonneg⟩
  · rw [roundFloat_of_notANumber isNone]
    decide
  · rw [roundFloat_of_infinite isFactor_million isInfinite]
    decide
  · rw [saturates_ofRounded.round_of_rational isFactor_million standsFor]
    exact saturated_nonneg (roundRational_rounded_nonneg
      (mul_nonneg nonneg isFactor_million.pos.le))

theorem ofSecondsInMilliseconds_nonneg (nonneg : ¬ amount < Float.ofNat 0) :
    0 ≤ (ofSecondsInMilliseconds amount).nanoseconds := by
  rw [ofSecondsInMilliseconds_eq_ofRounded]
  change 0 ≤ (ofRoundedInMilliseconds
    (roundFloat (amount * Float.ofNat 1000))).nanoseconds
  rcases nonneg_cases nonneg with isNone | isInfinite | ⟨x, standsFor, nonneg⟩
  · rw [roundFloat_of_notANumber isNone]
    decide
  · rw [roundFloat_of_infinite isFactor_thousand isInfinite]
    decide
  · rw [saturates_ofRoundedInMilliseconds.round_of_rational isFactor_thousand
      standsFor]
    exact saturatedInMilliseconds_nonneg (roundRational_rounded_nonneg
      (mul_nonneg nonneg isFactor_thousand.pos.le))

theorem ofSecondsInMilliseconds_mono (nonneg : ¬ amount < Float.ofNat 0)
    (notMore : amount ≤ other) :
    ofSecondsInMilliseconds amount ≤ ofSecondsInMilliseconds other := by
  rw [ofSecondsInMilliseconds_eq_ofRounded,
    ofSecondsInMilliseconds_eq_ofRounded]
  change ofRoundedInMilliseconds (roundFloat (amount * Float.ofNat 1000)) ≤
    ofRoundedInMilliseconds (roundFloat (other * Float.ofNat 1000))
  rcases le_cases_of_nonneg nonneg notMore with
    greatest | ⟨x, y, first, second, positive, less⟩
  · rw [roundFloat_of_infinite isFactor_thousand greatest]
    exact ofRoundedInMilliseconds_le _
  · rw [saturates_ofRoundedInMilliseconds.round_of_rational isFactor_thousand
      first, saturates_ofRoundedInMilliseconds.round_of_rational
      isFactor_thousand second]
    exact saturatedInMilliseconds_mono
      (roundRational_rounded_nonneg
        (mul_nonneg positive isFactor_thousand.pos.le))
      (roundRational_rounded_mono isFactor_thousand.pos less)

end Duration

theorem convertsInOrder_float : ConvertsInOrder Float :=
  ⟨Duration.ofSeconds_mono, Duration.ofSeconds_nonneg,
    Duration.ofSecondsInMilliseconds_mono,
    Duration.ofSecondsInMilliseconds_nonneg⟩

end DrivewayWatch
