import DrivewayWatch.Proofs.Text.Blank
import DrivewayWatch.Proofs.Time.Configured
import DrivewayWatch.Proofs.Tracking.Run
import DrivewayWatch.Rule.TrackRule

/-!
# The checks of a track

The decision about a track names the first of four checks that fails, and it is
to announce the track exactly if none does.  Stricter settings, such as a longer
list of blocked classifications or a greater minimum, let no further track pass,
because a track that passes one of their checks passes that of the others.
-/

namespace DrivewayWatch

/-- What a track is checked for. -/
inductive Check where
  | allowed
  | blocked
  | length
  | rule
  deriving Repr, DecidableEq

namespace Check

/-- The order of the checks. -/
def rank : Check → Nat
  | allowed => 0
  | blocked => 1
  | length => 2
  | rule => 3

/-- What is decided about a track that fails a check. -/
def decision : Check → Decision
  | allowed => .notAllowlisted
  | blocked => .blocklisted
  | length => .tooShort
  | rule => .ruleRejected

theorem rank_injective : Function.Injective rank := by
  intro check other same
  cases check <;> cases other <;> first | rfl | cases same

theorem decision_injective : Function.Injective decision := by
  intro check other same
  cases check <;> cases other <;> first | rfl | cases same

theorem decision_ne_pass (check : Check) : check.decision ≠ .pass := by
  cases check <;> decide

end Check

/-- The seconds that a track of a classification has to last: its own minimum if
there is one, else the general one. -/
def CriteriaSettings.minSecondsFor {K : Type} (settings : CriteriaSettings K)
    (classification : String) : K :=
  match settings.minSecondsOf.lookup classification with
  | some own => own
  | none => settings.minSeconds

/-- What a check asks of a track. -/
def Check.Holds (settings : CriteriaSettings Float)
    (track : Track Float Instant) : Check → Prop
  | allowed => ∀ names, settings.allowed = some names →
      names = [] ∨ track.classification ∈ names
  | blocked => ∀ names, settings.blocked = some names →
      track.classification ∉ names
  | length =>
      Duration.ofSeconds (settings.minSecondsFor track.classification) ≤
        Timeline.since track.lastTime track.firstTime
  | rule => ∀ text, settings.rule = some text → ¬ Text.IsBlank text.toList →
      ∃ expression,
        Rule.Expression.read? (Text.trimmed text) = some expression ∧
        expression.evaluate [("track", Rule.trackValue track.view)] =
          .ok (.bool true)

/-- A check that fails after the checks before it hold. -/
def Check.IsFirstFailing (settings : CriteriaSettings Float)
    (track : Track Float Instant) (check : Check) : Prop :=
  ¬ check.Holds settings track ∧
    ∀ earlier : Check, earlier.rank < check.rank → earlier.Holds settings track

namespace CriteriaSettings

/-- Settings whose rule is absent, blank or well-formed. -/
def IsUsable (settings : CriteriaSettings Float) : Prop :=
  ∀ text, settings.rule = some text → ¬ Text.IsBlank text.toList →
    ∃ expression, Rule.Expression.read? (Text.trimmed text) = some expression

/-- Settings that differ from others in stricter checks only: fewer
classifications are allowed but not none, more of them are blocked, minimums are
greater, or there is a rule where there was none. -/
structure IsStricterThan (strict loose : CriteriaSettings Float) : Prop where
  allowed : strict.allowed = loose.allowed ∨
    ∃ few, strict.allowed = some few ∧ few ≠ [] ∧
      ∀ many, loose.allowed = some many → many = [] ∨ few ⊆ many
  blocked : loose.blocked.getD [] ⊆ strict.blocked.getD []
  minimum : ∀ classification,
    strict.minSecondsFor classification = loose.minSecondsFor classification ∨
      loose.minSecondsFor classification ≤ strict.minSecondsFor classification
  rule : strict.rule = loose.rule ∨
    ∀ text, loose.rule = some text → Text.IsBlank text.toList

end CriteriaSettings

section Holds

variable {settings : CriteriaSettings Float} {track : Track Float Instant}

theorem Check.IsFirstFailing.unique {check other : Check}
    (isFirst : check.IsFirstFailing settings track)
    (otherIsFirst : other.IsFirstFailing settings track) : check = other := by
  rcases Nat.lt_trichotomy check.rank other.rank with before | same | after
  · exact absurd (otherIsFirst.2 check before) isFirst.1
  · exact Check.rank_injective same
  · exact absurd (isFirst.2 other after) otherIsFirst.1

theorem allows_iff :
    Criteria.allows settings.allowed track.classification = true ↔
      Check.allowed.Holds settings track := by
  cases listed : settings.allowed with
  | none => simp [Criteria.allows, Check.Holds, listed]
  | some names =>
      cases names with
      | nil => simp [Criteria.allows, Check.Holds, listed]
      | cons name names => simp [Criteria.allows, Check.Holds, listed]

theorem blocks_iff :
    Criteria.blocks settings.blocked track.classification = false ↔
      Check.blocked.Holds settings track := by
  cases listed : settings.blocked with
  | none => simp [Criteria.blocks, Check.Holds, listed]
  | some names => simp [Criteria.blocks, Check.Holds, listed]

theorem minLength_eq {K : Type} [Scalar K] (settings : CriteriaSettings K)
    (classification : String) :
    settings.minLength classification =
      Duration.ofSeconds (settings.minSecondsFor classification) := by
  unfold CriteriaSettings.minLength CriteriaSettings.minSecondsFor
  split <;> next found => rw [found]; rfl

theorem not_length_lt_iff :
    ¬ track.length < settings.minLength track.classification ↔
      Check.length.Holds settings track := by
  rw [minLength_eq]
  exact Int.not_lt

/-- Criteria that were made of settings. -/
structure Criteria.Follows (criteria : Criteria Float Instant)
    (settings : CriteriaSettings Float) : Prop where
  settings_eq : criteria.settings = settings
  rule : ∀ track : Track Float Instant,
    accepts criteria.rule track.view = true ↔ Check.rule.Holds settings track

open Classical in
/-- The checks are made one after the other. -/
theorem Criteria.Follows.decide_eq {criteria : Criteria Float Instant}
    (follows : criteria.Follows settings) (track : Track Float Instant) :
    criteria.decide track =
      if Check.allowed.Holds settings track then
        if Check.blocked.Holds settings track then
          if Check.length.Holds settings track then
            if Check.rule.Holds settings track then .pass else .ruleRejected
          else .tooShort
        else .blocklisted
      else .notAllowlisted := by
  obtain ⟨rfl, ruleHolds⟩ := follows
  unfold Criteria.decide
  simp only [← allows_iff, ← blocks_iff, ← not_length_lt_iff, ← ruleHolds]
  split_ifs <;> simp_all

/-- The first of the checks that fails decides. -/
theorem Criteria.Follows.decide_cases {criteria : Criteria Float Instant}
    (follows : criteria.Follows settings) (track : Track Float Instant) :
    (criteria.decide track = .pass ∧
      ∀ check : Check, check.Holds settings track) ∨
    ∃ check : Check, criteria.decide track = check.decision ∧
      check.IsFirstFailing settings track := by
  rw [follows.decide_eq]
  split_ifs with allowed blocked length rule
  · refine .inl ⟨rfl, ?_⟩
    rintro (_ | _ | _ | _) <;> assumption
  · refine .inr ⟨.rule, rfl, rule, ?_⟩
    rintro (_ | _ | _ | _) before
    all_goals first | assumption | exact absurd before (by decide)
  · refine .inr ⟨.length, rfl, length, ?_⟩
    rintro (_ | _ | _ | _) before
    all_goals first | assumption | exact absurd before (by decide)
  · refine .inr ⟨.blocked, rfl, blocked, ?_⟩
    rintro (_ | _ | _ | _) before
    all_goals first | assumption | exact absurd before (by decide)
  · refine .inr ⟨.allowed, rfl, allowed, ?_⟩
    rintro earlier ⟨⟩

theorem Criteria.Follows.decide_eq_pass_iff {criteria : Criteria Float Instant}
    (follows : criteria.Follows settings) (track : Track Float Instant) :
    criteria.decide track = .pass ↔
      ∀ check : Check, check.Holds settings track := by
  rcases follows.decide_cases track with
    ⟨passes, holds⟩ | ⟨check, decided, isFirst⟩
  · exact ⟨fun _ => holds, fun _ => passes⟩
  · rw [decided]
    constructor
    · exact fun passes => absurd passes check.decision_ne_pass
    · exact fun holds => absurd (holds check) isFirst.1

theorem Criteria.Follows.decide_eq_decision_iff
    {criteria : Criteria Float Instant} (follows : criteria.Follows settings)
    (track : Track Float Instant) (check : Check) :
    criteria.decide track = check.decision ↔
      check.IsFirstFailing settings track := by
  rcases follows.decide_cases track with
    ⟨passes, holds⟩ | ⟨first, decided, isFirst⟩
  · rw [passes]
    constructor
    · exact fun same => absurd same.symm check.decision_ne_pass
    · exact fun isFirst => absurd (holds check) isFirst.1
  · rw [decided]
    constructor
    · intro same
      exact Check.decision_injective same ▸ isFirst
    · intro otherIsFirst
      rw [isFirst.unique otherIsFirst]

/-- A rule that has no value, or one that is no truth value, does not hold. -/
theorem judge_eq_ok_true_iff {expression : Rule.Expression}
    {view : TrackView Float Instant} :
    Rule.judge expression view = .ok true ↔
      expression.evaluate [("track", Rule.trackValue view)] =
        .ok (.bool true) := by
  unfold Rule.judge
  cases expression.evaluate [("track", Rule.trackValue view)] with
  | error fault => exact ⟨nofun, nofun⟩
  | ok value =>
      cases value with
      | bool holds =>
          change Except.ok holds = Except.ok true ↔ _
          simp
      | _ => exact ⟨nofun, nofun⟩

theorem accepts_some_iff {judgement : Judgement Float Instant}
    {view : TrackView Float Instant} :
    Criteria.accepts (some judgement) view = true ↔
      judgement view = .ok true := by
  cases judged : judgement view with
  | ok holds => simp [Criteria.accepts, judged]
  | error fault => simp [Criteria.accepts, judged]

/-- Without a rule there is nothing that a track could fail. -/
theorem rule_holds_of_blank
    (noRule : ∀ text, settings.rule = some text → Text.IsBlank text.toList) :
    Check.rule.Holds settings track := by
  intro text found notBlank
  exact absurd (noRule text found) notBlank

theorem CriteriaSettings.IsUsable.exists_criteria (usable : settings.IsUsable) :
    ∃ criteria, Criteria.ofSettings Rule.compile settings = .ok criteria ∧
      criteria.Follows settings := by
  unfold Criteria.ofSettings
  cases found : settings.rule with
  | none =>
      refine ⟨_, rfl, rfl, fun track => ⟨fun _ => ?_, fun _ => rfl⟩⟩
      exact rule_holds_of_blank (by simp [found])
  | some text =>
      by_cases blank : Text.IsBlank text.toList
      · simp only [Text.isEmpty_trimmed_iff.mpr blank, if_true]
        refine ⟨_, rfl, rfl, fun track => ⟨fun _ => ?_, fun _ => rfl⟩⟩
        exact rule_holds_of_blank (by simpa [found] using blank)
      · have notEmpty : (Text.trimmed text).isEmpty = false :=
          Bool.eq_false_iff.mpr (mt Text.isEmpty_trimmed_iff.mp blank)
        obtain ⟨expression, read⟩ := usable text found blank
        simp only [notEmpty, Rule.compile, read]
        refine ⟨_, rfl, rfl, fun track => ?_⟩
        rw [accepts_some_iff, judge_eq_ok_true_iff]
        constructor
        · rintro evaluated other otherFound -
          obtain rfl := Option.some.inj (found.symm.trans otherFound)
          exact ⟨expression, read, evaluated⟩
        · intro holds
          obtain ⟨other, otherRead, evaluated⟩ := holds text found blank
          obtain rfl := Option.some.inj (read.symm.trans otherRead)
          exact evaluated

end Holds

section Stricter

variable {strict loose : CriteriaSettings Float}
  (stricter : strict.IsStricterThan loose)

include stricter

theorem CriteriaSettings.IsStricterThan.isUsable (usable : strict.IsUsable) :
    loose.IsUsable := by
  intro text found notBlank
  rcases stricter.rule with same | noRule
  · exact usable text (same.trans found) notBlank
  · exact absurd (noRule text found) notBlank

/-- A track that passes a stricter check passes a looser one. -/
theorem Check.Holds.loosen {track : Track Float Instant} {check : Check}
    (holds : check.Holds strict track) : check.Holds loose track := by
  cases check with
  | allowed =>
      intro names listed
      rcases stricter.allowed with same | ⟨few, fewListed, nonempty, fewer⟩
      · exact holds names (same.trans listed)
      · rcases fewer names listed with isEmpty | fewer
        · exact .inl isEmpty
        · exact .inr (fewer ((holds few fewListed).resolve_left nonempty))
  | blocked =>
      intro names listed isBlocked
      have stillBlocked : track.classification ∈ strict.blocked.getD [] :=
        stricter.blocked (by simpa [listed] using isBlocked)
      cases more : strict.blocked with
      | none => simp [more] at stillBlocked
      | some names =>
          exact holds names more (by simpa [more] using stillBlocked)
  | length =>
      rcases stricter.minimum track.classification with same | notMore
      · rw [Check.Holds, ← same]
        exact holds
      · exact Int.le_trans (Duration.ofSeconds_mono notMore) holds
  | rule =>
      intro text found notBlank
      rcases stricter.rule with same | noRule
      · exact holds text (same.trans found) notBlank
      · exact absurd (noRule text found) notBlank

end Stricter

/-- What is decided about a track: it passes exactly if all checks hold, and else
the first that fails is named.  Of two settings the stricter one lets no further
track pass. -/
theorem decision_names_first_failing_check (settings : CriteriaSettings Float)
    (usable : settings.IsUsable) :
    ∃ criteria, Criteria.ofSettings Rule.compile settings = .ok criteria ∧
      (∀ track : Track Float Instant,
        (criteria.decide track = .pass ↔
          ∀ check : Check, check.Holds settings track) ∧
        ∀ check : Check, criteria.decide track = check.decision ↔
          check.IsFirstFailing settings track) ∧
      ∀ loose, settings.IsStricterThan loose →
        ∃ others, Criteria.ofSettings Rule.compile loose = .ok others ∧
          ∀ track : Track Float Instant,
            criteria.decide track = .pass → others.decide track = .pass := by
  obtain ⟨criteria, made, follows⟩ := usable.exists_criteria
  refine ⟨criteria, made, fun track => ?_, ?_⟩
  · exact ⟨follows.decide_eq_pass_iff track,
      follows.decide_eq_decision_iff track⟩
  · intro loose stricter
    obtain ⟨others, othersMade, othersFollow⟩ :=
      (stricter.isUsable usable).exists_criteria
    refine ⟨others, othersMade, fun track passes => ?_⟩
    rw [follows.decide_eq_pass_iff] at passes
    rw [othersFollow.decide_eq_pass_iff]
    exact fun check => (passes check).loosen stricter

/-- Settings for cars that stay for two seconds. -/
def stayingCars : CriteriaSettings Float :=
  { allowed := some ["car", "truck"]
    blocked := some ["truck"]
    minSeconds := 2.0
    minSecondsOf := [("dog", 3.5)]
    rule := some " track.classification == 'car' " }

theorem stayingCars_isUsable : stayingCars.IsUsable := by
  rintro text ⟨⟩ -
  exact Option.isSome_iff_exists.mp (by decide +kernel)

theorem stayingCars_isStricter :
    stayingCars.IsStricterThan CriteriaSettings.standard where
  allowed := .inr ⟨["car", "truck"], rfl, List.cons_ne_nil _ _, nofun⟩
  blocked := List.nil_subset _
  minimum classification := by
    right
    have ownMinimum : (1.0 : Float) ≤ 3.5 := by decide +kernel
    have generalMinimum : (1.0 : Float) ≤ 2.0 := by decide +kernel
    simp only [CriteriaSettings.minSecondsFor, stayingCars,
      CriteriaSettings.standard, List.lookup]
    cases classification == "dog" with
    | false => exact generalMinimum
    | true => exact ownMinimum
  rule := .inr nofun

/-- A car that is seen once is allowed and not blocked, but it does not stay. -/
theorem decision_names_first_failing_check_of_stayingCars :
    ∃ criteria, Criteria.ofSettings Rule.compile stayingCars = .ok criteria ∧
      criteria.decide (Track.start (Tracker.parkedCar "e0" ⟨0, 0⟩)) =
        .tooShort ∧
      ∃ others,
        Criteria.ofSettings Rule.compile CriteriaSettings.standard =
          .ok others ∧
          ∀ track : Track Float Instant,
            criteria.decide track = .pass → others.decide track = .pass := by
  obtain ⟨criteria, made, decisions, noFurther⟩ :=
    decision_names_first_failing_check stayingCars stayingCars_isUsable
  refine ⟨criteria, made, ?_, noFurther _ stayingCars_isStricter⟩
  obtain ⟨-, names⟩ := decisions (Track.start (Tracker.parkedCar "e0" ⟨0, 0⟩))
  refine (names .length).mpr ⟨?_, ?_⟩
  · change ¬ Duration.ofSeconds _ ≤ _
    decide +kernel
  · rintro (_ | _ | _ | _) before
    · rintro names ⟨⟩
      exact .inr (by decide +kernel)
    · rintro names ⟨⟩
      decide +kernel
    all_goals exact absurd before (by decide)

end DrivewayWatch
