import DrivewayWatch.Rule.Fault
import DrivewayWatch.Text.Blank
import DrivewayWatch.Tracking.Settings
import DrivewayWatch.Tracking.Track

/-!
# Criteria

A track is announced if its classification is allowed and not blocked, if it is long enough, and if
it satisfies the rule.  `Criteria.decide` names the first of these that fails.
-/

namespace DrivewayWatch

/-- What the criteria say about a track. -/
inductive Decision where
  | pass
  | notAllowlisted
  | blocklisted
  | tooShort
  | ruleRejected
  deriving Repr, DecidableEq

def Decision.label : Decision → String
  | pass => "pass"
  | notAllowlisted => "not_allowlisted"
  | blocklisted => "blocklisted"
  | tooShort => "too_short"
  | ruleRejected => "rule_rejected"

/-- Whether a rule holds of a track, or why that cannot be said. -/
abbrev Judgement (K T : Type) : Type :=
  TrackView K T → Except Rule.Fault Bool

/-- Criteria whose rule is ready to be evaluated. -/
structure Criteria (K T : Type) where
  settings : CriteriaSettings K
  rule : Option (Judgement K T)

namespace Criteria

variable {K T : Type}

/-- Prepares criteria.  A rule that is blank is no rule; `compile` turns the text of any other one
into its judgement. -/
def ofSettings (compile : String → Except TrackingError (Judgement K T))
    (settings : CriteriaSettings K) : Except TrackingError (Criteria K T) :=
  match settings.rule with
  | none => .ok ⟨settings, none⟩
  | some text =>
    let expression := Text.trimmed text
    if expression.isEmpty then .ok ⟨settings, none⟩
    else (compile expression).map fun judgement => ⟨settings, some judgement⟩

/-- Whether a classification is allowed; an empty list allows all of them. -/
def allows (allowed : Option (List String)) (classification : String) : Bool :=
  match allowed with
  | none => true
  | some [] => true
  | some names => names.contains classification

def blocks (blocked : Option (List String)) (classification : String) : Bool :=
  match blocked with
  | none => false
  | some names => names.contains classification

/-- Whether a rule holds; one that cannot be evaluated does not. -/
def accepts (rule : Option (Judgement K T)) (view : TrackView K T) : Bool :=
  match rule with
  | none => true
  | some judgement =>
    match judgement view with
    | .ok holds => holds
    | .error _ => false

variable [Scalar K] [Timeline T]

/-- The first check that a track fails, in the order allowed, blocked, length, rule. -/
def decide (criteria : Criteria K T) (track : Track K T) : Decision :=
  let classification := track.classification
  if !allows criteria.settings.allowed classification then .notAllowlisted
  else if blocks criteria.settings.blocked classification then .blocklisted
  else if track.length < criteria.settings.minLength classification then .tooShort
  else if !accepts criteria.rule track.view then .ruleRejected
  else .pass

end Criteria

end DrivewayWatch
