import DrivewayWatch.Dispatch
import DrivewayWatch.Proofs.Time.Moment
import Mathlib.Data.List.Chain
import Mathlib.Data.List.Induction

/-!
# Debouncing

An arrival is debounced if too little time has passed since the last arrival of
its classification that was let through.  That one is the reference, however
many were muted or debounced in between, as `lookup_lastSentAfter` shows: the
times that are remembered are those of the arrivals that were let through last.
So two arrivals that are let through one after the other lie at least the
debounce time apart, in whatever order arrivals come.  A leap second makes an
earlier instant look like a later one, and can let through an arrival that goes
back if the debounce time is less than a second.
-/

namespace DrivewayWatch

namespace Dispatch

/-- An arrival and the mute window that it meets. -/
structure Candidate (T : Type) where
  window : MuteWindow T
  arrival : Arrival T

variable {K T : Type}

section SetLast

variable (lastSent : List (String × T)) (classification : String) (time : T)

theorem lookup_setLast_self :
    (setLast lastSent classification time).lookup classification =
      some time := by
  simp [setLast]

theorem lookup_setLast_of_ne {other : String} (differs : classification ≠ other) :
    (setLast lastSent classification time).lookup other =
      lastSent.lookup other := by
  have notFirst : (other == classification) = false :=
    beq_false_of_ne differs.symm
  rw [setLast, List.lookup_cons, notFirst]
  induction lastSent with
  | nil => rfl
  | cons entry entries ih =>
      obtain ⟨key, value⟩ := entry
      by_cases removed : key = classification
      · subst removed
        simpa [List.lookup_cons, notFirst] using ih
      · simp only [bne_iff_ne, ne_eq, removed, not_false_eq_true,
          List.filter_cons_of_pos, List.lookup_cons]
        simp only [ih]

end SetLast

variable [Scalar K] [Timeline T] (settings : Ntfy.Settings K)

theorem isDebounced_iff (lastSent : List (String × T)) (arrival : Arrival T) :
    isDebounced settings lastSent arrival = true ↔
      ∃ last, lastSent.lookup arrival.classification = some last ∧
        Timeline.since arrival.time last < settings.debounce := by
  unfold isDebounced
  cases lastSent.lookup arrival.classification <;> simp

/-- What can be said of an arrival, and what is remembered then.  Only one that
is let through changes what is remembered. -/
theorem suppression_cases (window : MuteWindow T)
    (lastSent : List (String × T)) (arrival : Arrival T) :
    (∃ deadline, window.activeAt arrival.time = some deadline ∧
      suppression settings window lastSent arrival =
        (some (.muted deadline), lastSent)) ∨
    (window.activeAt arrival.time = none ∧
      isDebounced settings lastSent arrival = true ∧
      suppression settings window lastSent arrival =
        (some .debounced, lastSent)) ∨
    (window.activeAt arrival.time = none ∧
      isDebounced settings lastSent arrival = false ∧
      suppression settings window lastSent arrival =
        (none, setLast lastSent arrival.classification arrival.time)) := by
  unfold suppression
  cases active : window.activeAt arrival.time with
  | some deadline => exact .inl ⟨deadline, rfl, rfl⟩
  | none =>
      cases soon : isDebounced settings lastSent arrival with
      | true => exact .inr (.inl ⟨rfl, rfl, rfl⟩)
      | false => exact .inr (.inr ⟨rfl, rfl, rfl⟩)

/-- What is said of the candidates of a sequence, each in its turn. -/
def verdicts (lastSent : List (String × T)) :
    List (Candidate T) → List (Option (Suppression T))
  | [] => []
  | candidate :: later =>
    let (verdict, next) :=
      suppression settings candidate.window lastSent candidate.arrival
    verdict :: verdicts next later

/-- What is remembered after a sequence of candidates. -/
def lastSentAfter (lastSent : List (String × T))
    (candidates : List (Candidate T)) : List (String × T) :=
  candidates.foldl
    (fun lastSent candidate =>
      (suppression settings candidate.window lastSent candidate.arrival).2)
    lastSent

/-- The verdict on a candidate that comes after a sequence of others. -/
def verdictAfter (candidates : List (Candidate T)) (candidate : Candidate T) :
    Option (Suppression T) :=
  (suppression settings candidate.window
    (lastSentAfter settings [] candidates) candidate.arrival).1

/-- The arrivals of a classification that are let through. -/
def passed (classification : String) (candidates : List (Candidate T)) :
    List (Arrival T) :=
  ((candidates.zip (verdicts settings [] candidates)).filter fun entry =>
    entry.2.isNone && entry.1.arrival.classification == classification).map
      (·.1.arrival)

theorem lastSentAfter_concat (candidates : List (Candidate T))
    (candidate : Candidate T) :
    lastSentAfter settings [] (candidates ++ [candidate]) =
      (suppression settings candidate.window
        (lastSentAfter settings [] candidates) candidate.arrival).2 := by
  simp [lastSentAfter]

theorem verdicts_append (lastSent : List (String × T))
    (first second : List (Candidate T)) :
    verdicts settings lastSent (first ++ second) =
      verdicts settings lastSent first ++
        verdicts settings (lastSentAfter settings lastSent first) second := by
  induction first generalizing lastSent with
  | nil => rfl
  | cons candidate first ih =>
      simp only [List.cons_append, verdicts, ih]
      rfl

@[simp]
theorem length_verdicts (lastSent : List (String × T))
    (candidates : List (Candidate T)) :
    (verdicts settings lastSent candidates).length = candidates.length := by
  induction candidates generalizing lastSent with
  | nil => rfl
  | cons candidate candidates ih => simp [verdicts, ih]

theorem getElem?_verdicts {candidates : List (Candidate T)} {place : Nat}
    {candidate : Candidate T} (found : candidates[place]? = some candidate) :
    (verdicts settings [] candidates)[place]? =
      some (verdictAfter settings (candidates.take place) candidate) := by
  obtain ⟨inside, rfl⟩ := List.getElem?_eq_some_iff.mp found
  have split : candidates =
      candidates.take place ++ candidates[place] :: candidates.drop (place + 1) := by
    rw [← List.drop_eq_getElem_cons inside, List.take_append_drop]
  have before : (verdicts settings [] (candidates.take place)).length = place := by
    rw [length_verdicts, List.length_take, Nat.min_eq_left (Nat.le_of_lt inside)]
  conv_lhs => rw [split, verdicts_append]
  rw [List.getElem?_append_right (Nat.le_of_eq before), before, Nat.sub_self]
  rfl

theorem passed_concat (classification : String)
    (candidates : List (Candidate T)) (candidate : Candidate T) :
    passed settings classification (candidates ++ [candidate]) =
      passed settings classification candidates ++
        if verdictAfter settings candidates candidate = none ∧
            candidate.arrival.classification = classification then
          [candidate.arrival]
        else [] := by
  have last : verdicts settings (lastSentAfter settings [] candidates)
      [candidate] = [verdictAfter settings candidates candidate] :=
    rfl
  rw [passed, verdicts_append, last, List.zip_append (by simp),
    List.filter_append, List.map_append]
  congr 1
  cases verdictAfter settings candidates candidate with
  | some verdict => simp
  | none =>
      by_cases same : candidate.arrival.classification = classification
      · simp [same]
      · simp [same]

theorem exists_candidate_of_mem_passed {classification : String}
    {candidates : List (Candidate T)} {arrival : Arrival T}
    (member : arrival ∈ passed settings classification candidates) :
    ∃ candidate ∈ candidates, candidate.arrival = arrival := by
  obtain ⟨⟨candidate, verdict⟩, found, rfl⟩ := List.mem_map.mp member
  have inZip := (List.mem_filter.mp found).1
  exact ⟨candidate, (List.of_mem_zip inZip).1, rfl⟩

/-- The times that are remembered are those of the arrivals of each
classification that were let through last. -/
theorem lookup_lastSentAfter (classification : String)
    (candidates : List (Candidate T)) :
    (lastSentAfter settings [] candidates).lookup classification =
      (passed settings classification candidates).getLast?.map (·.time) := by
  induction candidates using List.reverseRecOn with
  | nil => rfl
  | append_singleton candidates candidate ih =>
      rw [lastSentAfter_concat, passed_concat, verdictAfter]
      rcases suppression_cases settings candidate.window
          (lastSentAfter settings [] candidates) candidate.arrival with
        ⟨deadline, -, judged⟩ | ⟨-, -, judged⟩ | ⟨-, -, judged⟩
      · simpa [judged] using ih
      · simpa [judged] using ih
      · by_cases same : candidate.arrival.classification = classification
        · subst same
          simp [judged, lookup_setLast_self]
        · rw [judged, lookup_setLast_of_ne _ _ _ same, ih]
          simp [same]

/-- A candidate is debounced exactly if it is not muted and comes too soon after
the last arrival of its classification that was let through. -/
theorem verdictAfter_eq_debounced_iff (candidates : List (Candidate T))
    (candidate : Candidate T) :
    verdictAfter settings candidates candidate = some .debounced ↔
      candidate.window.activeAt candidate.arrival.time = none ∧
        ∃ last, (passed settings candidate.arrival.classification
            candidates).getLast? = some last ∧
          Timeline.since candidate.arrival.time last.time <
            settings.debounce := by
  have soon : isDebounced settings (lastSentAfter settings [] candidates)
      candidate.arrival = true ↔
        ∃ last, (passed settings candidate.arrival.classification
            candidates).getLast? = some last ∧
          Timeline.since candidate.arrival.time last.time <
            settings.debounce := by
    rw [isDebounced_iff, lookup_lastSentAfter]
    simp only [Option.map_eq_some_iff]
    constructor
    · rintro ⟨-, ⟨last, found, rfl⟩, tooSoon⟩
      exact ⟨last, found, tooSoon⟩
    · rintro ⟨last, found, tooSoon⟩
      exact ⟨last.time, ⟨last, found, rfl⟩, tooSoon⟩
  rw [← soon, verdictAfter]
  rcases suppression_cases settings candidate.window
      (lastSentAfter settings [] candidates) candidate.arrival with
    ⟨deadline, active, judged⟩ | ⟨silent, isSoon, judged⟩ |
      ⟨silent, notSoon, judged⟩
  · simp [judged, active]
  · simp [judged, silent, isSoon]
  · simp [judged, silent, notSoon]

/-- An arrival that is let through does not come too soon after the one before
it. -/
theorem le_since_of_verdictAfter_eq_none {candidates : List (Candidate T)}
    {candidate : Candidate T}
    (isPassed : verdictAfter settings candidates candidate = none)
    {last : Arrival T}
    (found : (passed settings candidate.arrival.classification
      candidates).getLast? = some last) :
    settings.debounce ≤ Timeline.since candidate.arrival.time last.time := by
  by_contra tooSoon
  have debounced : verdictAfter settings candidates candidate =
      some .debounced := by
    rw [verdictAfter_eq_debounced_iff]
    refine ⟨?_, last, found, Int.not_le.mp tooSoon⟩
    cases active : candidate.window.activeAt candidate.arrival.time with
    | none => rfl
    | some deadline => simp [verdictAfter, suppression, active] at isPassed
  rw [isPassed] at debounced
  exact Option.some_ne_none _ debounced.symm

theorem isChain_passed (classification : String)
    (candidates : List (Candidate T)) :
    (passed settings classification candidates).IsChain fun earlier later =>
      settings.debounce ≤ Timeline.since later.time earlier.time := by
  induction candidates using List.reverseRecOn with
  | nil => exact .nil
  | append_singleton candidates candidate ih =>
      rw [passed_concat]
      split
      · next isNext =>
          obtain ⟨isPassed, rfl⟩ := isNext
          refine ih.append (List.isChain_singleton _) ?_
          rintro last found _ ⟨⟩
          exact le_since_of_verdictAfter_eq_none settings isPassed found
      · simpa using ih

/-- Arrivals that are let through do not go back in time, but to a leap second
from the next day, if the debounce time is less than a second. -/
theorem isChain_passed_goes_back {settings : Ntfy.Settings K}
    (nonnegative : 0 ≤ settings.debounce.nanoseconds)
    {candidates : List (Candidate Instant)}
    (proper : ∀ candidate ∈ candidates, candidate.arrival.time.IsProper)
    (classification : String) :
    (passed settings classification candidates).IsChain fun earlier later =>
      later.time < earlier.time →
        settings.debounce < .seconds 1 ∧
          earlier.time.ReturnsToLeap later.time := by
  have properPassed : ∀ arrival ∈ passed settings classification candidates,
      arrival.time.IsProper := by
    intro arrival member
    obtain ⟨candidate, inSequence, rfl⟩ :=
      exists_candidate_of_mem_passed settings member
    exact proper candidate inSequence
  refine (isChain_passed settings classification candidates).imp_of_mem_imp ?_
  intro earlier later earlierMember laterMember distance goesBack
  have earlierProper := properPassed earlier earlierMember
  have laterProper := properPassed later laterMember
  have soon := Instant.since_lt_second_of_lt laterProper goesBack
  have notNegative := Int.le_trans nonnegative distance
  exact ⟨Int.lt_of_le_of_lt distance soon,
    (Instant.nonneg_since_iff_of_lt earlierProper laterProper goesBack).mp
      notNegative⟩

theorem lastSentAfter_concat_of_suppressed {candidates : List (Candidate T)}
    {candidate : Candidate T} {verdict : Suppression T}
    (suppressed : verdictAfter settings candidates candidate = some verdict) :
    lastSentAfter settings [] (candidates ++ [candidate]) =
      lastSentAfter settings [] candidates := by
  rw [lastSentAfter_concat]
  rw [verdictAfter] at suppressed
  rcases suppression_cases settings candidate.window
      (lastSentAfter settings [] candidates) candidate.arrival with
    ⟨deadline, -, judged⟩ | ⟨-, -, judged⟩ | ⟨-, -, judged⟩
  · rw [judged]
  · rw [judged]
  · simp [judged] at suppressed

/-- Debouncing over a whole sequence of candidates.  Two arrivals of one
classification that are let through one after the other lie at least the
debounce time apart, by the difference of their times, so this difference is
never negative.  They go back in time only if the debounce time is less than a
second, and then from the first second of a day to the leap second before it.  A
candidate is debounced exactly if it is not muted and comes less than the
debounce time after the last arrival of its classification that was let through.
What is remembered for each classification is the time of that arrival, and
muted and debounced candidates do not change it. -/
theorem passed_arrivals_keep_their_distance
    (nonnegative : 0 ≤ settings.debounce.nanoseconds)
    (candidates : List (Candidate Instant)) :
    (∀ classification,
      (passed settings classification candidates).IsChain fun earlier later =>
        settings.debounce ≤ Timeline.since later.time earlier.time ∧
          0 ≤ (Timeline.since later.time earlier.time).nanoseconds) ∧
    ((∀ candidate ∈ candidates, candidate.arrival.time.IsProper) →
      ∀ classification,
        (passed settings classification candidates).IsChain
          fun earlier later => later.time < earlier.time →
            settings.debounce < .seconds 1 ∧
              earlier.time.ReturnsToLeap later.time) ∧
    (∀ place candidate, candidates[place]? = some candidate →
      ((verdicts settings [] candidates)[place]? = some (some .debounced) ↔
        candidate.window.activeAt candidate.arrival.time = none ∧
          ∃ last, (passed settings candidate.arrival.classification
              (candidates.take place)).getLast? = some last ∧
            Timeline.since candidate.arrival.time last.time <
              settings.debounce)) ∧
    (∀ place classification,
      (lastSentAfter settings [] (candidates.take place)).lookup
          classification =
        (passed settings classification
          (candidates.take place)).getLast?.map (·.time)) ∧
    (∀ place verdict,
      (verdicts settings [] candidates)[place]? = some (some verdict) →
      lastSentAfter settings [] (candidates.take (place + 1)) =
        lastSentAfter settings [] (candidates.take place)) := by
  refine ⟨?_, ?_, ?_, ?_, ?_⟩
  · intro classification
    refine (isChain_passed settings classification candidates).imp ?_
    intro earlier later distance
    exact ⟨distance, Int.le_trans nonnegative distance⟩
  · exact isChain_passed_goes_back nonnegative
  · intro place candidate found
    rw [getElem?_verdicts settings found, Option.some.injEq,
      verdictAfter_eq_debounced_iff]
  · intro place classification
    exact lookup_lastSentAfter settings classification (candidates.take place)
  · intro place verdict suppressed
    have inside : place < candidates.length := by
      rw [← length_verdicts settings [] candidates]
      exact (List.getElem?_eq_some_iff.mp suppressed).1
    rw [getElem?_verdicts settings (List.getElem?_eq_getElem inside),
      Option.some.injEq] at suppressed
    rw [List.take_succ_eq_append_getElem inside]
    exact lastSentAfter_concat_of_suppressed settings suppressed

/-- An arrival that meets a mute window. -/
def arriving (deadline : Option Instant) (classification : String)
    (second : Int) : Candidate Instant :=
  ⟨⟨deadline⟩, ⟨⟨second, 0⟩, classification, "arrived", "e0", none, none⟩⟩

/-- Cars out of order, one of them muted, and a person among them. -/
def restlessDay : List (Candidate Instant) :=
  [arriving none "car" 100, arriving (some ⟨500, 0⟩) "car" 200,
    arriving none "person" 110, arriving none "car" 40,
    arriving none "car" 159, arriving (some ⟨500, 0⟩) "car" 700]

theorem passed_arrivals_keep_their_distance_of_restlessDay :
    0 ≤ Ntfy.Settings.standard.debounce.nanoseconds ∧
      (∀ candidate ∈ restlessDay, candidate.arrival.time.IsProper) ∧
      (passed Ntfy.Settings.standard "car" restlessDay).map (·.time.second) =
        [100, 700] ∧
      (passed Ntfy.Settings.standard "car" restlessDay).IsChain
        (fun earlier later => ¬ later.time < earlier.time) ∧
      (verdicts Ntfy.Settings.standard [] restlessDay)[4]? =
        some (some .debounced) := by
  have nonnegative : 0 ≤ Ntfy.Settings.standard.debounce.nanoseconds := by
    decide +kernel
  have proper : ∀ candidate ∈ restlessDay,
      candidate.arrival.time.IsProper := by
    intro candidate member
    have plain : ∀ candidate ∈ restlessDay,
        candidate.arrival.time.nanosecond = 0 := by
      decide
    exact ⟨by simp [plain candidate member],
      by simp [Instant.isLeap, plain candidate member]⟩
  have aMinute : ¬ Ntfy.Settings.standard.debounce < .seconds 1 := by
    decide +kernel
  obtain ⟨-, goesBack, debounced, -, -⟩ :=
    passed_arrivals_keep_their_distance Ntfy.Settings.standard nonnegative
      restlessDay
  refine ⟨nonnegative, proper, by decide +kernel, ?_, ?_⟩
  · refine (goesBack proper "car").imp ?_
    intro earlier later onlyToLeap isBack
    exact aMinute (onlyToLeap isBack).1
  · rw [debounced 4 (arriving none "car" 159) rfl]
    decide +kernel

/-- Without a debounce time an arrival at the beginning of a year is followed by
one in the leap second at the end of the year before. -/
theorem passed_arrivals_go_back_to_leap_second :
    let settings := { Ntfy.Settings.standard with debounceSeconds := 0.0 }
    let newYear : Candidate Instant := arriving none "car" 1483228800
    let leapSecond : Candidate Instant :=
      ⟨.silent,
        ⟨⟨1483228799, 1500000000⟩, "car", "arrived", "e1", none, none⟩⟩
    0 ≤ settings.debounce.nanoseconds ∧
      passed settings "car" [newYear, leapSecond] =
        [newYear.arrival, leapSecond.arrival] ∧
      leapSecond.arrival.time < newYear.arrival.time := by
  decide +kernel

end Dispatch

end DrivewayWatch
