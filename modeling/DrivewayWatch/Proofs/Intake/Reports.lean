import DrivewayWatch.Intake.Stream
import DrivewayWatch.Proofs.Number.Positive
import DrivewayWatch.Proofs.Time.Configured
import DrivewayWatch.Proofs.Time.Elapsed

/-!
# Reports of liveness

Liveness is told of every decoded frame and of the time now and then.  Each
frame is counted in one report, the one that is due next, or it is still to be
reported.  Two reports lie more than the interval apart even if the clock goes
back between them, as then no report is due; so the seconds that the frames are
divided by are positive for every interval that the settings allow.
-/

namespace DrivewayWatch.Intake

/-- What liveness is told: that a frame was decoded, or what the time is. -/
inductive Call (T : Type) where
  | frame
  | tick (now : T)
  deriving DecidableEq

/-- A report and when it was made. -/
structure Reported (T : Type) where
  time : T
  report : LivenessReport
  deriving DecidableEq

namespace Liveness

variable {T : Type}

/-- Liveness before anything was told. -/
def fresh (interval : Duration) : Liveness T :=
  { interval, lastReport := none, frames := 0 }

variable [Timeline T]

def take (liveness : Liveness T) : Call T → Liveness T × Option (Reported T)
  | .frame => (liveness.countFrame, none)
  | .tick now =>
    let (next, report) := liveness.tick now
    (next, report.map fun report => ⟨now, report⟩)

def after (liveness : Liveness T) : List (Call T) → Liveness T
  | [] => liveness
  | call :: calls => (liveness.take call).1.after calls

def reports (liveness : Liveness T) : List (Call T) → List (Reported T)
  | [] => []
  | call :: calls =>
    (liveness.take call).2.toList ++ (liveness.take call).1.reports calls

end Liveness

section Follows

variable {T : Type} [Timeline T]

/-- Whether a report tells the time since the last one, and was due by then.
The first report tells no time. -/
def Reported.Follows (interval : Duration) (reported : Reported T) :
    Option T → Prop
  | none => reported.report.elapsed = none
  | some last =>
    reported.report.elapsed = some (Timeline.since reported.time last) ∧
      interval < Timeline.since reported.time last

end Follows

namespace Liveness

variable {T : Type} [Timeline T] (liveness : Liveness T)

/-- A look at the clock changes nothing, or all frames are reported. -/
theorem take_tick_cases (now : T) :
    (∃ last, liveness.lastReport = some last ∧
      ¬ liveness.interval < Timeline.since now last ∧
      liveness.take (.tick now) = (liveness, none)) ∨
    ∃ reported : Reported T, reported.time = now ∧
      reported.report.frames = liveness.frames ∧
      reported.Follows liveness.interval liveness.lastReport ∧
      liveness.take (.tick now) =
        ({ liveness with lastReport := some now, frames := 0 },
          some reported) := by
  cases isLast : liveness.lastReport with
  | none =>
      refine .inr ⟨⟨now, liveness.frames, none⟩, rfl, rfl, rfl, ?_⟩
      rw [take, tick, due?, isLast]
      rfl
  | some last =>
      by_cases isDue : liveness.interval < Timeline.since now last
      · refine .inr ⟨⟨now, liveness.frames, some (Timeline.since now last)⟩,
          rfl, rfl, ⟨rfl, isDue⟩, ?_⟩
        rw [take, tick, due?, isLast]
        simp only [if_pos isDue]
        rfl
      · refine .inl ⟨last, rfl, isDue, ?_⟩
        rw [take, tick, due?, isLast]
        simp only [if_neg isDue]
        rfl

theorem interval_after (calls : List (Call T)) :
    (liveness.after calls).interval = liveness.interval := by
  induction calls generalizing liveness with
  | nil => rfl
  | cons call calls ih =>
      rw [after, ih]
      cases call with
      | frame => rfl
      | tick now =>
          rcases liveness.take_tick_cases now with
            ⟨last, -, -, taken⟩ | ⟨reported, -, -, -, taken⟩ <;> rw [taken]

/-- No frame is lost, and none is counted twice. -/
theorem sum_frames_reports [DecidableEq T] (calls : List (Call T)) :
    ((liveness.reports calls).map (·.report.frames)).sum +
        (liveness.after calls).frames =
      liveness.frames + calls.count .frame := by
  induction calls generalizing liveness with
  | nil => simp [reports, after]
  | cons call calls ih =>
      cases call with
      | frame =>
          have rest := ih liveness.countFrame
          rw [List.count_cons_self]
          simp only [reports, after, take, Option.toList_none, List.nil_append,
            countFrame] at rest ⊢
          omega
      | tick now =>
          have other : Call.tick now ≠ Call.frame := nofun
          rw [List.count_cons_of_ne other, reports, after]
          rcases liveness.take_tick_cases now with
            ⟨last, -, -, taken⟩ | ⟨reported, -, frames, -, taken⟩
          · rw [taken]
            exact ih liveness
          · have rest :=
              ih { liveness with lastReport := some now, frames := 0 }
            simp only [taken, Option.toList_some, List.singleton_append,
              List.map_cons, List.sum_cons, frames] at rest ⊢
            omega

/-- Every report follows the one before it. -/
theorem follows_reports (calls : List (Call T)) :
    (∀ first ∈ (liveness.reports calls).head?,
      first.Follows liveness.interval liveness.lastReport) ∧
    (liveness.reports calls).IsChain fun earlier later =>
      later.Follows liveness.interval (some earlier.time) := by
  induction calls generalizing liveness with
  | nil => exact ⟨nofun, .nil⟩
  | cons call calls ih =>
      rw [reports]
      cases call with
      | frame => exact ih liveness.countFrame
      | tick now =>
          rcases liveness.take_tick_cases now with
            ⟨last, -, -, taken⟩ | ⟨reported, rfl, -, follows, taken⟩
          · rw [taken]
            exact ih liveness
          · obtain ⟨next, chain⟩ :=
              ih { liveness with lastReport := some reported.time, frames := 0 }
            rw [taken]
            refine ⟨?_, List.isChain_cons.mpr ⟨next, chain⟩⟩
            intro first isFirst
            obtain rfl := Option.some.inj isFirst
            exact follows

theorem tick_mem_of_mem_reports {calls : List (Call T)} :
    ∀ reported ∈ liveness.reports calls, .tick reported.time ∈ calls := by
  induction calls generalizing liveness with
  | nil => exact nofun
  | cons call calls ih =>
      intro reported member
      rw [reports, List.mem_append] at member
      rcases member with isNow | isLater
      · cases call with
        | frame => cases isNow
        | tick now =>
            rcases liveness.take_tick_cases now with
              ⟨last, -, -, taken⟩ | ⟨found, rfl, -, -, taken⟩
            · rw [taken] at isNow
              cases isNow
            · rw [taken, Option.toList_some, List.mem_singleton] at isNow
              rw [isNow]
              exact List.mem_cons_self
      · exact List.mem_cons_of_mem _ (ih _ reported isLater)

theorem lastReport_after (calls : List (Call T)) :
    (liveness.after calls).lastReport =
      ((liveness.reports calls).getLast?.map (·.time)).or
        liveness.lastReport := by
  induction calls generalizing liveness with
  | nil => rfl
  | cons call calls ih =>
      rw [reports, after, ih]
      cases call with
      | frame => rfl
      | tick now =>
          rcases liveness.take_tick_cases now with
            ⟨last, -, -, taken⟩ | ⟨reported, rfl, -, -, taken⟩
          · rw [taken]
            rfl
          · rw [taken, Option.toList_some, List.singleton_append,
              List.getLast?_cons]
            generalize List.getLast? _ = found
            cases found <;> rfl

theorem lastReport_after_eq_none_iff (calls : List (Call T)) :
    (liveness.after calls).lastReport = none ↔
      liveness.lastReport = none ∧ ∀ call ∈ calls, call = .frame := by
  induction calls generalizing liveness with
  | nil => simp [after]
  | cons call calls ih =>
      rw [after, ih, List.forall_mem_cons]
      cases call with
      | frame => simp [take, countFrame]
      | tick now =>
          have someReport :
              (liveness.take (.tick now)).1.lastReport ≠ none := by
            rcases liveness.take_tick_cases now with
              ⟨last, isLast, -, taken⟩ | ⟨reported, -, -, -, taken⟩
            · rw [taken, isLast]
              exact Option.some_ne_none last
            · rw [taken]
              exact Option.some_ne_none now
          constructor
          · rintro ⟨noReport, -⟩
            exact absurd noReport someReport
          · rintro ⟨-, isFrame, -⟩
            cases isFrame

/-- The last look at the clock that a report was due at. -/
theorem exists_last_report {calls : List (Call T)} {call : Call T}
    (member : call ∈ calls) (isTick : call ≠ .frame) (interval : Duration) :
    ∃ last, ((fresh interval).reports calls).getLast? = some last ∧
      ((fresh interval).after calls).lastReport = some last.time := by
  have someReport : ((fresh interval).after calls).lastReport ≠ none := by
    intro isNone
    have onlyFrames :=
      ((fresh interval).lastReport_after_eq_none_iff calls).mp isNone
    exact isTick (onlyFrames.2 call member)
  have isLast := (fresh interval).lastReport_after calls
  cases found : ((fresh interval).reports calls).getLast? with
  | none =>
      rw [found] at isLast
      exact absurd isLast someReport
  | some last =>
      rw [found] at isLast
      exact ⟨last, rfl, isLast⟩

theorem isSome_tick_of_first (isFirst : liveness.lastReport = none) (now : T) :
    (liveness.tick now).2.isSome = true := by
  rw [tick, due?, isFirst]
  rfl

theorem isSome_tick_iff {last : T} (isLast : liveness.lastReport = some last)
    (now : T) :
    (liveness.tick now).2.isSome = true ↔
      liveness.interval < Timeline.since now last := by
  rw [tick, due?, isLast]
  by_cases isDue : liveness.interval < Timeline.since now last <;> simp [isDue]

end Liveness

section Stream

/-- A record decodes one frame or none. -/
theorem liveness_of_frameFor {state next : State} {record : Record}
    {frame : Frame} (found : frameFor state record = .ok (frame, next)) :
    next.liveness = state.liveness ∨
      next.liveness = state.liveness.countFrame := by
  unfold frameFor at found
  split at found
  · cases found
    exact .inl rfl
  · split at found
    · cases found
    · split at found
      · cases found
      · cases found
        exact .inr rfl

theorem liveness_stateFrom_resultOf (state : State) (text : List Char)
    (time : Instant) (id : String) :
    ((resultOf state text time id).stateFrom state).liveness =
        state.liveness ∨
      ((resultOf state text time id).stateFrom state).liveness =
        state.liveness.countFrame := by
  unfold resultOf
  simp only
  split
  · exact .inl rfl
  · split
    · exact .inl rfl
    · split
      · exact .inl rfl
      · next detected =>
          unfold detectionOf at detected
          split at detected
          · cases detected
          · next found =>
              cases detected
              exact liveness_of_frameFor found

theorem tick_takes_call {K : Type} (settings : Settings K) (state : State)
    (now : Instant) :
    (tick settings state now).1.liveness = state.liveness.after [.tick now] ∧
      (tick settings state now).2 =
        if state.liveness.reports [.tick now] = [] then none
        else settings.pingUrl := by
  rw [tick, Liveness.after, Liveness.after, Liveness.reports, Liveness.reports,
    Liveness.take]
  rcases state.liveness.tick now with ⟨next, _ | report⟩
  · exact ⟨rfl, rfl⟩
  · exact ⟨rfl, rfl⟩

/-- A line of the stream tells of one frame at most and then of the time, and a
report pings the health check. -/
theorem step_takes_calls {K : Type} (settings : Settings K) {state : State}
    {line : Line} {result : Step}
    (isRead : step settings state line = some result) :
    ∃ calls : List (Call Instant),
      (calls = [.tick line.time] ∨ calls = [.frame, .tick line.time]) ∧
      result.state.liveness = state.liveness.after calls ∧
      result.ping =
        if state.liveness.reports calls = [] then none
        else settings.pingUrl := by
  obtain ⟨text, -, rfl⟩ := Option.map_eq_some_iff.mp isRead
  have ticked := tick_takes_call settings
    ((resultOf state text line.time line.id).stateFrom state) line.time
  rcases liveness_stateFrom_resultOf state text line.time line.id with
    same | counted
  · rw [same] at ticked
    exact ⟨_, .inl rfl, ticked⟩
  · rw [counted] at ticked
    exact ⟨_, .inr rfl, ticked⟩

end Stream

/-- Whether a report was made as it should be after another one: later by more
than the interval, and with its frames divided by the seconds since then, which
are positive. -/
structure IsReportedAfter (interval : Duration)
    (earlier later : Reported Instant) : Prop where
  time_lt : earlier.time < later.time
  interval_lt : interval < Timeline.since later.time earlier.time
  rate : ∃ seconds : Float, 0.0 < seconds ∧
    seconds = Float.ofInt
      (Timeline.since later.time earlier.time).toMilliseconds / 1000.0 ∧
    later.report.framesPerSecond =
      some (Float.ofNat later.report.frames / seconds)

section Interval

variable {interval : Duration}

theorem toMilliseconds_pos {elapsed : Duration}
    (longEnough : .seconds 5 ≤ interval) (exceeds : interval < elapsed) :
    0 < elapsed.toMilliseconds := by
  have more : 5 * 1000000000 < elapsed.nanoseconds :=
    Int.lt_of_le_of_lt longEnough exceeds
  rw [Duration.toMilliseconds, Int.tdiv_eq_ediv_of_nonneg (by omega)]
  omega

theorem Reported.Follows.isReportedAfter {earlier later : Reported Instant}
    (follows : later.Follows interval (some earlier.time))
    (longEnough : .seconds 5 ≤ interval)
    (fraction : later.time.nanosecond < 2000000000) :
    IsReportedAfter interval earlier later := by
  obtain ⟨elapsed, exceeds⟩ := follows
  constructor
  case time_lt =>
    apply Instant.lt_of_second_le_since fraction
    calc 1 * 1000000000 ≤ 5 * 1000000000 := by norm_num
      _ ≤ interval.nanoseconds := longEnough
      _ ≤ _ := Int.le_of_lt exceeds
  case interval_lt => exact exceeds
  case rate =>
    refine ⟨_, seconds_pos (toMilliseconds_pos longEnough exceeds), rfl, ?_⟩
    rw [LivenessReport.framesPerSecond, elapsed]
    rfl

/-- The interval that liveness starts with is never less than five seconds. -/
theorem start_eq_fresh {settings : Settings Float}
    (isValid : settings.hasValidTick = true) :
    ∃ interval, .seconds 5 ≤ interval ∧
      (Liveness.start settings.tickSeconds : Liveness Instant) =
        Liveness.fresh interval := by
  have fiveSeconds :
      Duration.ofSecondsInMilliseconds (Float.ofNat 5) = .seconds 5 := by
    decide +kernel
  have notNegative : ¬ Float.ofNat 5 < Float.ofNat 0 := by
    decide +kernel
  have notLess : Float.ofNat 5 ≤ settings.tickSeconds := by
    have bounds := (Bool.and_eq_true _ _).mp isValid
    exact of_decide_eq_true bounds.1
  have order := Duration.ofSecondsInMilliseconds_mono notNegative notLess
  rw [fiveSeconds] at order
  exact ⟨_, order, rfl⟩

open Liveness in
/-- Whatever liveness is told of from its start, each frame is reported once or
is still to be reported.  A report is due at the first look at the clock and
then whenever more than the interval has passed since the last report, and every
report after the first one has a rate.  Instants have less than two seconds as
their fraction, which is all that is known of the readings of the clock. -/
theorem reports_lose_no_frame (longEnough : .seconds 5 ≤ interval)
    {calls : List (Call Instant)}
    (readings : ∀ now, .tick now ∈ calls → now.nanosecond < 2000000000) :
    (((fresh interval).reports calls).map (·.report.frames)).sum +
        ((fresh interval).after calls).frames = calls.count .frame ∧
    (∀ now, (∀ call ∈ calls, call = .frame) →
      (((fresh interval).after calls).tick now).2.isSome = true) ∧
    (∀ now, (∃ call ∈ calls, call ≠ .frame) →
      ∃ last, ((fresh interval).reports calls).getLast? = some last ∧
        ((((fresh interval).after calls).tick now).2.isSome = true ↔
          interval < Timeline.since now last.time)) ∧
    (∀ first ∈ ((fresh interval).reports calls).head?,
      first.report.framesPerSecond = none) ∧
    ((fresh interval).reports calls).IsChain (IsReportedAfter interval) ∧
    ∀ settings : Settings Float, settings.hasValidTick = true →
      ∃ interval, .seconds 5 ≤ interval ∧
        (start settings.tickSeconds : Liveness Instant) = fresh interval := by
  obtain ⟨first, chain⟩ := (fresh interval).follows_reports calls
  refine ⟨?_, ?_, ?_, ?_, ?_, fun _ => start_eq_fresh⟩
  · rw [sum_frames_reports]
    exact Nat.zero_add _
  · intro now onlyFrames
    have noReport : ((fresh interval).after calls).lastReport = none :=
      ((fresh interval).lastReport_after_eq_none_iff calls).mpr
        ⟨rfl, onlyFrames⟩
    exact isSome_tick_of_first _ noReport now
  · intro now ⟨call, member, isTick⟩
    obtain ⟨last, isLast, isReport⟩ := exists_last_report member isTick interval
    refine ⟨last, isLast, ?_⟩
    rw [isSome_tick_iff _ isReport, interval_after]
    rfl
  · intro report isFirst
    have noTime : report.report.elapsed = none := first report isFirst
    rw [LivenessReport.framesPerSecond, noTime]
    rfl
  · refine chain.imp_of_mem_imp ?_
    intro earlier later _ laterMember follows
    have isReading := (fresh interval).tick_mem_of_mem_reports later laterMember
    exact follows.isReportedAfter longEnough (readings later.time isReading)

end Interval

/-- Three frames while the clock is set back and catches up again. -/
def restlessClock : List (Call Instant) :=
  [.tick ⟨100, 0⟩, .frame, .tick ⟨40, 0⟩, .frame, .tick ⟨130, 0⟩, .frame,
    .tick ⟨140, 0⟩]

open Liveness in
theorem reports_lose_no_frame_of_restlessClock :
    Duration.seconds 5 ≤ .seconds 30 ∧
    (∀ now, .tick now ∈ restlessClock → now.nanosecond < 2000000000) ∧
    (((fresh (.seconds 30)).reports restlessClock).map fun reported =>
      (reported.time.second, reported.report.frames)) = [(100, 0), (140, 3)] ∧
    ((fresh (.seconds 30)).after restlessClock).frames = 0 ∧
    ((fresh (.seconds 30)).reports restlessClock).IsChain
      (IsReportedAfter (.seconds 30)) := by
  have longEnough : Duration.seconds 5 ≤ .seconds 30 := by decide
  have readings :
      ∀ now, .tick now ∈ restlessClock → now.nanosecond < 2000000000 := by
    intro now member
    simp only [restlessClock, List.mem_cons, Call.tick.injEq, reduceCtorEq,
      List.not_mem_nil, or_false, false_or] at member
    rcases member with rfl | rfl | rfl | rfl <;> decide
  obtain ⟨counted, -, -, -, chain, -⟩ :=
    reports_lose_no_frame longEnough readings
  have reported :
      (((fresh (.seconds 30)).reports restlessClock).map
        (·.report.frames)).sum = 3 := by
    decide +kernel
  have told : restlessClock.count .frame = 3 := by decide +kernel
  refine ⟨longEnough, readings, by decide +kernel, by omega, chain⟩

end DrivewayWatch.Intake
