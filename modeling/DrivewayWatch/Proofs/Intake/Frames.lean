import DrivewayWatch.Intake.Stream
import Mathlib.Data.List.Induction

/-!
# Which frame a record gets

What a record is given depends on all records before it, but only through the
last of those whose frames were decoded.  A history of the decodings, which is
read off the records alone, says what the state is: the last decoding is
current, and the number of decodings is what liveness counts.  A record that
yields no detection is not in the history and leaves no trace in the state.
-/

namespace DrivewayWatch.Intake

/-- A record as it is read, at a time and with the id for its detection. -/
structure Reading where
  record : Record
  time : Instant
  id : String

namespace Reading

/-- The same with another image in the record, or with none. -/
def withImage (reading : Reading) (image : Option String) : Reading :=
  { reading with record := { reading.record with image } }

/-- What a reading says about a frame. -/
def detection (reading : Reading) (frame : Frame) : Detection Float Instant :=
  { id := reading.id
    time := reading.record.time.getD reading.time
    modelId := reading.record.modelId
    classification := reading.record.classification
    isConfirmed := reading.record.isConfirmed
    box := reading.record.box
    frame }

end Reading

/-- What a reading comes to. -/
def take (state : State) (reading : Reading) : LineResult :=
  match detectionOf state reading.record reading.time reading.id with
  | .error fault => .skipped fault
  | .ok (detection, next) => .detection detection next

/-- A line comes to what the record in it comes to. -/
theorem resultOf_eq_take (state : State) {text : List Char} {record : Record}
    (read : Record.read? (Text.trim text) = some record) (time : Instant)
    (id : String) :
    resultOf state text time id = take state ⟨record, time, id⟩ := by
  have notBlank : (Text.trim text).isEmpty = false := by
    cases content : Text.trim text with
    | nil =>
        rw [content] at read
        cases read
    | cons c rest => rfl
  unfold resultOf take
  simp only [notBlank, read]
  rfl

/-- The state after some readings. -/
def stateAfter (state : State) (readings : List Reading) : State :=
  readings.foldl (fun state reading => (take state reading).stateFrom state)
    state

theorem stateAfter_concat (state : State) (readings : List Reading)
    (reading : Reading) :
    stateAfter state (readings ++ [reading]) =
      (take (stateAfter state readings) reading).stateFrom
        (stateAfter state readings) := by
  simp [stateAfter]

theorem LineResult.stateFrom_of_detection?_eq_none {result : LineResult}
    (state : State) (yieldsNone : result.detection? = none) :
    result.stateFrom state = state := by
  cases result with
  | detection detection next => cases yieldsNone
  | blank => rfl
  | skipped fault => rfl

/-- The frame that the image of a record can be decoded to. -/
def ownFrame? (record : Record) : Option Frame :=
  record.image.bind fun image => (frameOf image).toOption

theorem ownFrame?_eq_some_iff {record : Record} {frame : Frame} :
    ownFrame? record = some frame ↔
      ∃ image, record.image = some image ∧ frameOf image = .ok frame := by
  rw [ownFrame?, Option.bind_eq_some_iff]
  refine exists_congr fun image => and_congr_right fun _ => ?_
  cases frameOf image <;> simp [Except.toOption]

/-- The records whose frames were decoded, in order, each with its frame. -/
abbrev History := List (Record × Frame)

/-- The number that was given for the frame that was decoded last. -/
def History.number? (history : History) : Option Nat :=
  history.getLast?.bind fun decoded => decoded.1.frame

/-- Whether a record gives the number that was given for the frame that was
decoded last. -/
def SharesNumber (history : History) (record : Record) : Prop :=
  record.frame ≠ none ∧ history.number? = record.frame

instance (history : History) (record : Record) :
    Decidable (SharesNumber history record) :=
  inferInstanceAs (Decidable (_ ∧ _))

/-- The frame of a record is decoded if it can be, unless the record shares the
number of the last one. -/
def History.after (history : History) (record : Record) : History :=
  if SharesNumber history record then history
  else history ++ ((ownFrame? record).map fun frame => (record, frame)).toList

def historyOf (records : List Record) : History :=
  records.foldl History.after []

theorem historyOf_concat (records : List Record) (record : Record) :
    historyOf (records ++ [record]) = (historyOf records).after record := by
  simp [historyOf]

/-- What a history says of its records: they are some of those that were read,
in order, each with the frame that its image is decoded to. -/
structure History.IsOf (history : History) (records : List Record) : Prop where
  records : (history.map Prod.fst).Sublist records
  frames : ∀ decoded ∈ history, ownFrame? decoded.1 = some decoded.2

theorem History.IsOf.after {history : History} {records : List Record}
    (isOf : history.IsOf records) (record : Record) :
    (history.after record).IsOf (records ++ [record]) := by
  have unchanged : history.IsOf (records ++ [record]) :=
    ⟨isOf.records.trans (List.sublist_append_left ..), isOf.frames⟩
  rw [History.after]
  split
  · exact unchanged
  · cases own : ownFrame? record with
    | none => simpa using unchanged
    | some frame =>
        refine ⟨?_, ?_⟩
        · simpa using isOf.records.append (List.Sublist.refl [record])
        · intro decoded member
          rcases List.mem_append.mp member with earlier | last
          · exact isOf.frames decoded earlier
          · obtain rfl : decoded = (record, frame) := by simpa using last
            exact own

theorem historyOf_isOf (records : List Record) :
    (historyOf records).IsOf records := by
  induction records using List.reverseRecOn with
  | nil => exact ⟨.refl _, nofun⟩
  | append_singleton records record ih =>
      rw [historyOf_concat]
      exact ih.after record

section States

variable {K : Type} [Scalar K] (settings : Settings K) {history : History}

/-- The state that a history leaves. -/
def stateOf (history : History) : State :=
  { current := history.getLast?.map fun (record, frame) => (record.frame, frame)
    liveness :=
      { Liveness.start settings.tickSeconds with frames := history.length } }

theorem stateOf_concat (record : Record) (frame : Frame) :
    stateOf settings (history ++ [(record, frame)]) =
      { current := some (record.frame, frame)
        liveness := (stateOf settings history).liveness.countFrame } := by
  simp [stateOf, Liveness.countFrame]

/-- A record that shares the number of the last one gets its frame. -/
theorem exists_frame?_of_shares {record : Record}
    (shares : SharesNumber history record) :
    ∃ last frame, history.getLast? = some (last, frame) ∧
      (stateOf settings history).frame? record.frame = some frame := by
  obtain ⟨hasNumber, same⟩ := shares
  obtain ⟨number, given⟩ := Option.ne_none_iff_exists'.mp hasNumber
  rw [given, History.number?] at same
  obtain ⟨⟨last, frame⟩, isLast, lastNumber⟩ := Option.bind_eq_some_iff.mp same
  replace lastNumber : last.frame = some number := lastNumber
  refine ⟨last, frame, isLast, ?_⟩
  simp [State.frame?, stateOf, isLast, given, lastNumber]

theorem frame?_of_not_shares {record : Record}
    (differs : ¬ SharesNumber history record) :
    (stateOf settings history).frame? record.frame = none := by
  cases given : record.frame with
  | none => simp [State.frame?]
  | some number =>
      cases isLast : history.getLast? with
      | none => simp [State.frame?, stateOf, isLast]
      | some decoded =>
          have otherNumber : decoded.1.frame ≠ some number := by
            intro same
            exact differs ⟨by simp [given],
              by simp [History.number?, isLast, same, given]⟩
          cases lastNumber : decoded.1.frame with
          | none => simp [State.frame?, stateOf, isLast, lastNumber]
          | some last =>
              have differ : last ≠ number := by
                rintro rfl
                exact otherNumber lastNumber
              simp [State.frame?, stateOf, isLast, lastNumber, differ]

/-- The image of a record that gets the current frame is not looked at. -/
theorem take_of_frame? {state : State} {reading : Reading} {frame : Frame}
    (found : state.frame? reading.record.frame = some frame) :
    take state reading = .detection (reading.detection frame) state := by
  simp only [take, detectionOf, frameFor, found]
  rfl

theorem take_of_own {reading : Reading} {frame : Frame}
    (differs : ¬ SharesNumber history reading.record)
    (own : ownFrame? reading.record = some frame) :
    take (stateOf settings history) reading =
      .detection (reading.detection frame)
        (stateOf settings (history ++ [(reading.record, frame)])) := by
  have notFound := frame?_of_not_shares settings differs
  obtain ⟨image, hasImage, decoded⟩ := ownFrame?_eq_some_iff.mp own
  rw [stateOf_concat]
  simp only [take, detectionOf, frameFor, notFound, hasImage, decoded]
  rfl

theorem exists_take_of_neither {reading : Reading}
    (differs : ¬ SharesNumber history reading.record)
    (noOwn : ownFrame? reading.record = none) :
    ∃ fault, take (stateOf settings history) reading = .skipped fault := by
  have notFound := frame?_of_not_shares settings differs
  cases hasImage : reading.record.image with
  | none =>
      refine ⟨.noPicture, ?_⟩
      simp [take, detectionOf, frameFor, notFound, hasImage]
  | some image =>
      cases decoded : frameOf image with
      | ok frame =>
          have own := ownFrame?_eq_some_iff.mpr ⟨image, hasImage, decoded⟩
          rw [noOwn] at own
          cases own
      | error fault =>
          refine ⟨fault, ?_⟩
          simp [take, detectionOf, frameFor, notFound, hasImage, decoded]

theorem isSome_detection?_take_iff (reading : Reading) :
    (take (stateOf settings history) reading).detection?.isSome ↔
      SharesNumber history reading.record ∨
        (ownFrame? reading.record).isSome := by
  by_cases shares : SharesNumber history reading.record
  · obtain ⟨last, frame, -, found⟩ := exists_frame?_of_shares settings shares
    simp [take_of_frame? found, shares, LineResult.detection?]
  · cases own : ownFrame? reading.record with
    | none =>
        obtain ⟨fault, taken⟩ := exists_take_of_neither settings shares own
        simp [taken, shares, LineResult.detection?]
    | some frame =>
        simp [take_of_own settings shares own, LineResult.detection?]

/-- A reading brings the state of a history to the state of the next. -/
theorem stateFrom_take (reading : Reading) :
    (take (stateOf settings history) reading).stateFrom
        (stateOf settings history) =
      stateOf settings (history.after reading.record) := by
  by_cases shares : SharesNumber history reading.record
  · obtain ⟨last, frame, -, found⟩ := exists_frame?_of_shares settings shares
    rw [take_of_frame? found, History.after, if_pos shares]
    rfl
  · rw [History.after, if_neg shares]
    cases own : ownFrame? reading.record with
    | none =>
        obtain ⟨fault, taken⟩ := exists_take_of_neither settings shares own
        simp [taken, LineResult.stateFrom]
    | some frame =>
        rw [take_of_own settings shares own]
        rfl

theorem stateAfter_start (readings : List Reading) :
    stateAfter (.start settings) readings =
      stateOf settings (historyOf (readings.map Reading.record)) := by
  induction readings using List.reverseRecOn with
  | nil => rfl
  | append_singleton readings reading ih =>
      rw [stateAfter_concat, ih, List.map_append, List.map_singleton,
        historyOf_concat, stateFrom_take]

/-- A record yields a detection exactly if it shares the number of the record
whose frame was decoded last, or brings a frame that can be decoded.  In the
first case it gets the frame of that record, whatever image it brings itself,
and the state stays; else it gets its own frame, which becomes the current one
under the number that the record gives, if any, and is counted.  The detection
says of the frame what the record says.  A record that yields none leaves the
state as it was.  And liveness has counted the frames that were decoded. -/
theorem frames_are_attributed (readings : List Reading) (reading : Reading) :
    let history := historyOf (readings.map Reading.record)
    let state := stateAfter (.start settings) readings
    history.IsOf (readings.map Reading.record) ∧
    state = stateOf settings history ∧
    ((take state reading).detection?.isSome ↔
      SharesNumber history reading.record ∨
        (ownFrame? reading.record).isSome) ∧
    (SharesNumber history reading.record →
      ∃ last frame, history.getLast? = some (last, frame) ∧
        ∀ image, take state (reading.withImage image) =
          .detection (reading.detection frame) state) ∧
    (¬ SharesNumber history reading.record →
      ∀ frame, ownFrame? reading.record = some frame →
        take state reading = .detection (reading.detection frame)
          { current := some (reading.record.frame, frame)
            liveness := state.liveness.countFrame }) ∧
    ((take state reading).detection? = none →
      stateAfter (.start settings) (readings ++ [reading]) = state) := by
  intro history state
  have isState : state = stateOf settings history :=
    stateAfter_start settings readings
  refine ⟨historyOf_isOf _, isState, ?_, ?_, ?_, ?_⟩
  · rw [isState]
    exact isSome_detection?_take_iff settings reading
  · intro shares
    obtain ⟨last, frame, isLast, found⟩ :=
      exists_frame?_of_shares settings shares
    refine ⟨last, frame, isLast, fun image => ?_⟩
    have foundAgain : (stateOf settings history).frame?
        (reading.withImage image).record.frame = some frame :=
      found
    rw [isState, take_of_frame? foundAgain]
    rfl
  · intro differs frame own
    rw [isState, take_of_own settings differs own, stateOf_concat]
  · intro yieldsNone
    rw [stateAfter_concat]
    exact LineResult.stateFrom_of_detection?_eq_none _ yieldsNone

end States

end DrivewayWatch.Intake
