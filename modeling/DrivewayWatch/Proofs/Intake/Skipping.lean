import DrivewayWatch.Intake.Stream
import DrivewayWatch.Proofs.Text.Lines
import Mathlib.Data.List.TakeWhile

/-!
# What is skipped of a stream

A line that is text but yields no detection leaves the frame that was decoded
last as it is, so the lines behind it are read as if it were not there.  A line
that is no text ends the stream, with whatever was to come behind it.
`lines_are_skipped_iff_text` says both.
-/

namespace DrivewayWatch.Intake

/-- Whether a line can be read as text. -/
def Line.isText (line : Line) : Bool :=
  (Text.Utf8.decode line.bytes).isSome

/-- A record with the frame that it uses: what a detection says apart from its
id, and from its time if the record has none. -/
structure Entry where
  record : Record
  frame : Frame

/-- The detection of an entry, with the id of its line. -/
def Entry.detection (entry : Entry) (line : Line) : Detection Float Instant :=
  { id := line.id
    time := entry.record.time.getD line.time
    modelId := entry.record.modelId
    classification := entry.record.classification
    isConfirmed := entry.record.isConfirmed
    box := entry.record.box
    frame := entry.frame }

/-- The entry that bytes hold, and the state once it was read. -/
def held? (state : State) (bytes : Bytes) : Option (Entry × State) :=
  match (Text.Utf8.decode bytes).bind fun text =>
      Record.read? (Text.trim text) with
  | none => none
  | some record =>
    match frameFor state record with
    | .error _ => none
    | .ok (frame, next) => some (⟨record, frame⟩, next)

/-- The lines that hold an entry, each with its entry. -/
def entries (state : State) : List Line → List (Line × Entry)
  | [] => []
  | line :: lines =>
    match held? state line.bytes with
    | none => entries state lines
    | some (entry, next) => (line, entry) :: entries next lines

theorem entries_cons_of_none {state : State} {line : Line}
    (nothing : held? state line.bytes = none) (lines : List Line) :
    entries state (line :: lines) = entries state lines := by
  simp [entries, nothing]

theorem entries_cons_of_some {state next : State} {line : Line} {entry : Entry}
    (found : held? state line.bytes = some (entry, next))
    (lines : List Line) :
    entries state (line :: lines) = (line, entry) :: entries next lines := by
  simp [entries, found]

def detections (entries : List (Line × Entry)) :
    List (Detection Float Instant) :=
  entries.map fun (line, entry) => entry.detection line

/-- A text with the lines only that hold an entry. -/
def cleaned (state : State) (lines : List Line) : Bytes :=
  Text.Lines.join ((entries state lines).map (·.1.bytes))

theorem isText_of_held?_eq_some {state next : State} {line : Line}
    {entry : Entry} (found : held? state line.bytes = some (entry, next)) :
    line.isText = true := by
  unfold held? at found
  unfold Line.isText
  cases decoded : Text.Utf8.decode line.bytes with
  | none => simp [decoded] at found
  | some text => rfl

theorem isText_of_mem_entries {state : State} {lines : List Line} :
    ∀ found ∈ entries state lines,
      found.1 ∈ lines ∧ found.1.isText = true := by
  induction lines generalizing state with
  | nil => simp [entries]
  | cons line lines ih =>
      intro found member
      cases holds : held? state line.bytes with
      | none =>
          rw [entries_cons_of_none holds] at member
          obtain ⟨inLines, isText⟩ := ih found member
          exact ⟨List.mem_cons_of_mem _ inLines, isText⟩
      | some held =>
          rw [entries_cons_of_some holds, List.mem_cons] at member
          rcases member with rfl | member
          · exact ⟨List.mem_cons_self, isText_of_held?_eq_some holds⟩
          · obtain ⟨inLines, isText⟩ := ih found member
            exact ⟨List.mem_cons_of_mem _ inLines, isText⟩

/-!
## States that differ in their liveness
-/

section Congruence

variable {state other : State}

theorem frameFor_congr (same : state.current = other.current)
    (record : Record) :
    (∃ fault, frameFor state record = .error fault ∧
      frameFor other record = .error fault) ∨
    ∃ frame next otherNext, frameFor state record = .ok (frame, next) ∧
      frameFor other record = .ok (frame, otherNext) ∧
      next.current = otherNext.current := by
  have sameFrame : state.frame? record.frame = other.frame? record.frame := by
    simp only [State.frame?, same]
  unfold frameFor
  rw [sameFrame]
  cases other.frame? record.frame with
  | some frame => exact .inr ⟨frame, state, other, rfl, rfl, same⟩
  | none =>
      cases record.image with
      | none => exact .inl ⟨.noPicture, rfl, rfl⟩
      | some image =>
          cases decoded : frameOf image with
          | error fault => exact .inl ⟨fault, by simp [decoded]⟩
          | ok frame =>
              refine .inr ⟨frame,
                ⟨some (record.frame, frame), state.liveness.countFrame⟩,
                ⟨some (record.frame, frame), other.liveness.countFrame⟩,
                ?_, ?_, rfl⟩
              · simp [decoded]
              · simp [decoded]

theorem held?_congr (same : state.current = other.current) (bytes : Bytes) :
    (held? state bytes = none ∧ held? other bytes = none) ∨
    ∃ entry next otherNext, held? state bytes = some (entry, next) ∧
      held? other bytes = some (entry, otherNext) ∧
      next.current = otherNext.current := by
  unfold held?
  cases (Text.Utf8.decode bytes).bind fun text =>
      Record.read? (Text.trim text) with
  | none => exact .inl ⟨rfl, rfl⟩
  | some record =>
      rcases frameFor_congr same record with
        ⟨fault, fails, otherFails⟩ |
        ⟨frame, next, otherNext, brings, otherBrings, sameNext⟩
      · simp [fails, otherFails]
      · refine .inr ⟨⟨record, frame⟩, next, otherNext, ?_, ?_, sameNext⟩
        · simp [brings]
        · simp [otherBrings]

theorem entries_congr (same : state.current = other.current)
    (lines : List Line) : entries state lines = entries other lines := by
  induction lines generalizing state other with
  | nil => rfl
  | cons line lines ih =>
      rcases held?_congr same line.bytes with
        ⟨nothing, otherNothing⟩ |
        ⟨entry, next, otherNext, found, otherFound, sameNext⟩
      · rw [entries_cons_of_none nothing, entries_cons_of_none otherNothing]
        exact ih same
      · rw [entries_cons_of_some found, entries_cons_of_some otherFound,
          ih sameNext]

end Congruence

/-!
## Steps and runs
-/

section Run

variable {K : Type} (settings : Settings K)

theorem current_tick (state : State) (now : Instant) :
    (tick settings state now).1.current = state.current := by
  unfold tick
  split <;> rfl

theorem read?_blank : Record.read? [] = none :=
  rfl

/-- What a step brings of the entry of its line, and what it leaves as it was
if there is none. -/
theorem step_cases (state : State) (line : Line) :
    (line.isText = false ∧ step settings state line = none) ∨
    ∃ taken, line.isText = true ∧ step settings state line = some taken ∧
      ((held? state line.bytes = none ∧ taken.detection = none ∧
        taken.state.current = state.current) ∨
      ∃ entry next, held? state line.bytes = some (entry, next) ∧
        taken.detection = some (entry.detection line) ∧
        taken.state.current = next.current) := by
  unfold step Line.isText held?
  cases Text.Utf8.decode line.bytes with
  | none => exact .inl ⟨rfl, rfl⟩
  | some text =>
      refine .inr ⟨_, rfl, rfl, ?_⟩
      simp only [current_tick, Option.bind_some]
      unfold resultOf detectionOf
      by_cases blank : (Text.trim text).isEmpty
      · rw [List.isEmpty_iff] at blank
        simp [blank, read?_blank, LineResult.detection?, LineResult.stateFrom]
      · simp only [blank]
        cases Record.read? (Text.trim text) with
        | none => exact .inl ⟨rfl, rfl, rfl⟩
        | some record =>
            cases used : frameFor state record with
            | error fault =>
                simp [used, LineResult.detection?, LineResult.stateFrom]
            | ok found =>
                simp [used, LineResult.detection?, LineResult.stateFrom,
                  Entry.detection]

/-- A run takes the entries of the lines before the first one that is no text,
and is complete if there is no such line. -/
theorem run_takes_entries (state : State) (lines : List Line) :
    (run settings none state lines).detections =
        detections (entries state (lines.takeWhile Line.isText)) ∧
      (run settings none state lines).ending =
        if lines.all Line.isText then .complete else .noText := by
  induction lines generalizing state with
  | nil => exact ⟨rfl, rfl⟩
  | cons line lines ih =>
      rcases step_cases settings state line with
        ⟨noText, ends⟩ | ⟨taken, isText, goesOn, brings⟩
      · simp [run, ends, noText, Outcome.ended, entries, detections]
      · obtain ⟨sameDetections, sameEnding⟩ := ih taken.state
        have heard : stillHeard taken none = none := by
          unfold stillHeard
          split <;> rfl
        have unfolded : run settings none state (line :: lines) =
            (run settings none taken.state lines).after taken := by
          simp [run, goesOn, heard]
        rw [unfolded, List.takeWhile_cons_of_pos isText, List.all_cons, isText,
          Bool.true_and]
        refine ⟨?_, sameEnding⟩
        -- The step also looked at the clock, so the run goes on from another
        -- state than the entries do; the frame is the same in both.
        rcases brings with ⟨nothing, noDetection, sameFrame⟩ |
          ⟨entry, next, found, detection, sameFrame⟩
        · rw [entries_congr sameFrame] at sameDetections
          rw [entries_cons_of_none nothing]
          simp [Outcome.after, noDetection, sameDetections]
        · rw [entries_congr sameFrame] at sameDetections
          rw [entries_cons_of_some found]
          simp [Outcome.after, detection, sameDetections, detections]

theorem ending_eq_complete_iff (state : State) (lines : List Line) :
    (run settings none state lines).ending = .complete ↔
      ∀ line ∈ lines, line.isText = true := by
  rw [(run_takes_entries settings state lines).2, ← List.all_eq_true]
  by_cases allText : lines.all Line.isText = true
  · simp [allText]
  · simp [allText]

end Run

section Kept

variable {state : State} {lines others : List Line}

/-- Lines with the bytes of those that hold an entry hold the same entries. -/
theorem entries_of_kept
    (kept : others.map (·.bytes) = (entries state lines).map (·.1.bytes)) :
    entries state others =
      others.zip ((entries state lines).map (·.2)) := by
  induction lines generalizing state others with
  | nil =>
      have noOthers : others = [] := by simpa [entries] using kept
      simp [noOthers, entries]
  | cons line lines ih =>
      cases holds : held? state line.bytes with
      | none =>
          rw [entries_cons_of_none holds] at kept ⊢
          exact ih kept
      | some held =>
          obtain ⟨entry, next⟩ := held
          rw [entries_cons_of_some holds, List.map_cons] at kept ⊢
          cases others with
          | nil => cases kept
          | cons other others =>
              obtain ⟨sameBytes, keptOthers⟩ := List.cons.inj kept
              rw [← sameBytes] at holds
              rw [entries_cons_of_some holds, ih keptOthers,
                List.zip_cons_cons]

theorem isText_of_kept
    (kept : others.map (·.bytes) = (entries state lines).map (·.1.bytes)) :
    ∀ other ∈ others, other.isText = true := by
  intro other member
  have isKept : other.bytes ∈ (entries state lines).map (·.1.bytes) := by
    rw [← kept]
    exact List.mem_map_of_mem member
  obtain ⟨found, isFound, sameBytes⟩ := List.mem_map.mp isKept
  have isText := (isText_of_mem_entries found isFound).2
  rwa [Line.isText, sameBytes] at isText

theorem cut_cleaned {stream : Bytes}
    (cut : lines.map (·.bytes) = Text.Lines.ofBytes stream) :
    Text.Lines.ofBytes (cleaned state lines) =
      (entries state lines).map (·.1.bytes) := by
  refine Text.Lines.ofBytes_join ?_
  intro bytes member
  obtain ⟨found, isFound, rfl⟩ := List.mem_map.mp member
  have inLines := (isText_of_mem_entries found isFound).1
  have inStream : found.1.bytes ∈ Text.Lines.ofBytes stream := by
    rw [← cut]
    exact List.mem_map_of_mem inLines
  exact Text.Lines.not_mem_of_mem_ofBytes stream _ inStream

end Kept

/-- What is skipped of a stream.  Let a text be cut into lines, and also the
text that is left of those lines that hold an entry.  Both are read from the
start, at any times and with any ids, while detections are taken.  The second
run is complete and takes all entries.  The first run is complete exactly if
each line is text, and then it takes the same entries.  Else it ends at the
first line that is no text, with the entries before that line alone. -/
theorem lines_are_skipped_iff_text {K : Type} [Scalar K]
    (settings : Settings K) {stream : Bytes} {lines others : List Line}
    (cut : lines.map (·.bytes) = Text.Lines.ofBytes stream)
    (otherCut : others.map (·.bytes) =
      Text.Lines.ofBytes (cleaned (.start settings) lines)) :
    let whole := run settings none (.start settings) lines
    let clean := run settings none (.start settings) others
    let found := entries (.start settings) lines
    (clean.ending = .complete ∧ others.length = found.length ∧
      clean.detections = detections (others.zip (found.map (·.2)))) ∧
    (whole.ending = .complete ↔ ∀ line ∈ lines, line.isText = true) ∧
    ((∀ line ∈ lines, line.isText = true) →
      whole.detections = detections found ∧
        whole.detections.length = clean.detections.length) ∧
    ∀ first bad rest, lines = first ++ bad :: rest →
      (∀ line ∈ first, line.isText = true) → bad.isText = false →
      whole.ending = .noText ∧
        whole.detections = detections (entries (.start settings) first) := by
  intro whole clean found
  have kept : others.map (·.bytes) = found.map (·.1.bytes) := by
    rw [otherCut, cut_cleaned cut]
  have sameLength : others.length = found.length := by
    simpa using congrArg List.length kept
  obtain ⟨wholeDetections, wholeEnding⟩ :=
    run_takes_entries settings (.start settings) lines
  obtain ⟨cleanDetections, -⟩ :=
    run_takes_entries settings (.start settings) others
  have othersAreText := isText_of_kept kept
  have cleanTaken :
      clean.detections = detections (others.zip (found.map (·.2))) := by
    rw [List.takeWhile_eq_self_iff.mpr othersAreText, entries_of_kept kept]
      at cleanDetections
    exact cleanDetections
  refine ⟨⟨?_, sameLength, cleanTaken⟩, ?_, ?_, ?_⟩
  · exact (ending_eq_complete_iff settings _ others).mpr othersAreText
  · exact ending_eq_complete_iff settings _ lines
  · intro isText
    have taken : whole.detections = detections found := by
      rw [List.takeWhile_eq_self_iff.mpr isText] at wholeDetections
      exact wholeDetections
    refine ⟨taken, ?_⟩
    simp [taken, cleanTaken, detections, sameLength]
  · rintro first bad rest rfl isText isBad
    constructor
    · simpa [isBad] using wholeEnding
    · rw [List.takeWhile_append_of_pos isText,
        List.takeWhile_cons_of_neg (by simp [isBad]), List.append_nil]
        at wholeDetections
      exact wholeDetections

/-- A record of a car, with its picture. -/
def carRecord : Bytes :=
  List.flatMap Text.Utf8.bytesOf [
    "\x7b\"model_id\": 1, \"classification\": \"car\", ",
    "\"box\": \x7b\"a\": \x7b\"x\": 0, \"y\": 0\x7d, ",
    "\"b\": \x7b\"x\": 1, \"y\": 1\x7d\x7d, ",
    "\"image\": \"iVBORw0KGgoAAAANSUhEUgAAAAEAAAABCAAAAAA6",
    "fptVAAAADUlEQVR4AQECAP3/AAcACQAIuayGhwAAAABJRU5ErkJggg==\"\x7d"]

def lineAt (second : Nat) (bytes : Bytes) : Line :=
  ⟨bytes, ⟨second, 0⟩, second.repr⟩

@[simp]
theorem bytes_lineAt (second : Nat) (bytes : Bytes) :
    (lineAt second bytes).bytes = bytes :=
  rfl

/-- The record of a car behind another line. -/
def carBehind (bytes : Bytes) : List Line :=
  [lineAt 0 bytes, lineAt 1 carRecord]

theorem carRecord_holds_entry :
    Text.Lines.ofBytes carRecord = [carRecord] ∧
      (held? (.start Settings.standard) carRecord).isSome = true := by
  decide +kernel

theorem isText_carRecord (second : Nat) :
    (lineAt second carRecord).isText = true := by
  obtain ⟨⟨entry, next⟩, found⟩ :=
    Option.isSome_iff_exists.mp carRecord_holds_entry.2
  rw [← bytes_lineAt second carRecord] at found
  exact isText_of_held?_eq_some found

theorem entries_carRecord :
    ∃ entry, ∀ second,
      entries (.start Settings.standard) [lineAt second carRecord] =
        [(lineAt second carRecord, entry)] := by
  obtain ⟨⟨entry, next⟩, found⟩ :=
    Option.isSome_iff_exists.mp carRecord_holds_entry.2
  refine ⟨entry, fun second => ?_⟩
  rw [← bytes_lineAt second carRecord] at found
  exact entries_cons_of_some found []

section Behind

variable {bytes : Bytes}

theorem cut_carBehind (inside : Text.Lines.lineFeed ∉ bytes) :
    (carBehind bytes).map (·.bytes) =
      Text.Lines.ofBytes (bytes ++ Text.Lines.lineFeed :: carRecord) := by
  rw [Text.Lines.ofBytes_append_lineFeed inside, carRecord_holds_entry.1]
  simp [carBehind]

variable (nothing : held? (.start Settings.standard) bytes = none)

include nothing

theorem entries_carBehind :
    entries (.start Settings.standard) (carBehind bytes) =
      entries (.start Settings.standard) [lineAt 1 carRecord] := by
  rw [← bytes_lineAt 0 bytes] at nothing
  exact entries_cons_of_none nothing _

theorem cut_cleaned_carBehind (inside : Text.Lines.lineFeed ∉ bytes) :
    [lineAt 5 carRecord].map (·.bytes) = Text.Lines.ofBytes
      (cleaned (.start Settings.standard) (carBehind bytes)) := by
  obtain ⟨entry, found⟩ := entries_carRecord
  rw [cut_cleaned (cut_carBehind inside), entries_carBehind nothing, found]
  simp

end Behind

/-- A line of one letter is skipped, and the record behind it is taken. -/
theorem record_is_taken_behind_letter :
    (carBehind [98]).map (·.bytes) =
        Text.Lines.ofBytes ([98] ++ Text.Lines.lineFeed :: carRecord) ∧
      [lineAt 5 carRecord].map (·.bytes) = Text.Lines.ofBytes
        (cleaned (.start Settings.standard) (carBehind [98])) ∧
      (∀ line ∈ carBehind [98], line.isText = true) ∧
      (run Settings.standard none (.start Settings.standard)
        (carBehind [98])).ending = .complete ∧
      (run Settings.standard none (.start Settings.standard)
        (carBehind [98])).detections.length = 1 := by
  have inside : Text.Lines.lineFeed ∉ ([98] : Bytes) := by decide
  have nothing : held? (.start Settings.standard) [98] = none := by
    decide +kernel
  have isText : ∀ line ∈ carBehind [98], line.isText = true := by
    rw [carBehind, List.forall_mem_cons, List.forall_mem_singleton]
    exact ⟨rfl, isText_carRecord 1⟩
  have cut := cut_carBehind inside
  have otherCut := cut_cleaned_carBehind nothing inside
  obtain ⟨-, complete, taken, -⟩ :=
    lines_are_skipped_iff_text Settings.standard cut otherCut
  obtain ⟨entry, found⟩ := entries_carRecord
  refine ⟨cut, otherCut, isText, complete.mpr isText, ?_⟩
  rw [(taken isText).1, entries_carBehind nothing, found]
  simp [detections]

/-- A line of one byte that is no text ends the stream, and the record behind it
is lost; without that line it is taken. -/
theorem record_is_lost_behind_byte :
    (carBehind [255]).map (·.bytes) =
        Text.Lines.ofBytes ([255] ++ Text.Lines.lineFeed :: carRecord) ∧
      [lineAt 5 carRecord].map (·.bytes) = Text.Lines.ofBytes
        (cleaned (.start Settings.standard) (carBehind [255])) ∧
      (run Settings.standard none (.start Settings.standard)
        (carBehind [255])).ending = .noText ∧
      (run Settings.standard none (.start Settings.standard)
        (carBehind [255])).detections.length = 0 ∧
      (run Settings.standard none (.start Settings.standard)
        [lineAt 5 carRecord]).ending = .complete ∧
      (run Settings.standard none (.start Settings.standard)
        [lineAt 5 carRecord]).detections.length = 1 := by
  have inside : Text.Lines.lineFeed ∉ ([255] : Bytes) := by decide
  have nothing : held? (.start Settings.standard) [255] = none := rfl
  obtain ⟨entry, found⟩ := entries_carRecord
  obtain ⟨taken, complete⟩ := run_takes_entries Settings.standard
    (.start Settings.standard) [lineAt 5 carRecord]
  refine ⟨cut_carBehind inside, cut_cleaned_carBehind nothing inside, rfl, rfl,
    ?_, ?_⟩
  · simpa [isText_carRecord] using complete
  · rw [taken, List.takeWhile_cons_of_pos (isText_carRecord 5),
      List.takeWhile_nil, found]
    simp [detections]

end DrivewayWatch.Intake
