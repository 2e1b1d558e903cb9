import DrivewayWatch.Proofs.Control.Command
import Mathlib.Data.List.Forall2
import Mathlib.Data.List.Induction

/-!
# Sequences of mute commands

A body is judged in a fixed order: whether it can be read, whether it names a
photo, and whether it names a deadline.  Only one that passes all three changes
the server, and then the deadline and the acknowledgement change together.  So
what a sequence of bodies leaves is what its accepted commands ask for.
-/

namespace DrivewayWatch

namespace Control

namespace MuteCommand

/-- The value that a body is read as. -/
def valueOf? (body : Bytes) : Option Json.Value :=
  (Text.Utf8.decode body).bind Json.Value.read?

/-- A value names a photo if its key is that of a record. -/
def NamesPhoto {T : Type} (photos : PhotoStore T) (value : Json.Value) : Prop :=
  ∃ key, value.field? "key" = some (.string key) ∧ key ≠ "" ∧
    photos.contains key = true

/-- A value names seconds if they are given in a form that can be read. -/
def NamesSeconds (value : Json.Value) (seconds : Int) : Prop :=
  ∃ content, value.field? "s" = some content ∧ seconds? content = some seconds

/-- A deadline is named by less than one second, which means the present, or by
seconds that lead to an instant that is kept. -/
def NamesDeadline (now : Instant) (value : Json.Value) : Prop :=
  ∃ seconds, NamesSeconds value seconds ∧
    (seconds < 1 ∨ (now.later (.seconds seconds)).isKept = true)

/-- A body is bad if it cannot be read, or names a photo without a deadline. -/
def IsBad {T : Type} (photos : PhotoStore T) (now : Instant) (body : Bytes) :
    Prop :=
  valueOf? body = none ∨
    ∃ value, valueOf? body = some value ∧ NamesPhoto photos value ∧
      ¬ NamesDeadline now value

/-- A body is forbidden if it can be read and names no photo. -/
def IsForbidden {T : Type} (photos : PhotoStore T) (body : Bytes) : Prop :=
  ∃ value, valueOf? body = some value ∧ ¬ NamesPhoto photos value

/-- A body is sound if it can be read and names a photo and a deadline. -/
def IsSound {T : Type} (photos : PhotoStore T) (now : Instant) (body : Bytes) :
    Prop :=
  ∃ value, valueOf? body = some value ∧ NamesPhoto photos value ∧
    NamesDeadline now value

theorem isBad_or_isForbidden_or_isSound {T : Type} (photos : PhotoStore T)
    (now : Instant) (body : Bytes) :
    IsBad photos now body ∨ IsForbidden photos body ∨
      IsSound photos now body := by
  cases readable : valueOf? body with
  | none => exact .inl (.inl readable)
  | some value =>
      by_cases namesPhoto : NamesPhoto photos value
      · by_cases namesDeadline : NamesDeadline now value
        · exact .inr (.inr ⟨value, readable, namesPhoto, namesDeadline⟩)
        · exact .inl (.inr ⟨value, readable, namesPhoto, namesDeadline⟩)
      · exact .inr (.inl ⟨value, readable, namesPhoto⟩)

/-- The deadline that a command sets if it is given at a time. -/
def deadlineAt (command : MuteCommand) (now : Instant) : Instant :=
  if command.seconds < 1 then now else now.later (.seconds command.seconds)

section Fields

variable {value : Json.Value}

theorem keyOf_eq_ok {key : String}
    (hasKey : value.field? "key" = some (.string key)) (nonempty : key ≠ "") :
    keyOf value = .ok key := by
  simp [keyOf, hasKey, Json.Value.text?, nonempty]

theorem keyOf_eq_missingKey
    (noKey : ∀ key, value.field? "key" = some (.string key) → key = "") :
    keyOf value = .error .missingKey := by
  unfold keyOf
  cases found : value.field? "key" with
  | none => rfl
  | some content =>
      cases content with
      | string key =>
          obtain rfl := noKey key found
          rfl
      | _ => rfl

theorem secondsOf_eq_ok {seconds : Int} (names : NamesSeconds value seconds) :
    secondsOf value = .ok seconds := by
  obtain ⟨content, found, read⟩ := names
  cases content with
  | null => cases read
  | _ => simp [secondsOf, found, read]

theorem secondsOf_eq_error (noSeconds : ∀ seconds, ¬ NamesSeconds value seconds) :
    ∃ refusal : Refusal, refusal.kind = .badRequest ∧
      secondsOf value = .error refusal := by
  unfold secondsOf
  cases found : value.field? "s" with
  | none => exact ⟨.missingSeconds, rfl, rfl⟩
  | some content =>
      have illegible : seconds? content = none :=
        Option.eq_none_iff_forall_ne_some.mpr fun seconds read =>
          noSeconds seconds ⟨content, found, read⟩
      cases content with
      | null => exact ⟨.missingSeconds, rfl, rfl⟩
      | _ => exact ⟨.invalidSeconds, rfl, by simp [illegible]⟩

end Fields

section Judging

variable {photos : PhotoStore Instant} {now : Instant} {body : Bytes}
  {value : Json.Value}

/-- The deadline of a command can be named exactly if it is the present or an
instant that is kept. -/
theorem deadline?_eq (command : MuteCommand) (now : Instant) :
    command.deadline? now =
      if command.seconds < 1 ∨
          (now.later (.seconds command.seconds)).isKept = true then
        some (command.deadlineAt now)
      else none := by
  by_cases unmutes : command.seconds < 1
  · simp [deadline?, deadlineAt, unmutes]
  · simp only [deadline?, deadlineAt, unmutes, if_false, false_or,
      Timeline.inSeconds?, Instant.inSeconds?]

theorem accept_of_spells {command : MuteCommand} (spelled : Spells body command)
    (known : photos.contains command.key = true)
    (named : command.seconds < 1 ∨
      (now.later (.seconds command.seconds)).isKept = true) :
    accept photos now body = .ok (command, command.deadlineAt now) := by
  refine accept_eq_ok_iff.mpr ⟨spelled, known, ?_⟩
  rw [deadline?_eq, if_pos named]

theorem accept_of_unreadable (unreadable : valueOf? body = none) :
    accept photos now body = .error .invalidBody := by
  rw [valueOf?] at unreadable
  rw [accept, read, unreadable]
  rfl

theorem accept_of_not_namesPhoto (now : Instant)
    (readable : valueOf? body = some value)
    (namesNone : ¬ NamesPhoto photos value) :
    ∃ refusal : Refusal, refusal.kind = .forbidden ∧
      accept photos now body = .error refusal := by
  rw [valueOf?] at readable
  by_cases hasKey : ∃ key, value.field? "key" = some (.string key) ∧ key ≠ ""
  · obtain ⟨key, found, nonempty⟩ := hasKey
    have unknown : ¬ photos.contains key = true := fun known =>
      namesNone ⟨key, found, nonempty, known⟩
    refine ⟨.unknownKey, rfl, ?_⟩
    simp [accept, read, readable, keyOf_eq_ok found nonempty, unknown, bind,
      Except.bind]
  · have noKey : ∀ key, value.field? "key" = some (.string key) → key = "" :=
      fun key found => Classical.not_not.mp fun nonempty =>
        hasKey ⟨key, found, nonempty⟩
    refine ⟨.missingKey, rfl, ?_⟩
    simp [accept, read, readable, keyOf_eq_missingKey noKey, bind, Except.bind]

theorem accept_of_not_namesDeadline (readable : valueOf? body = some value)
    (namesPhoto : NamesPhoto photos value)
    (namesNone : ¬ NamesDeadline now value) :
    ∃ refusal : Refusal, refusal.kind = .badRequest ∧
      accept photos now body = .error refusal := by
  obtain ⟨key, hasKey, nonempty, known⟩ := namesPhoto
  have keyFound := keyOf_eq_ok hasKey nonempty
  rw [valueOf?] at readable
  by_cases hasSeconds : ∃ seconds, NamesSeconds value seconds
  · obtain ⟨seconds, names⟩ := hasSeconds
    have endless : deadline? ⟨key, seconds⟩ now = none := by
      rw [deadline?_eq, if_neg]
      exact fun named => namesNone ⟨seconds, names, named⟩
    have isRead : read photos body = .ok ⟨key, seconds⟩ :=
      read_eq_ok_iff.mpr
        ⟨⟨value, readable, keyFound, secondsOf_eq_ok names⟩, known⟩
    refine ⟨.invalidSeconds, rfl, ?_⟩
    rw [accept, isRead]
    simp only [bind, Except.bind, endless]
  · obtain ⟨refusal, isBad, missed⟩ :=
      secondsOf_eq_error (not_exists.mp hasSeconds)
    refine ⟨refusal, isBad, ?_⟩
    simp [accept, read, readable, keyFound, known, missed, bind, Except.bind]

theorem exists_spells_of_names (readable : valueOf? body = some value)
    (namesPhoto : NamesPhoto photos value)
    (namesDeadline : NamesDeadline now value) :
    ∃ command, Spells body command ∧ photos.contains command.key = true ∧
      (command.seconds < 1 ∨
        (now.later (.seconds command.seconds)).isKept = true) := by
  obtain ⟨key, hasKey, nonempty, known⟩ := namesPhoto
  obtain ⟨seconds, names, named⟩ := namesDeadline
  refine ⟨⟨key, seconds⟩, ⟨value, readable, ?_, ?_⟩, known, named⟩
  · exact keyOf_eq_ok hasKey nonempty
  · exact secondsOf_eq_ok names

end Judging

end MuteCommand

open MuteCommand

section Obeying

variable {state : State Instant} {now : Instant} {body : Bytes}
  {value : Json.Value}

theorem obey_of_error {refusal : Refusal}
    (refused : accept state.photos now body = .error refusal) :
    obey state now body = (state, .refused refusal) := by
  rw [obey, refused]

theorem obey_of_spells {command : MuteCommand} (spelled : Spells body command)
    (known : state.photos.contains command.key = true)
    (named : command.seconds < 1 ∨
      (now.later (.seconds command.seconds)).isKept = true) :
    obey state now body =
      (push { state with mute := ⟨some (command.deadlineAt now)⟩ }
        command.feedback, .ok) := by
  rw [obey, accept_of_spells spelled known named]
  rfl

theorem obey_of_isBad (isBad : IsBad state.photos now body) :
    (obey state now body).2.status = 400 ∧ (obey state now body).1 = state := by
  rcases isBad with unreadable | ⟨value, readable, namesPhoto, namesNone⟩
  · rw [obey_of_error (accept_of_unreadable unreadable)]
    exact ⟨rfl, rfl⟩
  · obtain ⟨refusal, isBad, refused⟩ :=
      accept_of_not_namesDeadline readable namesPhoto namesNone
    rw [obey_of_error refused, Response.refused, isBad]
    exact ⟨rfl, rfl⟩

theorem obey_of_isForbidden (isForbidden : IsForbidden state.photos body) :
    (obey state now body).2.status = 403 ∧ (obey state now body).1 = state := by
  obtain ⟨value, readable, namesNone⟩ := isForbidden
  obtain ⟨refusal, isForbidden, refused⟩ :=
    accept_of_not_namesPhoto now readable namesNone
  rw [obey_of_error refused, Response.refused, isForbidden]
  exact ⟨rfl, rfl⟩

theorem obey_of_isSound (isSound : IsSound state.photos now body) :
    (obey state now body).2.status = 200 ∧ ∃ command, Spells body command ∧
      (obey state now body).1 =
        push { state with mute := ⟨some (command.deadlineAt now)⟩ }
          command.feedback := by
  obtain ⟨value, readable, namesPhoto, namesDeadline⟩ := isSound
  obtain ⟨command, spelled, known, named⟩ :=
    exists_spells_of_names readable namesPhoto namesDeadline
  rw [obey_of_spells spelled known named]
  exact ⟨rfl, command, spelled, rfl⟩

theorem isBad_of_status (status : (obey state now body).2.status = 400) :
    IsBad state.photos now body := by
  rcases isBad_or_isForbidden_or_isSound state.photos now body with
    isBad | isForbidden | isSound
  · exact isBad
  · rw [(obey_of_isForbidden isForbidden).1] at status
    cases status
  · rw [(obey_of_isSound isSound).1] at status
    cases status

theorem isForbidden_of_status (status : (obey state now body).2.status = 403) :
    IsForbidden state.photos body := by
  rcases isBad_or_isForbidden_or_isSound state.photos now body with
    isBad | isForbidden | isSound
  · rw [(obey_of_isBad isBad).1] at status
    cases status
  · exact isForbidden
  · rw [(obey_of_isSound isSound).1] at status
    cases status

theorem isSound_of_status (status : (obey state now body).2.status = 200) :
    IsSound state.photos now body := by
  rcases isBad_or_isForbidden_or_isSound state.photos now body with
    isBad | isForbidden | isSound
  · rw [(obey_of_isBad isBad).1] at status
    cases status
  · rw [(obey_of_isForbidden isForbidden).1] at status
    cases status
  · exact isSound

theorem obey_of_status_ne_ok (notOk : (obey state now body).2.status ≠ 200) :
    (obey state now body).1 = state := by
  rcases isBad_or_isForbidden_or_isSound state.photos now body with
    isBad | isForbidden | isSound
  · exact (obey_of_isBad isBad).2
  · exact (obey_of_isForbidden isForbidden).2
  · exact absurd (obey_of_isSound isSound).1 notOk

/-- What setting a deadline and queueing an acknowledgement makes of a server
whose acknowledgements are taken. -/
theorem push_of_isHeard (isHeard : state.isHeard = true)
    (mute : MuteWindow Instant) (feedback : Feedback) :
    push { state with mute := mute } feedback =
      { state with mute := mute, queue := state.queue ++ [feedback] } := by
  rw [push, if_pos isHeard]

@[simp]
theorem isHeard_obey (state : State Instant) (now : Instant) (body : Bytes) :
    (obey state now body).1.isHeard = state.isHeard := by
  rcases obey_cases state now body with
    ⟨command, deadline, -, obeyed⟩ | ⟨refusal, -, obeyed⟩
  · rw [obeyed, push]
    split <;> rfl
  · rw [obeyed]

/-- What a command does to a server whose acknowledgements are taken, written
out for the two kinds of commands. -/
theorem pushed_eq (isHeard : state.isHeard = true) (command : MuteCommand) :
    (command.seconds < 1 →
      push { state with mute := ⟨some (command.deadlineAt now)⟩ }
          command.feedback =
        { state with
          mute := ⟨some now⟩
          queue := state.queue ++ [.unmuted command.key] }) ∧
    (1 ≤ command.seconds →
      push { state with mute := ⟨some (command.deadlineAt now)⟩ }
          command.feedback =
        { state with
          mute := ⟨some (now.later (.seconds command.seconds))⟩
          queue := state.queue ++
            [.muted command.key (some command.seconds)] }) := by
  rw [push_of_isHeard isHeard]
  constructor
  · intro unmutes
    rw [deadlineAt, if_pos unmutes, feedback, if_pos unmutes]
  · intro mutes
    rw [deadlineAt, if_neg (Int.not_lt.mpr mutes), feedback,
      if_neg (Int.not_lt.mpr mutes)]

end Obeying

/-- Bodies given one after another, each at its time: the server that they
leave, and the answers. -/
def obeyAll (state : State Instant) :
    List (Instant × Bytes) → State Instant × List Response
  | [] => (state, [])
  | (now, body) :: posts =>
      let (next, response) := obey state now body
      let (last, responses) := obeyAll next posts
      (last, response :: responses)

/-- The bodies that are answered with the status for what went well. -/
def acceptedOf (state : State Instant) (posts : List (Instant × Bytes)) :
    List (Instant × Bytes) :=
  ((posts.zip (obeyAll state posts).2).filter fun answered =>
    answered.2.status = 200).map Prod.fst

section Sequences

variable {state : State Instant} {now : Instant} {body : Bytes}

theorem obeyAll_cons (posts : List (Instant × Bytes)) :
    obeyAll state ((now, body) :: posts) =
      ((obeyAll (obey state now body).1 posts).1,
        (obey state now body).2 ::
          (obeyAll (obey state now body).1 posts).2) :=
  rfl

theorem acceptedOf_cons_of_ok (isOk : (obey state now body).2.status = 200)
    (posts : List (Instant × Bytes)) :
    acceptedOf state ((now, body) :: posts) =
      (now, body) :: acceptedOf (obey state now body).1 posts := by
  simp [acceptedOf, obeyAll_cons, isOk]

theorem acceptedOf_cons_of_not_ok
    (notOk : (obey state now body).2.status ≠ 200)
    (posts : List (Instant × Bytes)) :
    acceptedOf state ((now, body) :: posts) =
      acceptedOf (obey state now body).1 posts := by
  simp [acceptedOf, obeyAll_cons, notOk]

/-- An order is a command that was given at a time. -/
def IsOrderOf (post : Instant × Bytes) (order : Instant × MuteCommand) : Prop :=
  order.1 = post.1 ∧ Spells post.2 order.2

/-- The server that orders leave: with the deadline of the last of them, and
with the acknowledgements of all of them in order. -/
def afterOrders (state : State Instant) (orders : List (Instant × MuteCommand)) :
    State Instant :=
  { state with
    mute := ⟨(orders.getLast?.map fun order =>
      order.2.deadlineAt order.1).or state.mute.deadline⟩
    queue := state.queue ++ orders.map fun order => order.2.feedback }

theorem afterOrders_nil (state : State Instant) :
    afterOrders state [] = state := by
  simp [afterOrders]

theorem afterOrders_cons (isHeard : state.isHeard = true) (now : Instant)
    (command : MuteCommand) (orders : List (Instant × MuteCommand)) :
    afterOrders state ((now, command) :: orders) =
      afterOrders (push { state with
        mute := ⟨some (command.deadlineAt now)⟩ } command.feedback) orders := by
  rw [push_of_isHeard isHeard]
  -- The deadline of the first order stands only if no other follows.
  cases last : orders.getLast? with
  | none => simp [afterOrders, List.getLast?_cons, last]
  | some order => simp [afterOrders, List.getLast?_cons, last]

/-- A sequence of bodies leaves what the accepted ones among them order. -/
theorem obeyAll_eq_afterOrders (posts : List (Instant × Bytes))
    (state : State Instant) (isHeard : state.isHeard = true) :
    ∃ orders, List.Forall₂ IsOrderOf (acceptedOf state posts) orders ∧
      (obeyAll state posts).1 = afterOrders state orders := by
  induction posts generalizing state with
  | nil => exact ⟨[], .nil, (afterOrders_nil state).symm⟩
  | cons post posts ih =>
      obtain ⟨now, body⟩ := post
      obtain ⟨orders, areOrders, last⟩ :=
        ih (obey state now body).1 ((isHeard_obey state now body).trans isHeard)
      by_cases status : (obey state now body).2.status = 200
      · obtain ⟨-, command, spelled, next⟩ :=
          obey_of_isSound (isSound_of_status status)
        refine ⟨(now, command) :: orders, ?_, ?_⟩
        · rw [acceptedOf_cons_of_ok status]
          exact .cons ⟨rfl, spelled⟩ areOrders
        · rw [obeyAll_cons, last, next, afterOrders_cons isHeard]
      · refine ⟨orders, ?_, ?_⟩
        · rw [acceptedOf_cons_of_not_ok status]
          exact areOrders
        · rw [obeyAll_cons, last, obey_of_status_ne_ok status]

end Sequences

/-- A mute command is obeyed as a whole or not at all.  A body is refused as bad
if it cannot be read; as forbidden if it names no photo; as bad if it names no
deadline.  A body that is refused changes nothing.  One that is accepted sets
the deadline and queues one acknowledgement, and nothing else.  So a sequence of
bodies leaves the deadline of the last that was accepted, and acknowledgements
of those that were accepted, in order. -/
theorem commands_are_all_or_nothing {state : State Instant}
    (isHeard : state.isHeard = true) :
    (∀ now body,
      let next := (obey state now body).1
      let status := (obey state now body).2.status
      (status = 400 ↔ IsBad state.photos now body) ∧
      (status = 403 ↔ IsForbidden state.photos body) ∧
      (status = 200 ↔ IsSound state.photos now body) ∧
      (status ≠ 200 → next = state) ∧
      (status = 200 → ∃ command, Spells body command ∧
        (command.seconds < 1 → next =
          { state with
            mute := ⟨some now⟩
            queue := state.queue ++ [.unmuted command.key] }) ∧
        (1 ≤ command.seconds → next =
          { state with
            mute := ⟨some (now.later (.seconds command.seconds))⟩
            queue := state.queue ++
              [.muted command.key (some command.seconds)] }))) ∧
    ∀ posts, ∃ orders,
      List.Forall₂ IsOrderOf (acceptedOf state posts) orders ∧
      (obeyAll state posts).1 = afterOrders state orders := by
  refine ⟨fun now body => ⟨?_, ?_, ?_, ?_, ?_⟩, fun posts =>
    obeyAll_eq_afterOrders posts state isHeard⟩
  · exact ⟨isBad_of_status, fun isBad => (obey_of_isBad isBad).1⟩
  · exact ⟨isForbidden_of_status, fun isForbidden =>
      (obey_of_isForbidden isForbidden).1⟩
  · exact ⟨isSound_of_status, fun isSound => (obey_of_isSound isSound).1⟩
  · exact obey_of_status_ne_ok
  · intro status
    obtain ⟨-, command, spelled, next⟩ :=
      obey_of_isSound (isSound_of_status status)
    refine ⟨command, spelled, ?_⟩
    rw [next]
    exact pushed_eq isHeard command

/-- Three bodies of which the second cannot be read, so that only the others
count. -/
theorem commands_are_all_or_nothing_of_photo :
    (withPhoto none ⟨50, 0⟩).isHeard = true ∧
    acceptedOf (withPhoto none ⟨50, 0⟩)
        [(⟨100, 0⟩, bodyFor "60"), (⟨110, 0⟩, []), (⟨120, 0⟩, bodyFor "0")] =
      [(⟨100, 0⟩, bodyFor "60"), (⟨120, 0⟩, bodyFor "0")] ∧
    ∃ orders, List.Forall₂ IsOrderOf
        [(⟨100, 0⟩, bodyFor "60"), (⟨120, 0⟩, bodyFor "0")] orders ∧
      (obeyAll (withPhoto none ⟨50, 0⟩) [(⟨100, 0⟩, bodyFor "60"),
        (⟨110, 0⟩, []), (⟨120, 0⟩, bodyFor "0")]).1 =
        afterOrders (withPhoto none ⟨50, 0⟩) orders := by
  have accepted : acceptedOf (withPhoto none ⟨50, 0⟩)
      [(⟨100, 0⟩, bodyFor "60"), (⟨110, 0⟩, []), (⟨120, 0⟩, bodyFor "0")] =
      [(⟨100, 0⟩, bodyFor "60"), (⟨120, 0⟩, bodyFor "0")] := by
    decide +kernel
  have isHeard : (withPhoto none ⟨50, 0⟩).isHeard = true := rfl
  obtain ⟨orders, areOrders, last⟩ := (commands_are_all_or_nothing isHeard).2
      [(⟨100, 0⟩, bodyFor "60"), (⟨110, 0⟩, []), (⟨120, 0⟩, bodyFor "0")]
  rw [accepted] at areOrders
  exact ⟨isHeard, accepted, orders, areOrders, last⟩

/-- A command to unmute is not judged by the instant that its seconds lead to:
the least of them leads out of what is kept, and is accepted. -/
theorem unmute_outside_kept_instants_accepted :
    let now : Instant := ⟨100, 0⟩
    let before := withPhoto none ⟨50, 0⟩
    let obeyed := obey before now (bodyFor "-9223372036854775808")
    MuteCommand.read before.photos (bodyFor "-9223372036854775808") =
        .ok ⟨"abc", -9223372036854775808⟩ ∧
      (now.later (.seconds (-9223372036854775808))).isKept = false ∧
      obeyed.2.status = 200 ∧ obeyed.1.mute = ⟨some now⟩ := by
  decide +kernel

end Control

end DrivewayWatch
