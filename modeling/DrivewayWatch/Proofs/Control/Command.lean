import DrivewayWatch.Control.Server
import Mathlib.Tactic.Common

/-!
# Mute commands, accepted and refused

A command is accepted if its body spells one, there is a record of its key, and
its deadline can be named.  Then the server sets the deadline and queues an
acknowledgement; else it changes nothing.  `obey_cases` says all that a command
can bring about.
-/

namespace DrivewayWatch

namespace Control

theorem Refusal.status_ne_ok (refusal : Refusal) :
    refusal.kind.status ≠ 200 := by
  cases refusal <;> decide

namespace MuteCommand

/-- A body spells a command if it is a value that has its key and seconds. -/
def Spells (body : Bytes) (command : MuteCommand) : Prop :=
  ∃ value, (Text.Utf8.decode body).bind Json.Value.read? = some value ∧
    keyOf value = .ok command.key ∧ secondsOf value = .ok command.seconds

variable {T : Type} {photos : PhotoStore T} {body : Bytes}
  {command : MuteCommand}

/-- A body spells one command at most. -/
theorem Spells.unique {other : MuteCommand} (spelled : Spells body command)
    (otherSpelled : Spells body other) : command = other := by
  obtain ⟨value, isValue, hasKey, hasSeconds⟩ := spelled
  obtain ⟨_, sameValue, otherKey, otherSeconds⟩ := otherSpelled
  obtain rfl := Option.some.inj (isValue.symm.trans sameValue)
  have sameKey := Except.ok.inj (hasKey.symm.trans otherKey)
  have sameSeconds := Except.ok.inj (hasSeconds.symm.trans otherSeconds)
  cases command
  cases other
  exact congrArg₂ mk sameKey sameSeconds

theorem read_eq_ok_iff :
    read photos body = .ok command ↔
      Spells body command ∧ photos.contains command.key = true := by
  unfold read Spells
  cases (Text.Utf8.decode body).bind Json.Value.read? with
  | none => simp
  | some value =>
      simp only [Option.some.injEq, exists_eq_left']
      cases keyOf value with
      | error refusal => simp [bind, Except.bind]
      | ok key =>
          obtain ⟨commandKey, commandSeconds⟩ := command
          by_cases known : photos.contains key
          · cases secondsOf value with
            | error refusal => simp [bind, Except.bind, known]
            | ok seconds =>
                simp only [bind, Except.bind, known, if_true, pure,
                  Except.pure, Except.ok.injEq, mk.injEq]
                constructor
                · rintro ⟨rfl, rfl⟩
                  exact ⟨⟨rfl, rfl⟩, known⟩
                · rintro ⟨same, -⟩
                  exact same
          · simp only [bind, Except.bind, known, Except.ok.injEq]
            constructor
            · rintro ⟨⟩
            · rintro ⟨⟨rfl, -⟩, isKnown⟩
              exact absurd isKnown known

theorem accept_eq_ok_iff [Timeline T] {now deadline : T} :
    accept photos now body = .ok (command, deadline) ↔
      Spells body command ∧ photos.contains command.key = true ∧
        command.deadline? now = some deadline := by
  rw [← and_assoc, ← read_eq_ok_iff]
  unfold accept
  cases read photos body with
  | error refusal => simp [bind, Except.bind]
  | ok found =>
      cases named : found.deadline? now with
      | none =>
          simp only [bind, Except.bind, named, Except.ok.injEq, reduceCtorEq,
            false_iff]
          rintro ⟨rfl, isNamed⟩
          rw [named] at isNamed
          cases isNamed
      | some foundDeadline =>
          simp only [bind, Except.bind, named, pure, Except.pure,
            Except.ok.injEq, Prod.mk.injEq]
          constructor
          · rintro ⟨rfl, rfl⟩
            exact ⟨rfl, named⟩
          · rintro ⟨rfl, isNamed⟩
            rw [named, Option.some.injEq] at isNamed
            exact ⟨rfl, isNamed⟩

end MuteCommand

variable {T : Type}

@[simp]
theorem mute_push (state : State T) (feedback : Feedback) :
    (push state feedback).mute = state.mute := by
  unfold push
  split <;> rfl

variable [Timeline T]

/-- What a body brings about: an accepted command sets the deadline and queues
an acknowledgement, and a refused one leaves the server as it was. -/
theorem obey_cases (state : State T) (now : T) (body : Bytes) :
    (∃ command deadline,
      MuteCommand.accept state.photos now body = .ok (command, deadline) ∧
      obey state now body =
        (push { state with mute := state.mute.setDeadline deadline }
          command.feedback, .ok)) ∨
    (∃ refusal, MuteCommand.accept state.photos now body = .error refusal ∧
      obey state now body = (state, .refused refusal)) := by
  unfold obey
  cases MuteCommand.accept state.photos now body with
  | ok accepted => exact .inl ⟨accepted.1, accepted.2, rfl, rfl⟩
  | error refusal => exact .inr ⟨refusal, rfl, rfl⟩

/-- A command is accepted exactly if it is answered with the status for what
went well. -/
theorem status_obey_eq_ok_iff (state : State T) (now : T) (body : Bytes) :
    (obey state now body).2.status = 200 ↔
      ∃ command deadline,
        MuteCommand.accept state.photos now body = .ok (command, deadline) := by
  rcases obey_cases state now body with
    ⟨command, deadline, accepted, obeyed⟩ | ⟨refusal, refused, obeyed⟩
  · rw [obeyed]
    exact ⟨fun _ => ⟨command, deadline, accepted⟩, fun _ => rfl⟩
  · rw [obeyed, refused]
    constructor
    · intro isOk
      exact absurd isOk refusal.status_ne_ok
    · rintro ⟨command, deadline, ⟨⟩⟩

theorem mute_obey_of_accept {state : State T} {now : T} {body : Bytes}
    {command : MuteCommand} {deadline : T}
    (accepted : MuteCommand.accept state.photos now body =
      .ok (command, deadline)) :
    (obey state now body).1.mute = ⟨some deadline⟩ := by
  rw [obey, accepted]
  exact mute_push _ _

/-- The body of a command for the photo of a certain notification. -/
def bodyFor (seconds : String) : Bytes :=
  Text.Utf8.bytesOf ("\x7b\"key\": \"abc\", \"s\": " ++ seconds ++ "\x7d")

/-- A server with a mute window that knows this photo, taken at a time. -/
def withPhoto (deadline : Option Instant) (taken : Instant) : State Instant :=
  { hasMetrics := false
    mute := ⟨deadline⟩
    photos := (PhotoRecord.new? "abc" taken none).elim .empty
      PhotoStore.empty.insert
    isHeard := true
    queue := []
    counts := [] }

end Control

end DrivewayWatch
