import DrivewayWatch.Dispatch
import DrivewayWatch.Proofs.Control.Command
import DrivewayWatch.Proofs.Time.Elapsed

/-!
# Unmuting

A command with less than one second sets the deadline to the present.  That
ends a mute window that is open.  But arrivals are dated when their track began,
before they are dispatched; so where no window is open the new deadline lies
behind the present, and it suppresses arrivals that were let through before.
`unmuting_mutes_nothing_iff` says when it does not.
-/

namespace DrivewayWatch

namespace Control

section Timeline

variable {T : Type} [Timeline T] {state : State T} {now : T} {body : Bytes}
  {command : MuteCommand} {deadline : T}

theorem MuteCommand.deadline_eq_now_of_accept
    (accepted : accept state.photos now body = .ok (command, deadline))
    (unmutes : command.seconds < 1) : deadline = now := by
  obtain ⟨-, -, named⟩ := accept_eq_ok_iff.mp accepted
  rw [deadline?, if_pos unmutes, Option.some.injEq] at named
  exact named.symm

/-- After an unmute everything dated before the present is muted, and nothing
else. -/
theorem activeAt_obey_of_unmute
    (accepted : MuteCommand.accept state.photos now body =
      .ok (command, deadline))
    (unmutes : command.seconds < 1) (time : T) :
    (obey state now body).1.mute.activeAt time =
      if time < now then some now else none := by
  obtain rfl := MuteCommand.deadline_eq_now_of_accept accepted unmutes
  rw [mute_obey_of_accept accepted]
  by_cases before : time < deadline
  · simp [MuteWindow.activeAt, before]
  · simp [MuteWindow.activeAt, before]

end Timeline

theorem activeAt_eq_none_iff {T : Type} [Timeline T] (window : MuteWindow T)
    (time : T) :
    window.activeAt time = none ↔
      ∀ deadline, window.deadline = some deadline → ¬ time < deadline := by
  simp [MuteWindow.activeAt, Option.filter_eq_none_iff]

/-- What an unmute suppresses, and when it suppresses nothing new.  After an
accepted command of less than one second what is dated before the present is
muted, and nothing else.  So it mutes nothing that was not muted before exactly
if there was a deadline that the present had not passed yet. -/
theorem unmuting_mutes_nothing_iff {state : State Instant} {now : Instant}
    {body : Bytes} {command : MuteCommand} {deadline : Instant}
    (accepted : MuteCommand.accept state.photos now body =
      .ok (command, deadline))
    (unmutes : command.seconds < 1) :
    (∀ time, (obey state now body).1.mute.activeAt time =
      if time < now then some now else none) ∧
    ((∀ time, state.mute.activeAt time = none →
        (obey state now body).1.mute.activeAt time = none) ↔
      ∃ former, state.mute.deadline = some former ∧ ¬ former < now) := by
  have after := activeAt_obey_of_unmute accepted unmutes
  refine ⟨after, ?_⟩
  simp only [after, ite_eq_right_iff, reduceCtorEq, imp_false,
    activeAt_eq_none_iff]
  constructor
  · intro mutesNothing
    cases former : state.mute.deadline with
    | none =>
        -- Without a deadline even the second before now was not muted.
        have justBefore : (⟨now.second - 1, 0⟩ : Instant) < now :=
          (Instant.lt_iff _ _).mpr (.inl (Int.sub_lt_self _ (by decide)))
        refine absurd justBefore (mutesNothing _ ?_)
        simp [former]
    | some deadline =>
        refine ⟨deadline, rfl, mutesNothing deadline ?_⟩
        rintro _ same
        obtain rfl := Option.some.inj (former.symm.trans same)
        exact Instant.not_lt_self deadline
  · rintro ⟨former, hadDeadline, notPassed⟩ time notMuted before
    have notBefore := notMuted former hadDeadline
    rw [Instant.lt_iff] at notBefore notPassed before
    omega

/-- An unmute ends a window that is open, and mutes nothing else. -/
theorem unmuting_mutes_nothing_of_open_window :
    MuteCommand.accept (withPhoto (some ⟨500, 0⟩) ⟨50, 0⟩).photos
        ⟨100, 0⟩ (bodyFor "0") = .ok (⟨"abc", 0⟩, ⟨100, 0⟩) ∧
      ∀ time, (withPhoto (some ⟨500, 0⟩) ⟨50, 0⟩).mute.activeAt time = none →
        (obey (withPhoto (some ⟨500, 0⟩) ⟨50, 0⟩) ⟨100, 0⟩
          (bodyFor "0")).1.mute.activeAt time = none := by
  have accepted : MuteCommand.accept (withPhoto (some ⟨500, 0⟩) ⟨50, 0⟩).photos
      ⟨100, 0⟩ (bodyFor "0") = .ok (⟨"abc", 0⟩, ⟨100, 0⟩) := by
    decide +kernel
  refine ⟨accepted, ?_⟩
  rw [(unmuting_mutes_nothing_iff accepted (by decide)).2]
  exact ⟨⟨500, 0⟩, rfl, by decide⟩

/-- Where nothing is muted, an unmute suppresses an arrival that was dated
before it and would have been announced. -/
theorem unmute_suppresses_older_arrival :
    let arrival : Arrival Instant :=
      ⟨⟨90, 0⟩, "car", "arrived in driveway", "e0", none, none⟩
    let before := withPhoto none ⟨50, 0⟩
    let after := (obey before ⟨100, 0⟩ (bodyFor "0")).1
    (obey before ⟨100, 0⟩ (bodyFor "0")).2.status = 200 ∧
      before.mute.activeAt arrival.time = none ∧
      (Dispatch.suppression Ntfy.Settings.standard before.mute []
        arrival).1 = none ∧
      (Dispatch.suppression Ntfy.Settings.standard after.mute []
        arrival).1 = some (.muted ⟨100, 0⟩) := by
  decide +kernel

end Control

end DrivewayWatch
