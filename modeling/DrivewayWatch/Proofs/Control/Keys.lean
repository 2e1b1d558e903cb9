import DrivewayWatch.Control.Photo
import DrivewayWatch.Proofs.Control.Command
import DrivewayWatch.Proofs.PhotoStore
import DrivewayWatch.Proofs.Text.Search

/-!
# Keys of mute commands

A mute command is accepted if there is a record of its key, and a photo request
finds the record if it is alive.  The two agree once the store is pruned at the
present, and else on every key but those whose record is expired and was not
removed yet: such a key still opens the mute window.
-/

namespace DrivewayWatch

namespace Control

theorem idOfFileName?_append (id : String) :
    idOfFileName? (id ++ ".jpg") = some id := by
  rw [idOfFileName?, String.toList_append, Text.before?_append,
    Option.map_some, String.ofList_toList]

section Timeline

variable {T : Type} [Timeline T]

/-- A photo request finds a record exactly if it is alive, be there a picture in
it or not. -/
theorem photo_ne_unknownRecord_iff (photos : PhotoStore T) (now : T)
    (id : String) :
    photo photos now (id ++ ".jpg") ≠ .error .unknownRecord ↔
      photos.IsAlive now id := by
  rw [photo, idOfFileName?_append]
  simp only [PhotoStore.IsAlive]
  cases found : photos.get? id with
  | none => simp
  | some record =>
      cases expired : record.isExpired now with
      | true => simp [Option.filter_some_neg, expired]
      | false =>
          cases picture : record.photo <;>
            simp [Option.filter_some_pos, expired, picture]

variable {state : State T} {now : T} {body : Bytes} {command : MuteCommand}

/-- A command whose deadline can be named is accepted exactly if there is a
record of its key. -/
theorem status_obey_eq_ok_iff_contains
    (spelled : MuteCommand.Spells body command)
    (named : (command.deadline? now).isSome = true) :
    (obey state now body).2.status = 200 ↔
      state.photos.contains command.key = true := by
  rw [status_obey_eq_ok_iff]
  constructor
  · rintro ⟨other, deadline, accepted⟩
    obtain ⟨otherSpelled, known, -⟩ :=
      MuteCommand.accept_eq_ok_iff.mp accepted
    obtain rfl := otherSpelled.unique spelled
    exact known
  · intro known
    obtain ⟨deadline, found⟩ := Option.isSome_iff_exists.mp named
    exact ⟨command, deadline,
      MuteCommand.accept_eq_ok_iff.mpr ⟨spelled, known, found⟩⟩

end Timeline

/-- The server with the photos that are left after pruning at a time. -/
def State.pruned {T : Type} [Timeline T] (state : State T) (time : T) :
    State T :=
  { state with photos := state.photos.prune time }

/-- Which keys open the mute window.  A command that is spelled well and whose
deadline can be named is accepted if there is a record of its key, be it expired
or not.  So acceptance agrees with what is alive, which is what photo requests
find, exactly if the record is not one that lingers.  Pruning at an earlier time
changes acceptance exactly if the record was expired by then; and after pruning
at the present the accepted keys are those that are alive. -/
theorem accepted_iff_alive_unless_lingering {state : State Instant}
    (keyed : state.photos.IsKeyed) {now : Instant} {body : Bytes}
    {command : MuteCommand} (spelled : MuteCommand.Spells body command)
    (named : (command.deadline? now).isSome = true) :
    ((obey state now body).2.status = 200 ↔
      state.photos.contains command.key = true) ∧
    (photo state.photos now (command.key ++ ".jpg") ≠ .error .unknownRecord ↔
      state.photos.IsAlive now command.key) ∧
    (((obey state now body).2.status = 200 ↔
        state.photos.IsAlive now command.key) ↔
      ¬ state.photos.IsLingering now command.key) ∧
    (∀ time,
      ((obey (state.pruned time) now body).2.status = 200 ↔
          (obey state now body).2.status = 200) ↔
        ¬ state.photos.IsLingering time command.key) ∧
    (¬ state.photos.IsLingering now command.key →
      ∀ earlier, ¬ now < earlier →
        ((obey (state.pruned earlier) now body).2.status = 200 ↔
          (obey state now body).2.status = 200)) ∧
    ((obey (state.pruned now) now body).2.status = 200 ↔
      state.photos.IsAlive now command.key) := by
  have accepts (state : State Instant) :
      (obey state now body).2.status = 200 ↔
        state.photos.contains command.key = true :=
    status_obey_eq_ok_iff_contains spelled named
  have acceptsPruned (time : Instant) :
      (obey (state.pruned time) now body).2.status = 200 ↔
        state.photos.IsAlive time command.key := by
    rw [accepts]
    exact PhotoStore.contains_prune_iff keyed
  have matters (time : Instant) :
      ((obey (state.pruned time) now body).2.status = 200 ↔
          (obey state now body).2.status = 200) ↔
        ¬ state.photos.IsLingering time command.key := by
    rw [acceptsPruned, accepts]
    exact PhotoStore.isAlive_iff_contains_iff time
  refine ⟨accepts state, photo_ne_unknownRecord_iff _ _ _, ?_, matters, ?_,
    acceptsPruned now⟩
  · rw [accepts, ← PhotoStore.isAlive_iff_contains_iff now]
    exact Iff.comm
  · intro noneLingers earlier inOrder
    rw [matters earlier]
    exact fun lingers => noneLingers (lingers.later inOrder)

theorem bodyFor_spells : MuteCommand.Spells (bodyFor "600") ⟨"abc", 600⟩ := by
  have accepted : MuteCommand.read (withPhoto none ⟨0, 0⟩).photos
      (bodyFor "600") = .ok ⟨"abc", 600⟩ := by
    decide +kernel
  exact (MuteCommand.read_eq_ok_iff.mp accepted).1

/-- The key of a photo is accepted to the last instant of its day. -/
theorem accepted_iff_alive_at_end_of_day :
    (withPhoto none ⟨0, 0⟩).photos.IsKeyed ∧
      MuteCommand.Spells (bodyFor "600") ⟨"abc", 600⟩ ∧
      (obey (withPhoto none ⟨0, 0⟩) ⟨86400, 0⟩
        (bodyFor "600")).2.status = 200 := by
  have keyed : (withPhoto none ⟨0, 0⟩).photos.IsKeyed :=
    PhotoStore.isKeyed_empty.insert _
  obtain ⟨accepts, -⟩ := @accepted_iff_alive_unless_lingering _ keyed
    ⟨86400, 0⟩ _ _ bodyFor_spells (by decide +kernel)
  exact ⟨keyed, bodyFor_spells, accepts.mpr (by decide +kernel)⟩

/-- A second later the photo is not found any more, but its key still mutes; it
would not if the store had been pruned. -/
theorem lingering_key_mutes :
    photo (withPhoto none ⟨0, 0⟩).photos ⟨86401, 0⟩ "abc.jpg" =
        .error .unknownRecord ∧
      (obey (withPhoto none ⟨0, 0⟩) ⟨86401, 0⟩
        (bodyFor "600")).2.status = 200 ∧
      (obey (withPhoto none ⟨0, 0⟩) ⟨86401, 0⟩
        (bodyFor "600")).1.mute = ⟨some ⟨87001, 0⟩⟩ ∧
      (obey ((withPhoto none ⟨0, 0⟩).pruned ⟨86401, 0⟩) ⟨86401, 0⟩
        (bodyFor "600")).2.status = 403 := by
  decide +kernel

end Control

end DrivewayWatch
