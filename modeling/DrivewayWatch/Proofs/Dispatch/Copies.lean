import DrivewayWatch.Proofs.Dispatch.Handling
import DrivewayWatch.Proofs.ImageCopy

/-!
# Copies that are kept

A photo is copied before its arrival is judged.  So the directory of copies
depends on the photos of a queue alone, and not on what is muted or debounced,
nor on what came of the messages: it holds one file for each different photo.
An arrival that ends dispatching still has its photo copied.
-/

namespace DrivewayWatch

namespace Dispatch

variable {K T : Type}

/-- The photo of a notification, if it has one. -/
def photoOf? : Notification T → Option Bytes
  | .arrival arrival => arrival.photo
  | .feedback _ => none

/-- The photos of a queue, in order. -/
def photosOf (queue : List (Surroundings T × Notification T)) : List Bytes :=
  queue.filterMap fun entry => photoOf? entry.2

theorem photosOf_cons (entry : Surroundings T × Notification T)
    (queue : List (Surroundings T × Notification T)) :
    photosOf (entry :: queue) =
      (photoOf? entry.2).toList ++ photosOf queue := by
  cases photo : photoOf? entry.2 <;> simp [photosOf, photo]

variable [Scalar K] [Timeline T] (settings : Settings K)

/-- The notifications of a queue that are taken: those that are handled, and the
one that ends dispatching, if there is one. -/
def taken (state : State T) (queue : List (Surroundings T × Notification T)) :
    List (Surroundings T × Notification T) :=
  handled settings state queue ++ (unhandled settings state queue).take 1

theorem taken_sublist (state : State T)
    (queue : List (Surroundings T × Notification T)) :
    (taken settings state queue).Sublist queue := by
  conv_rhs => rw [← handled_append_unhandled settings state queue]
  exact (List.take_sublist 1 _).append_left _

/-- A notification with a photo writes one copy where copies are made, and one
without a photo writes none.  The verdict on it makes no difference. -/
theorem copies_handle (surroundings : Surroundings T) (state : State T)
    (notification : Notification T) :
    (handle settings surroundings state notification).1.copies =
      if settings.ntfy.copyDirectory.isSome && surroundings.copiesWork then
        (photoOf? notification).elim state.copies (ImageCopy.write state.copies)
      else state.copies := by
  cases notification with
  | feedback feedback =>
      rw [handle_feedback]
      exact (ite_self _).symm
  | arrival arrival =>
      have isCopied :
          (handle settings surroundings state (.arrival arrival)).1.copies =
            copied settings.ntfy surroundings.copiesWork state.copies arrival := by
        cases verdict : (suppression settings.ntfy surroundings.mute
            state.lastSent arrival).1 with
        | some suppressed => rw [handle_of_suppressed settings verdict]
        | none =>
            cases isKept : recordOf? arrival with
            | some record => rw [handle_of_passed settings verdict isKept]
            | none => rw [handle_of_not_kept settings verdict isKept]
      rw [isCopied, copied, photoOf?]
      cases settings.ntfy.copyDirectory <;> cases arrival.photo <;> simp

theorem copies_handle_of_photo_none {notification : Notification T}
    (noPhoto : photoOf? notification = none) (surroundings : Surroundings T)
    (state : State T) :
    (handle settings surroundings state notification).1.copies =
      state.copies := by
  rw [copies_handle, noPhoto]
  exact ite_self _

/-- A photo that is in the directory already is in it no second time, and no
other file is touched. -/
theorem copies_handle_perm_of_mem {state : State T} {photo : Bytes}
    (distinct : (state.copies.map Prod.fst).Nodup)
    (isStored : ImageCopy.copyOf photo ∈ state.copies)
    (surroundings : Surroundings T) {notification : Notification T}
    (hasPhoto : photoOf? notification = some photo) :
    (handle settings surroundings state notification).1.copies.Perm
      state.copies := by
  rw [copies_handle, hasPhoto]
  split
  · exact ImageCopy.put_perm_of_mem distinct isStored
  · exact .rfl

/-- A notification whose photo can be copied adds it to the copies. -/
theorem holdsCopies_handle (isSet : settings.ntfy.copyDirectory.isSome = true)
    {surroundings : Surroundings T} (works : surroundings.copiesWork = true)
    {state : State T} {photos : List Bytes}
    (holds : ImageCopy.HoldsCopies state.copies photos)
    {notification : Notification T}
    (isInjective : Set.InjOn Sha256.digest
      {photo | photo ∈ photos ++ (photoOf? notification).toList}) :
    ImageCopy.HoldsCopies
      (handle settings surroundings state notification).1.copies
      (photos ++ (photoOf? notification).toList) := by
  rw [copies_handle, isSet, works]
  cases hasPhoto : photoOf? notification with
  | none => simpa using holds
  | some photo =>
      rw [hasPhoto] at isInjective
      refine holds.write fun other member sameDigest => ?_
      exact isInjective (List.mem_append_left _ member)
        (List.mem_append_right _ (by simp)) sameDigest

/-- A queue adds its photos to the copies. -/
theorem holdsCopies_run (isSet : settings.ntfy.copyDirectory.isSome = true)
    {start : State T} {photos : List Bytes}
    (holds : ImageCopy.HoldsCopies start.copies photos)
    {queue : List (Surroundings T × Notification T)}
    (works : ∀ entry ∈ queue, entry.1.copiesWork = true)
    (isInjective : Set.InjOn Sha256.digest
      {photo | photo ∈ photos ++ photosOf (taken settings start queue)}) :
    ImageCopy.HoldsCopies (run settings start queue).1.copies
      (photos ++ photosOf (taken settings start queue)) := by
  induction start, queue using run_induction (T := T) settings
      generalizing photos with
  | nil start => simpa [taken, handled, unhandled, photosOf, run] using holds
  | ended start surroundings notification queue reported =>
      have onlyFirst :
          taken settings start ((surroundings, notification) :: queue) =
            [(surroundings, notification)] := by
        rw [taken, handled_cons_of_ended reported,
          unhandled_cons_of_ended reported]
        rfl
      have isPhoto : photosOf [(surroundings, notification)] =
          (photoOf? notification).toList := by
        rw [photosOf_cons]
        exact List.append_nil _
      have worksFirst := (List.forall_mem_cons.mp works).1
      rw [onlyFirst, isPhoto] at isInjective ⊢
      rw [run_cons_of_ended reported]
      exact holdsCopies_handle settings isSet worksFirst holds isInjective
  | goesOn start surroundings notification queue report reported ih =>
      have andLater :
          taken settings start ((surroundings, notification) :: queue) =
            (surroundings, notification) :: taken settings
              (handle settings surroundings start notification).1 queue := by
        rw [taken, handled_cons_of_handled reported,
          unhandled_cons_of_handled reported]
        rfl
      obtain ⟨worksFirst, worksLater⟩ := List.forall_mem_cons.mp works
      rw [andLater, photosOf_cons, ← List.append_assoc] at isInjective ⊢
      rw [run_cons_of_handled reported]
      refine ih ?_ worksLater isInjective
      refine holdsCopies_handle settings isSet worksFirst holds ?_
      exact isInjective.mono fun _ member => List.mem_append_left _ member

/-- The directory of copies.  It is empty at first and can be written, and no two
photos of a queue have one digest.  Then after the queue there is one file for
each different photo of the notifications that were taken, with the digits of its
digest for a name and the photo for its content.  A notification whose photo is
in the directory already changes nothing about it, and neither does one without a
photo. -/
theorem copies_are_those_of_photos
    (isSet : settings.ntfy.copyDirectory.isSome = true)
    {start : State T} (isEmpty : start.copies = [])
    {queue : List (Surroundings T × Notification T)}
    (works : ∀ entry ∈ queue, entry.1.copiesWork = true)
    (isInjective : Set.InjOn Sha256.digest {photo | photo ∈ photosOf queue}) :
    (run settings start queue).1.copies.Perm
      ((photosOf (taken settings start queue)).dedup.map fun photo =>
        (String.ofList (Hex.encode (Sha256.digest photo)) ++ ".jpg", photo)) ∧
    ((run settings start queue).1.copies.map Prod.fst).Nodup ∧
    (∀ file ∈ (run settings start queue).1.copies,
      ImageCopy.digestOf? file.1 = some (Sha256.digest file.2)) ∧
    (∀ (surroundings : Surroundings T) (notification : Notification T) photo,
      photoOf? notification = some photo →
      photo ∈ (run settings start queue).1.copies.map Prod.snd →
        (handle settings surroundings (run settings start queue).1
          notification).1.copies.Perm (run settings start queue).1.copies) ∧
    ∀ (surroundings : Surroundings T) (state : State T) notification,
      photoOf? notification = none →
        (handle settings surroundings state notification).1.copies =
          state.copies := by
  have holdsNone : ImageCopy.HoldsCopies start.copies [] := by
    rw [isEmpty]
    exact ImageCopy.holdsCopies_nil
  have isInjectiveTaken : Set.InjOn Sha256.digest
      {photo | photo ∈ photosOf (taken settings start queue)} :=
    isInjective.mono fun _ member =>
      ((taken_sublist settings start queue).filterMap _).mem member
  have holds := holdsCopies_run settings isSet holdsNone works isInjectiveTaken
  rw [List.nil_append] at holds
  refine ⟨holds.perm, holds.nodup_names, ?_, ?_, ?_⟩
  · intro file member
    obtain ⟨photo, -, rfl⟩ := (holds.mem_iff file).mp member
    exact ImageCopy.digestOf?_fileName photo
  · intro surroundings notification photo hasPhoto isStored
    obtain ⟨file, member, rfl⟩ := List.mem_map.mp isStored
    obtain ⟨photo, inQueue, rfl⟩ := (holds.mem_iff file).mp member
    exact copies_handle_perm_of_mem settings holds.nodup_names member
      surroundings hasPhoto
  · intro surroundings state notification noPhoto
    exact copies_handle_of_photo_none settings noPhoto surroundings state

/-- What surrounds a notification that is handled while copies can be made and
no server replies. -/
def copying (window : MuteWindow Instant) : Surroundings Instant :=
  ⟨window, ⟨900, 0⟩, fun _ => none, true, fun _ => none⟩

/-- A photo that comes twice, another one that is muted, an acknowledgement, and
an arrival without a photo. -/
def mixedDay : List (Surroundings Instant × Notification Instant) :=
  [(copying .silent,
      .arrival ⟨⟨100, 0⟩, "car", "arrived", "e0", some [0xFF, 0xD8], none⟩),
    (copying .silent,
      .arrival ⟨⟨110, 0⟩, "car", "arrived", "e1", some [0xFF, 0xD8], none⟩),
    (copying ⟨some ⟨500, 0⟩⟩, .arrival
      ⟨⟨120, 0⟩, "person", "arrived", "e2", some [0xFF, 0xD8, 0xFF, 0xD9], none⟩),
    (copying .silent, .feedback (.unmuted "e0")),
    (copying .silent,
      .arrival ⟨⟨600, 0⟩, "truck", "arrived", "e3", none, none⟩)]

/-- Of three arrivals with photos one is debounced and one is muted, and their
photos are two files. -/
theorem copies_are_those_of_photos_of_mixedDay :
    let settings : Settings Float :=
      ⟨{ Ntfy.Settings.standard with copyDirectory := some "copies" }, .standard⟩
    settings.ntfy.copyDirectory.isSome = true ∧
      (State.start : State Instant).copies = [] ∧
      (∀ entry ∈ mixedDay, entry.1.copiesWork = true) ∧
      Set.InjOn Sha256.digest {photo | photo ∈ photosOf mixedDay} ∧
      ((run settings State.start mixedDay).2.tail.take 2).map (·.outcome) =
        [.suppressed .debounced, .suppressed (.muted ⟨500, 0⟩)] ∧
      (run settings State.start mixedDay).1.copies.Perm
        [("71563ad80061407ede9c6f316836284bd3710a520c5a792b5eda1cb703690815.jpg",
            [0xFF, 0xD8]),
          ("32461d5bd1773012acef0ba15636752949bd7c2ce50f9172159d9f56cf0dd9af.jpg",
            [0xFF, 0xD8, 0xFF, 0xD9])] := by
  intro settings
  have isSet : settings.ntfy.copyDirectory.isSome = true := rfl
  have isEmpty : (State.start : State Instant).copies = [] := rfl
  have works : ∀ entry ∈ mixedDay, entry.1.copiesWork = true := by
    simp [mixedDay, copying]
  have apart : Sha256.digest [0xFF, 0xD8] ≠
      Sha256.digest [0xFF, 0xD8, 0xFF, 0xD9] := by
    decide +kernel
  have isOneOf : ∀ photo ∈ photosOf mixedDay,
      photo = [0xFF, 0xD8] ∨ photo = [0xFF, 0xD8, 0xFF, 0xD9] := by
    decide +kernel
  have isInjective :
      Set.InjOn Sha256.digest {photo | photo ∈ photosOf mixedDay} := by
    intro first inFirst second inSecond same
    rcases isOneOf first inFirst with rfl | rfl <;>
      rcases isOneOf second inSecond with rfl | rfl
    · rfl
    · exact absurd same apart
    · exact absurd same.symm apart
    · rfl
  have verdicts :
      ((run settings State.start mixedDay).2.tail.take 2).map (·.outcome) =
        [.suppressed .debounced, .suppressed (.muted ⟨500, 0⟩)] := by
    decide +kernel
  refine ⟨isSet, isEmpty, works, isInjective, verdicts, ?_⟩
  have held := (copies_are_those_of_photos settings isSet isEmpty works
    isInjective).1
  have named : ((photosOf (taken settings .start mixedDay)).dedup.map
      fun photo => (String.ofList (Hex.encode (Sha256.digest photo)) ++ ".jpg", photo)) =
      [("71563ad80061407ede9c6f316836284bd3710a520c5a792b5eda1cb703690815.jpg",
          [0xFF, 0xD8]),
        ("32461d5bd1773012acef0ba15636752949bd7c2ce50f9172159d9f56cf0dd9af.jpg",
          [0xFF, 0xD8, 0xFF, 0xD9])] := by
    decide +kernel
  rwa [named] at held

end Dispatch

end DrivewayWatch
