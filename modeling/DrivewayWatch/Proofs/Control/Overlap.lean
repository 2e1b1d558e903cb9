import DrivewayWatch.Proofs.Control.Command
import Mathlib.Data.List.FinRange
import Mathlib.Data.List.Induction

/-!
# Commands that overlap

A command that was accepted takes effect in two acts: first it sets the deadline
and then it queues its acknowledgement.  Nothing keeps the acts of other
commands out between them.  So the deadline is that of the command that set it
last, and the last acknowledgement is that of the command that queued last, and
these are one command exactly if the last to set is also the last to queue.
-/

namespace DrivewayWatch

namespace Control

/-- What a command that was accepted does to the server. -/
inductive Act where
  | sets
  | queues
  deriving DecidableEq

section Orders

variable {T : Type} {n : Nat}

/-- What a server is after one act of one of several orders, each a command with
the deadline that it was accepted with. -/
def perform (orders : Fin n → MuteCommand × T) (state : State T) :
    Fin n × Act → State T
  | (order, .sets) =>
      { state with mute := state.mute.setDeadline (orders order).2 }
  | (order, .queues) => push state (orders order).1.feedback

def performAll (orders : Fin n → MuteCommand × T) (state : State T)
    (deeds : List (Fin n × Act)) : State T :=
  deeds.foldl (perform orders) state

/-- Deeds in any order are an interleaving if each order does its two acts once,
one after the other. -/
def IsInterleaving (deeds : List (Fin n × Act)) : Prop :=
  ∀ order, (deeds.filter fun deed => deed.1 = order) =
    [(order, .sets), (order, .queues)]

instance (deeds : List (Fin n × Act)) : Decidable (IsInterleaving deeds) :=
  inferInstanceAs (Decidable (∀ order,
    (deeds.filter fun deed => deed.1 = order) =
      [(order, .sets), (order, .queues)]))

/-- The orders that do an act, as they come to it. -/
def doersOf (act : Act) (deeds : List (Fin n × Act)) : List (Fin n) :=
  (deeds.filter fun deed => deed.2 = act).map Prod.fst

/-- The order that is the last to do an act. -/
def lastTo (act : Act) (deeds : List (Fin n × Act)) : Option (Fin n) :=
  (doersOf act deeds).getLast?

/-- An order whose acts nothing comes between obeys like one command among
others that come one after another. -/
theorem performAll_of_accept [Timeline T] {state : State T} {now : T}
    {body : Bytes} {orders : Fin n → MuteCommand × T} {order : Fin n}
    (accepted : MuteCommand.accept state.photos now body =
      .ok (orders order)) :
    performAll orders state [(order, .sets), (order, .queues)] =
      (obey state now body).1 := by
  rw [obey, accepted]
  rfl

section Doers

variable (act : Act) (deeds : List (Fin n × Act)) (deed : Fin n × Act)

theorem doersOf_concat :
    doersOf act (deeds ++ [deed]) =
      doersOf act deeds ++ if deed.2 = act then [deed.1] else [] := by
  by_cases does : deed.2 = act <;> simp [doersOf, does]

theorem lastTo_concat :
    lastTo act (deeds ++ [deed]) =
      if deed.2 = act then some deed.1 else lastTo act deeds := by
  by_cases does : deed.2 = act <;> simp [lastTo, doersOf_concat, does]

/-- An order that begins when all others are done is the last in all. -/
theorem lastTo_of_alone (order : Fin n) :
    lastTo act (deeds ++ [(order, .sets), (order, .queues)]) = some order := by
  rw [List.append_cons, lastTo_concat]
  cases act with
  | sets => rw [if_neg nofun, lastTo_concat, if_pos rfl]
  | queues => rw [if_pos rfl]

end Doers

/-- The server that orders leave, whatever the order of their acts. -/
def afterDeeds (orders : Fin n → MuteCommand × T) (state : State T)
    (deeds : List (Fin n × Act)) : State T :=
  { state with
    mute := ⟨((lastTo .sets deeds).map fun order =>
      (orders order).2).or state.mute.deadline⟩
    queue := state.queue ++
      (doersOf .queues deeds).map fun order => (orders order).1.feedback }

theorem performAll_eq_afterDeeds (orders : Fin n → MuteCommand × T)
    {state : State T} (isHeard : state.isHeard = true)
    (deeds : List (Fin n × Act)) :
    performAll orders state deeds = afterDeeds orders state deeds := by
  induction deeds using List.reverseRecOn with
  | nil => simp [performAll, afterDeeds, lastTo, doersOf]
  | append_singleton deeds deed ih =>
      rw [performAll] at ih
      rw [performAll, List.foldl_concat, ih]
      obtain ⟨order, act⟩ := deed
      cases act with
      | sets =>
          simp [perform, afterDeeds, lastTo_concat, doersOf_concat,
            MuteWindow.setDeadline]
      | queues =>
          simp [perform, push, isHeard, afterDeeds, lastTo_concat,
            doersOf_concat]

section Interleavings

variable {deeds : List (Fin n × Act)}

theorem count_doersOf (interleaved : IsInterleaving deeds) (act : Act)
    (order : Fin n) : (doersOf act deeds).count order = 1 := by
  have ofOrder : (doersOf act deeds).count order =
      (deeds.filter fun deed => deed.1 = order).countP
        fun deed => deed.2 = act := by
    simp [doersOf, List.count, List.countP_map, List.countP_filter,
      Function.comp_def, Bool.and_comm, beq_eq_decide]
  rw [ofOrder, interleaved order]
  cases act <;> rfl

/-- Each order does each act once. -/
theorem doersOf_perm (interleaved : IsInterleaving deeds) (act : Act) :
    (doersOf act deeds).Perm (List.finRange n) := by
  rw [List.perm_iff_count]
  intro order
  rw [count_doersOf interleaved,
    List.count_eq_one_of_mem (List.nodup_finRange n) (List.mem_finRange order)]

theorem nodup_doersOf (interleaved : IsInterleaving deeds) (act : Act) :
    (doersOf act deeds).Nodup :=
  (doersOf_perm interleaved act).nodup_iff.mpr (List.nodup_finRange n)

theorem mem_doersOf (interleaved : IsInterleaving deeds) (act : Act)
    (order : Fin n) : order ∈ doersOf act deeds :=
  (doersOf_perm interleaved act).mem_iff.mpr (List.mem_finRange order)

/-- An order is the last to do an act exactly if it follows all others. -/
theorem lastTo_eq_some_iff (interleaved : IsInterleaving deeds) (act : Act)
    (order : Fin n) :
    lastTo act deeds = some order ↔
      ∀ other, other ≠ order → [other, order].Sublist (doersOf act deeds) := by
  have distinct := nodup_doersOf interleaved act
  have all := mem_doersOf interleaved act
  rw [lastTo]
  rcases List.eq_nil_or_concat (doersOf act deeds) with
    noDoers | ⟨earlier, last, doers⟩
  · simpa [noDoers] using all order
  rw [List.concat_eq_append] at doers
  rw [doers] at distinct all ⊢
  rw [List.getLast?_concat, Option.some.injEq]
  constructor
  · rintro rfl other differs
    have isEarlier : other ∈ earlier := by simpa [differs] using all other
    exact (List.singleton_sublist.mpr isEarlier).append (.refl [last])
  · intro follows
    by_contra differs
    obtain ⟨front, back, split, inEarlier, inLast⟩ :=
      List.sublist_append_iff.mp (follows last differs)
    cases front with
    | nil =>
        have tooLong := inLast.length_le
        rw [← show [last, order] = back from split] at tooLong
        simp at tooLong
    | cons first front =>
        obtain ⟨rfl, -⟩ := List.cons_eq_cons.mp split
        have twice := inEarlier.subset List.mem_cons_self
        exact (List.nodup_append.mp distinct).2.2 _ twice _
          List.mem_cons_self rfl

theorem exists_lastTo (interleaved : IsInterleaving deeds) (positive : 0 < n)
    (act : Act) : ∃ order, lastTo act deeds = some order := by
  have nonempty := List.ne_nil_of_mem
    (mem_doersOf interleaved act ⟨0, positive⟩)
  exact ⟨_, List.getLast?_eq_some_getLast nonempty⟩

end Interleavings

/-- What orders leave when all of them are done, one of them being the last to
set the deadline and one the last to queue its acknowledgement. -/
structure IsLeftBy (orders : Fin n → MuteCommand × T)
    (deeds : List (Fin n × Act)) (state last : State T)
    (setter queuer : Fin n) : Prop where
  setsLast : lastTo .sets deeds = some setter
  queuesLast : lastTo .queues deeds = some queuer
  deadline : last.mute.deadline = some (orders setter).2
  queue : last.queue = state.queue ++
    (doersOf .queues deeds).map fun order => (orders order).1.feedback
  acknowledgement : last.queue.getLast? = some (orders queuer).1.feedback

/-- The last acknowledgement matches the deadline if its command was not
overtaken.  Let commands that were accepted do their acts in any order.  Then
each of them is acknowledged once, in the order in which they queue; the
deadline is that of the last to set it, and the last acknowledgement that of the
last to queue.  They are one command exactly if all others had queued before the
last to set did; and they are if the last to begin does so when all others are
done, for then it is obeyed as if there were no others. -/
theorem last_acknowledgement_matches_iff [Timeline T]
    (orders : Fin n → MuteCommand × T)
    {deeds : List (Fin n × Act)} (interleaved : IsInterleaving deeds)
    (positive : 0 < n) {state : State T} (isHeard : state.isHeard = true) :
    ∃ setter queuer,
      IsLeftBy orders deeds state (performAll orders state deeds) setter
        queuer ∧
      (doersOf .queues deeds).Perm (List.finRange n) ∧
      (queuer = setter ↔ ∀ other, other ≠ setter →
        [other, setter].Sublist (doersOf .queues deeds)) ∧
      ∀ earlier last, deeds = earlier ++ [(last, .sets), (last, .queues)] →
        setter = last ∧ queuer = last ∧
        ∀ now body, MuteCommand.accept
            (performAll orders state earlier).photos now body =
              .ok (orders last) →
          performAll orders state deeds =
            (obey (performAll orders state earlier) now body).1 := by
  obtain ⟨setter, setsLast⟩ := exists_lastTo interleaved positive .sets
  obtain ⟨queuer, queuesLast⟩ := exists_lastTo interleaved positive .queues
  refine ⟨setter, queuer, ?_, doersOf_perm interleaved _, ?_, ?_⟩
  · rw [performAll_eq_afterDeeds orders isHeard]
    refine ⟨setsLast, queuesLast, ?_, rfl, ?_⟩
    · simp [afterDeeds, setsLast]
    · have lastQueued := queuesLast
      rw [lastTo] at lastQueued
      simp [afterDeeds, List.getLast?_append, lastQueued]
  · rw [← lastTo_eq_some_iff interleaved, queuesLast, Option.some.injEq]
  · rintro earlier last rfl
    have setsAlone := lastTo_of_alone .sets earlier last
    have queuesAlone := lastTo_of_alone .queues earlier last
    refine ⟨Option.some.inj (setsLast.symm.trans setsAlone),
      Option.some.inj (queuesLast.symm.trans queuesAlone), ?_⟩
    intro now body accepted
    rw [← performAll_of_accept accepted]
    exact List.foldl_append

end Orders

/-- Two commands about one photo: to mute for ten minutes, and a second later
to unmute. -/
def muteThenUnmute (order : Fin 2) : MuteCommand × Instant :=
  if order = 0 then (⟨"abc", 600⟩, ⟨700, 0⟩) else (⟨"abc", 0⟩, ⟨101, 0⟩)

/-- The second command does both its acts while the first is between its. -/
def overtaking : List (Fin 2 × Act) :=
  [(0, .sets), (1, .sets), (1, .queues), (0, .queues)]

/-- Three commands of which the last to begin does so when the others, which
overlap, are done. -/
theorem last_acknowledgement_matches_iff_of_three :
    let orders : Fin 3 → MuteCommand × Instant := fun order =>
      (⟨"abc", 60 * order⟩, ⟨100 + 60 * order, 0⟩)
    let deeds : List (Fin 3 × Act) :=
      [(2, .sets), (0, .sets), (0, .queues), (2, .queues)] ++
        [(1, .sets), (1, .queues)]
    let server := withPhoto none ⟨50, 0⟩
    IsInterleaving deeds ∧ 0 < 3 ∧ server.isHeard = true ∧
      IsLeftBy orders deeds server (performAll orders server deeds) 1 1 := by
  intro orders deeds server
  have interleaved : IsInterleaving deeds := by decide
  have isHeard : server.isHeard = true := rfl
  obtain ⟨setter, queuer, left, -, -, alone⟩ :=
    last_acknowledgement_matches_iff orders interleaved (by decide) isHeard
  obtain ⟨rfl, rfl, -⟩ := alone _ 1 rfl
  exact ⟨interleaved, by decide, isHeard, left⟩

/-- A command that is overtaken has the last acknowledgement, but not the
deadline: all are told that notifications are muted, and they are not. -/
theorem acknowledgement_of_overtaken_command_is_last :
    let server := withPhoto none ⟨50, 0⟩
    let last := performAll muteThenUnmute server overtaking
    MuteCommand.accept server.photos ⟨100, 0⟩ (bodyFor "600") =
        .ok (muteThenUnmute 0) ∧
      MuteCommand.accept server.photos ⟨101, 0⟩ (bodyFor "0") =
        .ok (muteThenUnmute 1) ∧
      IsInterleaving overtaking ∧
      last.queue.getLast? = some (muteThenUnmute 0).1.feedback ∧
      (muteThenUnmute 0).1.feedback ≠ (muteThenUnmute 1).1.feedback ∧
      last.mute.deadline = some (muteThenUnmute 1).2 ∧
      last.mute.isMutedAt ⟨102, 0⟩ = false := by
  decide +kernel

end Control

end DrivewayWatch
