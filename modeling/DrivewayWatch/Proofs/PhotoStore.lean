import DrivewayWatch.PhotoStore
import DrivewayWatch.Proofs.Keyed
import DrivewayWatch.Proofs.Time.Elapsed

/-!
# Records that are found

A store is keyed if no two of its records have one id; inserting and pruning
keep it so.  In a keyed store pruning removes what is expired and hides nothing
else: `get?_prune`.  A record that is expired once stays expired, so pruning at
an earlier time removes no record that is alive later.
-/

namespace DrivewayWatch

namespace PhotoStore

variable {T : Type}

/-- A store is keyed if its records have different ids. -/
def IsKeyed (store : PhotoStore T) : Prop :=
  (store.records.map (·.id)).Nodup

theorem isKeyed_empty : (empty : PhotoStore T).IsKeyed :=
  List.nodup_nil

theorem IsKeyed.insert {store : PhotoStore T} (keyed : store.IsKeyed)
    (record : PhotoRecord T) : (store.insert record).IsKeyed :=
  nodup_keys_replaced keyed record

/-- A record that is inserted is found under its id, and the others as before. -/
theorem get?_insert (store : PhotoStore T) (record : PhotoRecord T)
    (id : String) :
    (store.insert record).get? id =
      if record.id = id then some record else store.get? id := by
  rw [get?, PhotoStore.insert, List.find?_append]
  by_cases sameId : record.id = id
  · subst sameId
    have noOther : (store.records.filter (·.id != record.id)).find?
        (·.id == record.id) = none := by
      rw [List.find?_eq_none]
      intro other kept hasId
      simpa [beq_iff_eq.mp hasId] using (List.mem_filter.mp kept).2
    rw [noOther, if_pos rfl]
    simp
  · have others : (store.records.filter (·.id != record.id)).find?
        (·.id == id) = store.get? id := by
      rw [List.find?_filter, get?]
      congr 1
      funext other
      by_cases hasId : other.id = id
      · simp [hasId, Ne.symm sameId]
      · simp [hasId]
    rw [others, if_neg sameId]
    simp [sameId]

variable [Timeline T]

theorem IsKeyed.prune {store : PhotoStore T} (keyed : store.IsKeyed)
    (now : T) : (store.prune now).IsKeyed :=
  keyed.sublist (List.filter_sublist.map _)

/-- A record of an id is alive if it is not expired. -/
def IsAlive (store : PhotoStore T) (now : T) (id : String) : Prop :=
  ∃ record, store.get? id = some record ∧ record.isExpired now = false

/-- There may also be a record that is expired and was not pruned yet. -/
def IsLingering (store : PhotoStore T) (now : T) (id : String) : Prop :=
  ∃ record, store.get? id = some record ∧ record.isExpired now = true

omit [Timeline T] in
theorem contains_iff {store : PhotoStore T} {id : String} :
    store.contains id = true ↔ ∃ record, store.get? id = some record := by
  rw [contains, Option.isSome_iff_exists]

/-- There is a record of an id exactly if one is alive or lingers. -/
theorem contains_iff_alive_or_lingering {store : PhotoStore T} (now : T)
    {id : String} :
    store.contains id = true ↔
      store.IsAlive now id ∨ store.IsLingering now id := by
  rw [contains_iff]
  constructor
  · rintro ⟨record, found⟩
    cases expired : record.isExpired now with
    | false => exact .inl ⟨record, found, expired⟩
    | true => exact .inr ⟨record, found, expired⟩
  · rintro (⟨record, found, -⟩ | ⟨record, found, -⟩) <;> exact ⟨record, found⟩

theorem not_isAlive_of_isLingering {store : PhotoStore T} {now : T}
    {id : String} (lingers : store.IsLingering now id) :
    ¬ store.IsAlive now id := by
  rintro ⟨record, found, notExpired⟩
  obtain ⟨other, otherFound, expired⟩ := lingers
  obtain rfl := Option.some.inj (found.symm.trans otherFound)
  rw [notExpired] at expired
  cases expired

/-- What is alive and what there is are the same exactly for the ids of which no
record lingers. -/
theorem isAlive_iff_contains_iff {store : PhotoStore T} (now : T)
    {id : String} :
    (store.IsAlive now id ↔ store.contains id = true) ↔
      ¬ store.IsLingering now id := by
  rw [contains_iff_alive_or_lingering now]
  constructor
  · intro same lingers
    exact not_isAlive_of_isLingering lingers (same.mpr (.inr lingers))
  · intro noneLingers
    constructor
    · exact .inl
    · intro isThere
      exact isThere.resolve_right noneLingers

/-- Pruning a keyed store removes the records that are expired, and hides
nothing else. -/
theorem get?_prune {store : PhotoStore T} (keyed : store.IsKeyed) (now : T)
    (id : String) :
    (store.prune now).get? id =
      (store.get? id).filter fun record => !record.isExpired now := by
  obtain ⟨records⟩ := store
  simp only [get?, PhotoStore.prune]
  simp only [IsKeyed] at keyed
  induction records with
  | nil => rfl
  | cons record records ih =>
      obtain ⟨isNew, keyedRest⟩ := List.nodup_cons.mp keyed
      have found := ih keyedRest
      by_cases sameId : record.id = id
      · subst sameId
        -- No other record has the id, so none comes in place of this one.
        have noOther : records.find? (·.id == record.id) = none := by
          rw [List.find?_eq_none]
          intro other member hasId
          refine isNew (List.mem_map.mpr ⟨other, member, ?_⟩)
          simpa using hasId
        rw [noOther] at found
        rw [List.find?_cons_of_pos (by simp)]
        cases expired : record.isExpired now with
        | true =>
            rw [List.filter_cons_of_neg (by simp [expired]), found,
              Option.filter_some_neg (by simp [expired])]
            rfl
        | false =>
            rw [List.filter_cons_of_pos (by simp [expired]),
              List.find?_cons_of_pos (by simp),
              Option.filter_some_pos (by simp [expired])]
      · cases expired : record.isExpired now with
        | true => simpa [expired, sameId] using found
        | false => simpa [expired, sameId] using found

theorem contains_prune_iff {store : PhotoStore T} (keyed : store.IsKeyed)
    {now : T} {id : String} :
    (store.prune now).contains id = true ↔ store.IsAlive now id := by
  rw [contains_iff, IsAlive, get?_prune keyed]
  simp [Option.filter_eq_some_iff]

end PhotoStore

section NewRecords

variable {T : Type} [Timeline T] {id : String} {taken : T}
  {photo : Option Bytes}

/-- A record lasts for a day, to an instant that can be named. -/
theorem PhotoRecord.new?_eq_some_iff {record : PhotoRecord T} :
    new? id taken photo = some record ↔
      ∃ expires, Timeline.inSeconds? taken 86400 = some expires ∧
        record = ⟨id, expires, photo⟩ := by
  rw [new?, Option.map_eq_some_iff]
  exact exists_congr fun _ => and_congr_right fun _ => eq_comm

theorem PhotoRecord.new?_eq_none_iff :
    new? id taken photo = none ↔ Timeline.inSeconds? taken 86400 = none :=
  Option.map_eq_none_iff

end NewRecords

theorem PhotoRecord.isExpired_of_earlier {record : PhotoRecord Instant}
    {earlier now : Instant} (inOrder : ¬ now < earlier)
    (expired : record.isExpired earlier = true) :
    record.isExpired now = true := by
  simp only [isExpired, decide_eq_true_eq] at expired ⊢
  rw [Instant.lt_iff] at *
  omega

/-- A record that lingers still does so later. -/
theorem PhotoStore.IsLingering.later {store : PhotoStore Instant}
    {earlier now : Instant} {id : String}
    (lingers : store.IsLingering earlier id) (inOrder : ¬ now < earlier) :
    store.IsLingering now id := by
  obtain ⟨record, found, expired⟩ := lingers
  exact ⟨record, found, PhotoRecord.isExpired_of_earlier inOrder expired⟩

end DrivewayWatch
