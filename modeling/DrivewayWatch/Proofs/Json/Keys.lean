import DrivewayWatch.Json.Value
import Mathlib.Data.List.Nodup

/-!
# Keys of objects

In an object that was read no key stands twice, since of several members with
one key only the last is kept.  So the field of a key is the member that has it,
wherever that stands.
-/

namespace DrivewayWatch.Json.Value

variable {members : List (String × Value)} {key : String} {value : Value}

theorem nodup_keys_setMember (nodup : (members.map Prod.fst).Nodup) :
    ((setMember members key value).map Prod.fst).Nodup := by
  rw [setMember]
  by_cases present : members.any (·.1 == key) = true
  · have sameKeys : (members.map fun member =>
        if member.1 == key then (key, value) else member).map Prod.fst =
          members.map Prod.fst := by
      rw [List.map_map]
      apply List.map_congr_left
      intro member _
      by_cases isKey : member.1 = key
      · simp [isKey]
      · simp [isKey]
    rw [if_pos present, sameKeys]
    exact nodup
  · have isNew : key ∉ members.map Prod.fst := by
      intro isOld
      obtain ⟨member, inside, rfl⟩ := List.mem_map.mp isOld
      exact present (List.any_eq_true.mpr ⟨member, inside, beq_self_eq_true _⟩)
    rw [if_neg present, List.map_append, List.map_singleton,
      ← List.concat_eq_append]
    exact nodup.concat isNew

theorem nodup_keys_foldl {added : List (String × Value)}
    (nodup : (members.map Prod.fst).Nodup) :
    ((added.foldl (fun kept member => setMember kept member.1 member.2)
      members).map Prod.fst).Nodup := by
  induction added generalizing members with
  | nil => exact nodup
  | cons first rest ih => exact ih (nodup_keys_setMember nodup)

theorem nodup_keys_of_read? {text : List Char}
    (isRead : read? text = some (.object members)) :
    (members.map Prod.fst).Nodup := by
  obtain ⟨document, -, judged⟩ := Option.bind_eq_some_iff.mp isRead
  -- Only the document of an object has an object as its value.
  cases document with
  | object entries =>
      rw [Document.value?, nestingLimit, Document.valueWithin?] at judged
      obtain ⟨added, -, isObject⟩ := Option.map_eq_some_iff.mp judged
      obtain rfl := Value.object.inj isObject
      exact nodup_keys_foldl List.nodup_nil
  | array items =>
      rw [Document.value?, nestingLimit, Document.valueWithin?] at judged
      obtain ⟨values, -, ⟨⟩⟩ := Option.map_eq_some_iff.mp judged
  | number numeral =>
      rw [Document.value?, Document.valueWithin?] at judged
      obtain ⟨number, -, ⟨⟩⟩ := Option.map_eq_some_iff.mp judged
  | string content =>
      rw [Document.value?, Document.valueWithin?] at judged
      obtain ⟨text, -, ⟨⟩⟩ := Option.map_eq_some_iff.mp judged
  | null | bool =>
      rw [Document.value?, Document.valueWithin?] at judged
      cases judged

theorem field?_eq_some_iff_mem (nodup : (members.map Prod.fst).Nodup) :
    (object members).field? key = some value ↔ (key, value) ∈ members := by
  induction members with
  | nil => simp [field?]
  | cons member members ih =>
      obtain ⟨first, content⟩ := member
      rw [List.map_cons, List.nodup_cons] at nodup
      obtain ⟨notAgain, nodup⟩ := nodup
      have rest := ih nodup
      simp only [field?] at rest ⊢
      by_cases isKey : first = key
      · subst isKey
        have notInRest : (first, value) ∉ members := fun inside =>
          notAgain (List.mem_map.mpr ⟨_, inside, rfl⟩)
        simp [notInRest, eq_comm]
      · simp [isKey, Ne.symm isKey, ← rest]

theorem isSome_field?_iff_mem (nodup : (members.map Prod.fst).Nodup) :
    ((object members).field? key).isSome = true ↔
      ∃ value, (key, value) ∈ members := by
  simp only [Option.isSome_iff_exists, field?_eq_some_iff_mem nodup]

theorem exists_object_of_field? {found : Value}
    (isFound : found.field? key = some value) :
    ∃ members, found = .object members := by
  cases found with
  | object members => exact ⟨members, rfl⟩
  | _ => cases isFound

/-- A text under a key is found by looking it up. -/
theorem exists_members_of_text {text : List Char} {content : String}
    (isText : ((read? text).bind (·.field? key)).bind text? = some content) :
    ∃ members, read? text = some (.object members) ∧
      (key, .string content) ∈ members := by
  obtain ⟨value, isField, isText⟩ := Option.bind_eq_some_iff.mp isText
  obtain ⟨found, isRead, isField⟩ := Option.bind_eq_some_iff.mp isField
  obtain ⟨members, rfl⟩ := exists_object_of_field? isField
  refine ⟨members, isRead, ?_⟩
  rw [field?_eq_some_iff_mem (nodup_keys_of_read? isRead)] at isField
  cases value with
  | string other =>
      obtain rfl := Option.some.inj isText
      exact isField
  | _ => cases isText

end DrivewayWatch.Json.Value
