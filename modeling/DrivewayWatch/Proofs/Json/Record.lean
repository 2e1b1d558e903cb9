import DrivewayWatch.Json.Decode

/-!
# Records with one field

A record of which one field is read is an object that has the field once or not
at all, or an array of at most one item.  The other members of the object are
free, except that their keys are texts.
-/

namespace DrivewayWatch

namespace Json

namespace Document

/-- A member that is skipped when a field is looked for. -/
def IsOther (name : String) (member : Option String × Document) : Prop :=
  ∃ key, member.1 = some key ∧ key ≠ name

/-- What a record has for its field: a document, or nothing if the field is left
out. -/
inductive HoldsField (name : String) : Document → Option Document → Prop
  | noMember {members : List (Option String × Document)}
      (others : ∀ member ∈ members, IsOther name member) :
      HoldsField name (.object members) none
  | member {before after : List (Option String × Document)}
      {document : Document}
      (others : ∀ member ∈ before ++ after, IsOther name member) :
      HoldsField name (.object (before ++ (some name, document) :: after))
        (some document)
  | noItem : HoldsField name (.array []) none
  | item {document : Document} :
      HoldsField name (.array [document]) (some document)

/-- What a record has for a field that is a text or `null`, and that may be left
out. -/
inductive HoldsText (name : String) (record : Document) :
    Option String → Prop
  | leftOut (found : HoldsField name record none) : HoldsText name record none
  | null (found : HoldsField name record (some .null)) :
      HoldsText name record none
  | text {content : String}
      (found : HoldsField name record (some (.string (some content)))) :
      HoldsText name record (some content)

theorem HoldsField.only (name : String) (document : Document) :
    HoldsField name (.object [(some name, document)]) (some document) :=
  @HoldsField.member name [] [] document (by simp)

theorem isOther_iff {name : String} {member : Option String × Document} :
    IsOther name member ↔
      member.1.isSome = true ∧ ¬ (member.1 == some name) = true := by
  rw [IsOther, Option.isSome_iff_exists, beq_iff_eq]
  constructor
  · rintro ⟨key, isKey, differs⟩
    exact ⟨⟨key, isKey⟩, by simpa [isKey] using differs⟩
  · rintro ⟨⟨key, isKey⟩, differs⟩
    exact ⟨key, isKey, by simpa [isKey] using differs⟩

theorem readable_of_others {members : List (Option String × Document)}
    {name : String} (others : ∀ member ∈ members, IsOther name member) :
    members.all (·.1.isSome) = true :=
  List.all_eq_true.mpr fun member mem => (isOther_iff.mp (others member mem)).1

theorem filter_of_others {members : List (Option String × Document)}
    {name : String} (others : ∀ member ∈ members, IsOther name member) :
    members.filter (·.1 == some name) = [] :=
  List.filter_eq_nil_iff.mpr fun member mem =>
    (isOther_iff.mp (others member mem)).2

/-- The members with a key that is looked for are the one that counts, or
none. -/
theorem single?_eq_some_iff {members : List (Option String × Document)}
    {name : String} {found : Option Document} :
    members.all (·.1.isSome) = true ∧ single? members name = some found ↔
      HoldsField name (.object members) found := by
  constructor
  · rintro ⟨readable, single⟩
    rw [List.all_eq_true] at readable
    have isOther {member : Option String × Document} (mem : member ∈ members)
        (differs : ¬ (member.1 == some name) = true) : IsOther name member :=
      isOther_iff.mpr ⟨readable member mem, differs⟩
    unfold single? at single
    split at single
    next kept =>
      obtain rfl : none = found := Option.some.inj single
      rw [List.filter_eq_nil_iff] at kept
      exact .noMember fun member mem => isOther mem (kept member mem)
    next key document kept =>
      obtain rfl : some document = found := Option.some.inj single
      -- The members fall apart around the only one that the filter keeps.
      obtain ⟨before, after, rfl, keptBefore, isName, keptAfter⟩ :=
        List.filter_eq_cons_iff.mp kept
      obtain rfl : key = some name := by simpa using isName
      rw [List.filter_eq_nil_iff] at keptAfter
      refine .member fun member mem => ?_
      rcases List.mem_append.mp mem with inBefore | inAfter
      · exact isOther (by simp [inBefore]) (keptBefore member inBefore)
      · exact isOther (by simp [inAfter]) (keptAfter member inAfter)
    next => cases single
  · rintro (⟨others⟩ | ⟨others⟩)
    · refine ⟨readable_of_others others, ?_⟩
      rw [single?, filter_of_others others]
    · obtain ⟨othersBefore, othersAfter⟩ := List.forall_mem_append.mp others
      simp [single?, readable_of_others othersBefore,
        readable_of_others othersAfter, filter_of_others othersBefore,
        filter_of_others othersAfter]

/-- The record of one field is read as what it has for the field. -/
theorem fields?_singleton_eq_some_iff {name : String} {record : Document}
    {fields : List (Option Document)} :
    record.fields? [name] = some fields ↔
      ∃ found, fields = [found] ∧ HoldsField name record found := by
  cases record with
  | object members =>
      simp only [fields?, List.mapM_cons, List.mapM_nil, ← single?_eq_some_iff]
      split
      next readable =>
        simp only [readable, true_and, Option.bind_eq_bind,
          Option.bind_eq_some_iff, Option.pure_def, Option.bind_some,
          Option.some.injEq]
        exact exists_congr fun found =>
          and_comm.trans (and_congr_left' eq_comm)
      next unreadable => simp [unreadable]
  | array items =>
      match items with
      | [] =>
          constructor
          · rintro ⟨⟩
            exact ⟨none, rfl, .noItem⟩
          · rintro ⟨found, rfl, ⟨⟩⟩
            rfl
      | [item] =>
          constructor
          · rintro ⟨⟩
            exact ⟨some item, rfl, .item⟩
          · rintro ⟨found, rfl, ⟨⟩⟩
            rfl
      | first :: second :: others =>
          constructor
          · intro read
            simp [fields?] at read
          · rintro ⟨found, rfl, ⟨⟩⟩
  | null | bool | number | string =>
      constructor
      · rintro ⟨⟩
      · rintro ⟨found, rfl, ⟨⟩⟩

theorem optionalText?_eq_some_iff {document : Document}
    {text : Option String} :
    document.optional? (·.text?) = some text ↔
      document = .null ∧ text = none ∨
        ∃ content, document = .string (some content) ∧ text = some content := by
  cases document with
  | null => simp [optional?, eq_comm]
  | string content =>
      cases content <;> simp [optional?, text?, eq_comm]
  | bool | number | array | object => simp [optional?, text?]

/-- A record whose only field is a text is read as what it holds for it. -/
theorem text_of_fields?_iff {name : String} {record : Document}
    {text : Option String} :
    (∃ found, record.fields? [name] = some [found] ∧
        orDefault none (·.optional? (·.text?)) found = some text) ↔
      HoldsText name record text := by
  simp only [fields?_singleton_eq_some_iff, List.cons.injEq, and_true,
    exists_eq_left']
  constructor
  · rintro ⟨found, holds, read⟩
    cases found with
    | none =>
        obtain rfl : none = text := Option.some.inj read
        exact .leftOut holds
    | some document =>
        rcases optionalText?_eq_some_iff.mp read with
          ⟨rfl, rfl⟩ | ⟨content, rfl, rfl⟩
        · exact .null holds
        · exact .text holds
  · rintro (holds | holds | holds)
    · exact ⟨none, holds, rfl⟩
    · exact ⟨_, holds, rfl⟩
    · exact ⟨_, holds, rfl⟩

end Document

end Json

end DrivewayWatch
