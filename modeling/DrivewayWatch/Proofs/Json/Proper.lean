import DrivewayWatch.Proofs.Json.Tokens

/-!
# Proper values

An integer is kept apart from other numbers only if it fits a word of 64 bits,
with a sign if it is negative and without one if it is not.  So every part of a
value that was read is proper.
-/

namespace DrivewayWatch.Json

/-- A number in the range of its kind. -/
def Number.IsProper : Number → Prop
  | .natural n => n ≤ Word.greatestNat
  | .negative n => Word.least ≤ n ∧ n < 0
  | .real _ => True

/-- A value of which every number is in the range of its kind. -/
inductive Value.IsProper : Value → Prop
  | null : IsProper .null
  | bool (value : Bool) : IsProper (.bool value)
  | number {number : Number} (isProper : number.IsProper) :
      IsProper (.number number)
  | string (content : String) : IsProper (.string content)
  | array {items : List Value} (each : ∀ item ∈ items, IsProper item) :
      IsProper (.array items)
  | object {members : List (String × Value)}
      (each : ∀ member ∈ members, IsProper member.2) :
      IsProper (.object members)

theorem Numeral.isProper_of_value? {numeral : Numeral} {number : Number}
    (denotes : numeral.value? = some number) : number.IsProper := by
  unfold value? at denotes
  simp only at denotes
  split at denotes
  · next kept =>
      obtain rfl := Option.some.inj denotes
      simp only [Bool.and_eq_true, decide_eq_true_eq, Bool.not_eq_true',
        Bool.and_eq_false_iff, Bool.or_eq_false_iff, beq_eq_false_iff_ne,
        Bool.not_eq_false'] at kept
      obtain ⟨⟨-, small⟩, sign⟩ := kept
      cases negative : numeral.negative with
      | false => exact small
      | true =>
          rcases sign with positive | ⟨nonzero, isWord⟩
          · rw [negative] at positive
            cases positive
          · have above := (Word.isSigned_iff.mp isWord).1
            exact ⟨above, by omega⟩
  · obtain ⟨magnitude, -, ⟨⟩⟩ := Option.bind_eq_some_iff.mp denotes
    trivial

section Members

variable {members : List (String × Value)} {key : String} {value : Value}

theorem Value.isProper_of_mem_setMember
    (each : ∀ member ∈ members, member.2.IsProper) (isProper : value.IsProper) :
    ∀ member ∈ setMember members key value, member.2.IsProper := by
  intro member inside
  rw [setMember] at inside
  split at inside
  · obtain ⟨former, formerIn, rfl⟩ := List.mem_map.mp inside
    split
    · exact isProper
    · exact each former formerIn
  · rcases List.mem_append.mp inside with before | last
    · exact each member before
    · obtain rfl := List.mem_singleton.mp last
      exact isProper

theorem Value.isProper_of_mem_foldl {added : List (String × Value)}
    (each : ∀ member ∈ members, member.2.IsProper)
    (eachAdded : ∀ member ∈ added, member.2.IsProper) :
    ∀ member ∈ added.foldl (fun kept member => setMember kept member.1 member.2)
      members, member.2.IsProper := by
  induction added generalizing members with
  | nil => exact each
  | cons first rest ih =>
      obtain ⟨firstProper, restProper⟩ := List.forall_mem_cons.mp eachAdded
      exact ih (isProper_of_mem_setMember each firstProper) restProper

theorem Value.IsProper.of_field? {object : Value} (isProper : object.IsProper)
    (found : object.field? key = some value) : value.IsProper := by
  cases isProper with
  | object each =>
      obtain ⟨member, isFirst, rfl⟩ := Option.map_eq_some_iff.mp found
      exact each member (List.mem_of_find?_eq_some isFirst)
  | _ => cases found

end Members

section Documents

variable {levels : Nat}

theorem Document.isProper_of_itemsWithin?
    (nested : ∀ document value,
      Document.valueWithin? levels document = some value → value.IsProper)
    {documents : List Document} {values : List Value}
    (judged : Document.itemsWithin? levels documents = some values) :
    ∀ value ∈ values, value.IsProper := by
  induction documents generalizing values with
  | nil =>
      obtain rfl := Option.some.inj judged
      exact List.forall_mem_nil _
  | cons document documents ih =>
      simp only [Document.itemsWithin?, Option.bind_eq_bind,
        Option.bind_eq_some_iff] at judged
      obtain ⟨first, firstJudged, rest, restJudged, ⟨⟩⟩ := judged
      exact List.forall_mem_cons.mpr
        ⟨nested document first firstJudged, ih restJudged⟩

theorem Document.isProper_of_membersWithin?
    (nested : ∀ document value,
      Document.valueWithin? levels document = some value → value.IsProper)
    {documents : List (Option String × Document)}
    {members : List (String × Value)}
    (judged : Document.membersWithin? levels documents = some members) :
    ∀ member ∈ members, member.2.IsProper := by
  induction documents generalizing members with
  | nil =>
      obtain rfl := Option.some.inj judged
      exact List.forall_mem_nil _
  | cons entry documents ih =>
      obtain ⟨key, document⟩ := entry
      simp only [Document.membersWithin?, Option.bind_eq_bind,
        Option.bind_eq_some_iff] at judged
      obtain ⟨first, firstJudged, name, -, rest, restJudged, ⟨⟩⟩ := judged
      exact List.forall_mem_cons.mpr
        ⟨nested document first firstJudged, ih restJudged⟩

theorem Document.isProper_of_nested {document : Document} {value : Value}
    (nested : ∀ below, levels = below + 1 → ∀ document value,
      Document.valueWithin? below document = some value → value.IsProper)
    (judged : document.valueWithin? levels = some value) : value.IsProper := by
  cases document with
  | null =>
      rw [valueWithin?] at judged
      cases judged
      exact .null
  | bool flag =>
      rw [valueWithin?] at judged
      cases judged
      exact .bool flag
  | number numeral =>
      rw [valueWithin?] at judged
      obtain ⟨number, denotes, rfl⟩ := Option.map_eq_some_iff.mp judged
      exact .number (Numeral.isProper_of_value? denotes)
  | string content =>
      rw [valueWithin?] at judged
      obtain ⟨text, -, rfl⟩ := Option.map_eq_some_iff.mp judged
      exact .string text
  | array items =>
      cases levels with
      | zero => cases judged
      | succ below =>
          rw [valueWithin?] at judged
          obtain ⟨values, itemsJudged, rfl⟩ := Option.map_eq_some_iff.mp judged
          exact .array (isProper_of_itemsWithin? (nested below rfl) itemsJudged)
  | object members =>
      cases levels with
      | zero => cases judged
      | succ below =>
          rw [valueWithin?] at judged
          obtain ⟨kept, membersJudged, rfl⟩ := Option.map_eq_some_iff.mp judged
          exact .object (Value.isProper_of_mem_foldl (List.forall_mem_nil _)
            (isProper_of_membersWithin? (nested below rfl) membersJudged))

/-- By induction on the levels: what is nested in a document is judged with one
level less. -/
theorem Document.isProper_of_valueWithin? {document : Document} {value : Value}
    (judged : document.valueWithin? levels = some value) : value.IsProper := by
  induction levels generalizing document value with
  | zero =>
      refine isProper_of_nested ?_ judged
      rintro below ⟨⟩
  | succ levels ih =>
      refine isProper_of_nested ?_ judged
      rintro below same document value judgedBelow
      obtain rfl := Nat.succ.inj same
      exact ih judgedBelow

theorem Value.isProper_of_read? {text : List Char} {value : Value}
    (isRead : Value.read? text = some value) : value.IsProper := by
  obtain ⟨document, -, judged⟩ := Option.bind_eq_some_iff.mp isRead
  exact Document.isProper_of_valueWithin? judged

end Documents

end DrivewayWatch.Json
