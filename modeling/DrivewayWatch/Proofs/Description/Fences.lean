import DrivewayWatch.Description.Answer
import DrivewayWatch.Proofs.Json.Keys
import DrivewayWatch.Proofs.Text.Blank
import DrivewayWatch.Proofs.Text.Search

/-!
# Answers in fences

A model may put its answer into the fences of a code block.  What stands between
them is the answer, whatever blank characters surround it and the fences; only
the name of the language is taken for a part of the opening fence wherever it
follows that fence.  A text that is a description stands in an object under
`desc`, beside a type or an error.
-/

namespace DrivewayWatch

namespace Description

open Json Text

section Fences

variable {before inner text back : List Char}

theorem trim_fences (inner : List Char) :
    trim (fence ++ inner ++ fence) = fence ++ inner ++ fence := by
  have tickKept : isBlank (Char.ofNat 0x60) = false := by decide
  have enclosed := trim_enclosed tickKept tickKept
    (List.replicate 2 (Char.ofNat 0x60) ++ inner ++
      List.replicate 2 (Char.ofNat 0x60))
  simpa [fence, List.replicate] using enclosed

/-- Between the fences there is no need for a blank character. -/
theorem unfenced_of_afterFence (beforeBlank : IsBlank before)
    (backBlank : IsBlank back)
    (opened : afterFence (fence ++ inner ++ fence) = text ++ fence) :
    unfenced (before ++ (fence ++ inner ++ fence) ++ back) = trim text := by
  rw [unfenced, trim_append beforeBlank _ backBlank, trim_fences, opened,
    beforeFence, before?_append, Option.getD_some]

theorem afterFence_named (text : List Char) :
    afterFence (fence ++ ("json".toList ++ text) ++ fence) = text ++ fence := by
  have split : fence ++ ("json".toList ++ text) ++ fence =
      (fence ++ "json".toList) ++ (text ++ fence) := by
    simp only [List.append_assoc]
  rw [afterFence, split, after?_append]

/-- No letter of the language's name is blank or a part of a fence. -/
theorem not_mem_of_mem_language (backBlank : IsBlank back) :
    ∀ c ∈ "json".toList, c ∉ back ++ fence := by
  intro c inName inBack
  have letters : ("json".toList.all fun c =>
      !isBlank c && !fence.contains c) = true := by
    decide
  obtain ⟨notBlank, notFence⟩ :=
    (Bool.and_eq_true _ _).mp (List.all_eq_true.mp letters c inName)
  rcases List.mem_append.mp inBack with inBlank | inFence
  · rw [backBlank c inBlank] at notBlank
    cases notBlank
  · rw [List.contains_iff_mem.mpr inFence] at notFence
    cases notFence

theorem afterFence_bare (unnamed : ¬ "json".toList <+: text ++ fence) :
    afterFence (fence ++ text ++ fence) = text ++ fence := by
  have noName : after? (fence ++ "json".toList) (fence ++ (text ++ fence)) =
      none :=
    after?_eq_none_of_not_prefix fun begins =>
      unnamed ((List.prefix_append_right_inj fence).mp begins)
  rw [List.append_assoc, afterFence, noName, after?_append, Option.getD_some]

/-- A text without fences is only trimmed. -/
theorem unfenced_of_plain (noOpening : ¬ fence <+: trim text)
    (noClosing : ¬ fence <:+ trim text) : unfenced text = trim text := by
  have noName : after? (fence ++ "json".toList) (trim text) = none :=
    after?_eq_none_of_not_prefix fun begins =>
      noOpening ((List.prefix_append _ _).trans begins)
  rw [unfenced, afterFence, noName, after?_eq_none_of_not_prefix noOpening,
    Option.getD_none, beforeFence, before?_eq_none_of_not_suffix noClosing,
    Option.getD_none, trim_trim]

end Fences

theorem ofOutput_congr {first second : List Char}
    (same : unfenced first = unfenced second) :
    ofOutput first = ofOutput second := by
  rw [ofOutput, ofOutput, same]

section Objects

variable {members : List (String × Value)} {description : String}

/-- What an object has to hold to be read as a description. -/
structure Describes (members : List (String × Value))
    (description : String) : Prop where
  kind : ∃ key value, (key, value) ∈ members ∧ (key = "type" ∨ key = "error")
  text : ("desc", .string description) ∈ members
  useful : description ≠ "" ∧ description ≠ "unknown"

theorem kind_iff (nodup : (members.map Prod.fst).Nodup) :
    (((Value.object members).field? "type").isNone &&
        ((Value.object members).field? "error").isNone) = false ↔
      ∃ key value, (key, value) ∈ members ∧ (key = "type" ∨ key = "error") := by
  rw [Bool.and_eq_false_iff, Option.isNone_eq_false_iff,
    Option.isNone_eq_false_iff, Value.isSome_field?_iff_mem nodup,
    Value.isSome_field?_iff_mem nodup]
  constructor
  · rintro (⟨value, inside⟩ | ⟨value, inside⟩)
    · exact ⟨_, value, inside, .inl rfl⟩
    · exact ⟨_, value, inside, .inr rfl⟩
  · rintro ⟨_, value, inside, rfl | rfl⟩
    · exact .inl ⟨value, inside⟩
    · exact .inr ⟨value, inside⟩

/-- A description stands in a string; for anything else there is a word that is
none. -/
theorem text?_getD_eq_iff {found : Option Value}
    (known : description ≠ "unknown") :
    (found.bind Value.text?).getD "unknown" = description ↔
      found = some (.string description) := by
  cases found with
  | none => simp [known.symm]
  | some value => cases value <;> simp [Value.text?, known.symm]

theorem ofAnswer_object_eq_ok_iff (nodup : (members.map Prod.fst).Nodup) :
    ofAnswer (.object members) = .ok description ↔
      Describes members description := by
  have isText (known : description ≠ "unknown") :
      (((Value.object members).field? "desc").bind Value.text?).getD
          "unknown" = description ↔
        ("desc", .string description) ∈ members :=
    (text?_getD_eq_iff known).trans (Value.field?_eq_some_iff_mem nodup)
  rw [ofAnswer]
  split
  next missing =>
    constructor
    · rintro ⟨⟩
    · intro describes
      rw [(kind_iff nodup).mpr describes.kind] at missing
      cases missing
  next present =>
    have kind := (kind_iff nodup).mp (Bool.eq_false_iff.mpr present)
    simp only
    split
    next useless =>
      constructor
      · rintro ⟨⟩
      · rintro ⟨-, text, useful⟩
        rw [(isText useful.2).mpr text] at useless
        exact absurd useless (not_or.mpr useful)
    next useful =>
      constructor
      · intro isRead
        have same := Except.ok.inj isRead
        rw [same] at useful
        have useful := not_or.mp useful
        exact ⟨kind, (isText useful.2).mp same, useful⟩
      · rintro ⟨-, text, useful⟩
        exact congrArg Except.ok ((isText useful.2).mpr text)

theorem ofOutput_eq_ok_iff {output : List Char} :
    ofOutput output = .ok description ↔
      ∃ members, Value.read? (unfenced output) = some (.object members) ∧
        Describes members description := by
  rw [ofOutput]
  cases read : Value.read? (unfenced output) with
  | none => simp
  | some answer =>
      cases answer with
      | object members =>
          simp only [Option.some.injEq, Value.object.injEq, exists_eq_left']
          exact ofAnswer_object_eq_ok_iff (Value.nodup_keys_of_read? read)
      | _ => simp [ofAnswer]

end Objects

/-- Fences do not change what an answer means.  A text that has no fences itself
comes to the same result inside them, with any blank characters around it and
around the fences.  So it does if the opening fence names no language, unless
the text itself begins with the name.  The result is a description exactly if
what is left without fences is an object that has a type or an error and holds
the description, which is not empty and not the word for something unknown. -/
theorem fences_do_not_change_meaning {text : List Char}
    (noOpening : ¬ fence <+: trim text) (noClosing : ¬ fence <:+ trim text)
    {before inFront behind back : List Char} (beforeBlank : IsBlank before)
    (inFrontBlank : IsBlank inFront) (behindBlank : IsBlank behind)
    (backBlank : IsBlank back) :
    ofOutput (before ++ fence ++ "json".toList ++ inFront ++ text ++ behind ++
        fence ++ back) = ofOutput text ∧
      (¬ "json".toList <+: inFront ++ text →
        ofOutput (before ++ fence ++ inFront ++ text ++ behind ++ fence ++
          back) = ofOutput text) ∧
      ∀ output description, ofOutput output = .ok description ↔
        ∃ members, Value.read? (unfenced output) = some (.object members) ∧
          (∃ key value, (key, value) ∈ members ∧
            (key = "type" ∨ key = "error")) ∧
          ("desc", .string description) ∈ members ∧
          description ≠ "" ∧ description ≠ "unknown" := by
  have plain : unfenced text = trim text :=
    unfenced_of_plain noOpening noClosing
  have inside : trim (inFront ++ text ++ behind) = unfenced text := by
    rw [plain, trim_append inFrontBlank text behindBlank]
  refine ⟨ofOutput_congr ?_, fun unnamed => ofOutput_congr ?_, ?_⟩
  · have opened := unfenced_of_afterFence beforeBlank backBlank
      (afterFence_named (inFront ++ text ++ behind))
    rw [inside] at opened
    simpa only [List.append_assoc] using opened
  · have stillUnnamed :
        ¬ "json".toList <+: inFront ++ text ++ behind ++ fence := by
      rw [List.append_assoc]
      exact fun begins => unnamed
        (isPrefix_of_append begins (not_mem_of_mem_language behindBlank))
    have opened := unfenced_of_afterFence beforeBlank backBlank
      (afterFence_bare stillUnnamed)
    rw [inside] at opened
    simpa only [List.append_assoc] using opened
  · intro output description
    rw [ofOutput_eq_ok_iff]
    refine exists_congr fun members => and_congr_right fun _ => ?_
    constructor
    · rintro ⟨kind, text, useful⟩
      exact ⟨kind, text, useful⟩
    · rintro ⟨kind, text, useful⟩
      exact ⟨kind, text, useful⟩

/-- An answer that tells of a fence, inside fences without any blank
character. -/
theorem fences_do_not_change_meaning_of_sign :
    let answer :=
      "\x7b\"type\": \"car\", \"desc\": \"a \x60\x60\x60 sign\"\x7d".toList
    ¬ fence <+: trim answer ∧ ¬ fence <:+ trim answer ∧
      ofOutput answer = .ok "a \x60\x60\x60 sign" ∧
      ofOutput (fence ++ "json".toList ++ answer ++ fence) = ofOutput answer ∧
      ofOutput (fence ++ answer ++ fence) = ofOutput answer := by
  intro answer
  have noOpening : ¬ fence <+: trim answer := by decide +kernel
  have noClosing : ¬ fence <:+ trim answer := by decide +kernel
  have nothing : IsBlank [] := List.forall_mem_nil _
  obtain ⟨named, bare, -⟩ := fences_do_not_change_meaning noOpening noClosing
    nothing nothing nothing nothing
  have unnamed : ¬ "json".toList <+: [] ++ answer := by decide +kernel
  refine ⟨noOpening, noClosing, by decide +kernel, ?_, ?_⟩
  · simpa only [List.nil_append, List.append_nil] using named
  · simpa only [List.nil_append, List.append_nil] using bare unnamed

end Description

end DrivewayWatch
