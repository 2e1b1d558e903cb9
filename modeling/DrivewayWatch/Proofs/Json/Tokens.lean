import DrivewayWatch.Json.Value
import DrivewayWatch.Proofs.Number.Decimal
import Mathlib.Data.List.TakeWhile

/-!
# Texts and the tokens they spell

What a scan makes of a text does not depend on the tokens before it, so scans of
adjacent texts are put together by `Scans.append`.  Marks, plain strings and
words are the smallest texts; an integer is a word, and its value is itself.
-/

namespace DrivewayWatch

theorem Word.isSigned_iff {n : Int} :
    isSigned n = true ↔ least ≤ n ∧ n ≤ greatest := by
  rw [isSigned, Bool.and_eq_true, decide_eq_true_eq, decide_eq_true_eq]

namespace Json

namespace Token

/-- A text spells tokens if a scan that meets it between two tokens adds these. -/
def Scans (text : List Char) (tokens : List Token) : Prop :=
  ∀ kept, text.foldlM step? (.between, kept) =
    some (.between, tokens.reverse ++ kept)

theorem Scans.append {first second : List Char} {tokens later : List Token}
    (firstScans : Scans first tokens) (secondScans : Scans second later) :
    Scans (first ++ second) (tokens ++ later) := by
  intro kept
  rw [List.foldlM_append, firstScans kept, Option.bind_eq_bind,
    Option.bind_some, secondScans, List.reverse_append, List.append_assoc]

theorem scan?_eq_some_of_scans {text : List Char} {tokens : List Token}
    (scans : Scans text tokens) : scan? text = some tokens := by
  rw [scan?, scans []]
  simp [finish?]

theorem start?_mark {c : Char} {token : Token} (isMark : mark? c = some token)
    (tokens : List Token) :
    start? tokens c = some (.between, token :: tokens) := by
  unfold mark? at isMark
  split at isMark <;> cases isMark <;> rfl

theorem not_isWordChar_mark {c : Char} {token : Token}
    (isMark : mark? c = some token) : isWordChar c = false := by
  unfold mark? at isMark
  split at isMark <;> cases isMark <;> rfl

theorem scans_mark {c : Char} {token : Token} (isMark : mark? c = some token) :
    Scans [c] [token] := by
  intro kept
  simp [step?, start?_mark isMark]

/-- A character that stands for itself in a string. -/
def IsPlain (c : Char) : Prop :=
  c ≠ '"' ∧ c ≠ '\\' ∧ 0x20 ≤ c.toNat

theorem foldlM_step?_inString {text : List Char}
    (plain : ∀ c ∈ text, IsPlain c) (read : List Char) (tokens : List Token) :
    text.foldlM step? (.inString ⟨read, none, false⟩, tokens) =
      some (.inString ⟨text.reverse ++ read, none, false⟩, tokens) := by
  induction text generalizing read with
  | nil => rfl
  | cons c text ih =>
      obtain ⟨⟨noQuote, noEscape, noControl⟩, others⟩ :=
        List.forall_mem_cons.mp plain
      have one : step? (.inString ⟨read, none, false⟩, tokens) c =
          some (.inString ⟨c :: read, none, false⟩, tokens) := by
        simp [step?, noQuote, noEscape, Nat.not_lt.mpr noControl, Partial.push]
      rw [List.foldlM_cons, one, Option.bind_eq_bind, Option.bind_some,
        ih others, List.reverse_cons, List.append_assoc, List.singleton_append]

theorem scans_string {text : List Char} (plain : ∀ c ∈ text, IsPlain c) :
    Scans ('"' :: (text ++ ['"'])) [.string (some (String.ofList text))] := by
  intro kept
  have opened : step? (.between, kept) '"' =
      some (.inString ⟨[], none, false⟩, kept) :=
    rfl
  rw [List.foldlM_cons, opened, Option.bind_eq_bind, Option.bind_some,
    List.foldlM_append, foldlM_step?_inString plain]
  simp [step?, Partial.finish]

theorem foldlM_step?_word {text : List Char}
    (inWord : ∀ c ∈ text, isWordChar c = true) (read : List Char)
    (tokens : List Token) :
    text.foldlM step? (.word read, tokens) =
      some (.word (text.reverse ++ read), tokens) := by
  induction text generalizing read with
  | nil => rfl
  | cons c text ih =>
      obtain ⟨first, others⟩ := List.forall_mem_cons.mp inWord
      have one : step? (.word read, tokens) c =
          some (.word (c :: read), tokens) := by
        simp [step?, first]
      rw [List.foldlM_cons, one, Option.bind_eq_bind, Option.bind_some,
        ih others, List.reverse_cons, List.append_assoc, List.singleton_append]

theorem start?_wordChar {c : Char} (inWord : isWordChar c = true)
    (tokens : List Token) : start? tokens c = some (.word [c], tokens) := by
  have noBlank : isBlank c = false := by
    by_contra blank
    simp only [isBlank, Bool.not_eq_false, Bool.or_eq_true, beq_iff_eq]
      at blank
    rcases blank with ((rfl | rfl) | rfl) | rfl <;> cases inWord
  have noQuote : c ≠ '"' := by
    rintro rfl
    cases inWord
  rw [start?, noBlank, if_neg (by decide), if_neg noQuote, if_pos inWord]

/-- A word ends where a mark follows. -/
theorem scans_word_mark {word : List Char} {document : Document} {c : Char}
    {token : Token} (nonempty : word ≠ [])
    (inWord : ∀ c ∈ word, isWordChar c = true)
    (spelled : word? word = some document) (isMark : mark? c = some token) :
    Scans (word ++ [c]) [.scalar document, token] := by
  intro kept
  obtain ⟨first, rest, rfl⟩ := List.exists_cons_of_ne_nil nonempty
  obtain ⟨firstIn, restIn⟩ := List.forall_mem_cons.mp inWord
  have opened : step? (.between, kept) first = some (.word [first], kept) :=
    start?_wordChar firstIn kept
  rw [List.cons_append, List.foldlM_cons, opened, Option.bind_eq_bind,
    Option.bind_some, List.foldlM_append, foldlM_step?_word restIn]
  simp [step?, not_isWordChar_mark isMark, spelled, start?_mark isMark]

end Token

namespace Numeral

/-- The numeral that an integer is written as. -/
def ofInt (n : Int) : Numeral :=
  ⟨n < 0, Decimal.digits n.natAbs, none, none⟩

theorem spanDigits_digits (n : Nat) :
    spanDigits (Decimal.digits n) = (Decimal.digits n, []) := by
  have all : ∀ c ∈ Decimal.digits n, Decimal.isDigit c = true := fun c member =>
    Decimal.isDigit_of_mem_digits member
  rw [spanDigits, List.takeWhile_eq_self_iff.mpr all,
    List.dropWhile_eq_nil_iff.mpr all]

/-- The digits of a number pass for the whole part of a numeral. -/
theorem whole_digits (n : Nat) :
    ((Decimal.digits n).isEmpty || (decide ((Decimal.digits n).length > 1) &&
      (Decimal.digits n).head? == some '0')) = false := by
  have noZero := Decimal.head?_digits_of_one_lt_length (n := n)
  have nonempty := Decimal.digits_ne_nil n
  by_cases several : 1 < (Decimal.digits n).length
  · simp [nonempty, noZero several]
  · simp [nonempty, several]

theorem read?_ofInt (n : Int) : read? (Decimal.ofInt n) = some (ofInt n) := by
  by_cases negative : n < 0
  · rw [Decimal.ofInt, if_pos negative, ofInt, decide_eq_true negative, read?]
    simp only [spanDigits_digits, whole_digits]
    rfl
  · rw [Decimal.ofInt, if_neg negative, ofInt, decide_eq_false negative]
    have span := spanDigits_digits n.natAbs
    have whole := whole_digits n.natAbs
    have isDigit (c : Char) (member : c ∈ Decimal.digits n.natAbs) :=
      Decimal.isDigit_of_mem_digits member
    revert span whole isDigit
    cases Decimal.digits n.natAbs with
    | nil =>
        intro _ whole
        cases whole
    | cons c rest =>
        intro span whole isDigit
        have noSign : ∀ other, c :: rest = '-' :: other → False := by
          rintro _ ⟨⟩
          cases isDigit _ List.mem_cons_self
        simp only [read?, span, whole]
        rfl

theorem value?_ofInt {n : Int} (isWord : Word.isSigned n = true) :
    (ofInt n).value? =
      some (if n < 0 then .negative n else .natural n.toNat) := by
  obtain ⟨above, below⟩ := Word.isSigned_iff.mp isWord
  have small : n.natAbs ≤ limit := by
    simp only [limit, Word.greatestNat, Word.least, Word.greatest] at *
    omega
  by_cases negative : n < 0
  · have nonzero : n.natAbs ≠ 0 := by omega
    have value : -(n.natAbs : Int) = n := by omega
    simp only [value?, ofInt, negative, Decimal.readFrom?_digits, small,
      Option.getD_some, value, isWord, decide_true, Option.isNone_none,
      Bool.not_true, beq_false_of_ne nonzero]
    rfl
  · have value : n.natAbs = n.toNat := by omega
    rw [value] at small
    simp [value?, ofInt, negative, small, value]

end Numeral

namespace Token

theorem isWordChar_of_isDigit {c : Char} (digit : Decimal.isDigit c = true) :
    isWordChar c = true := by
  have isDigit : c.isDigit = true := by
    simp only [Decimal.isDigit, Decimal.digitValue?, Option.isSome_ite,
      Char.le_def] at digit
    simpa [Char.isDigit] using digit
  simp [isWordChar, Char.isAlphanum, isDigit]

theorem isWordChar_of_mem_ofInt {n : Int} {c : Char}
    (member : c ∈ Decimal.ofInt n) : isWordChar c = true := by
  rcases Decimal.isDigit_or_eq_of_mem_ofInt member with digit | rfl
  · exact isWordChar_of_isDigit digit
  · rfl

/-- A text with any other character is not the notation of an integer. -/
theorem ofInt_ne_of_mem {word : List Char} {c : Char} (member : c ∈ word)
    (noDigit : Decimal.isDigit c = false) (noSign : c ≠ '-') (n : Int) :
    Decimal.ofInt n ≠ word := by
  rintro rfl
  exact Decimal.not_mem_ofInt noDigit noSign n member

theorem word?_ofInt (n : Int) :
    word? (Decimal.ofInt n) = some (.number (.ofInt n)) := by
  have notTrue : Decimal.ofInt n ≠ "true".toList :=
    ofInt_ne_of_mem (c := 'e') (by decide) rfl (by decide) n
  have notFalse : Decimal.ofInt n ≠ "false".toList :=
    ofInt_ne_of_mem (c := 'e') (by decide) rfl (by decide) n
  have notNull : Decimal.ofInt n ≠ "null".toList :=
    ofInt_ne_of_mem (c := 'u') (by decide) rfl (by decide) n
  rw [word?, if_neg notTrue, if_neg notFalse, if_neg notNull,
    Numeral.read?_ofInt, Option.map_some]

end Token

end Json

end DrivewayWatch
