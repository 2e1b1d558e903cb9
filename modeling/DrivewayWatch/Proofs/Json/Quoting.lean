import DrivewayWatch.Json.Printer
import DrivewayWatch.Proofs.Json.Tokens
import DrivewayWatch.Proofs.Text.Utf8
import Mathlib.Tactic.IntervalCases

/-!
# Quoted texts are read back

Every text can be written as a string and read from it again.  A character that
is escaped is what its escape stands for; every other one stands for itself.
-/

namespace DrivewayWatch

namespace Json

namespace Token

/-- A control character is read from the digits of its escape. -/
theorem foldlM_step?_control {code : Nat} (isControl : code < 0x20)
    (read : List Char) (tokens : List Token) :
    ('\\' :: 'u' :: Hex.padded 4 code).foldlM step?
        (.inString ⟨read, none, false⟩, tokens) =
      some (.inString ⟨Char.ofNat code :: read, none, false⟩, tokens) := by
  interval_cases code <;> rfl

/-- A character is read from its escape, or from itself. -/
theorem foldlM_step?_escaped (c : Char) (read : List Char)
    (tokens : List Token) :
    (Value.escaped c).foldlM step? (.inString ⟨read, none, false⟩, tokens) =
      some (.inString ⟨c :: read, none, false⟩, tokens) := by
  by_cases short : c ∈ ['"', '\\', '\n', '\r', '\t', '\x08', '\x0c']
  · simp only [List.mem_cons, List.not_mem_nil, or_false] at short
    rcases short with rfl | rfl | rfl | rfl | rfl | rfl | rfl <;> rfl
  · simp only [List.mem_cons, List.not_mem_nil, or_false, not_or] at short
    obtain ⟨noQuote, noBackslash, noLine, noReturn, noTab, noBack, noForm⟩ :=
      short
    unfold Value.escaped
    rw [if_neg noQuote, if_neg noBackslash, if_neg noLine, if_neg noReturn,
      if_neg noTab, if_neg noBack, if_neg noForm]
    split
    next isControl =>
      rw [foldlM_step?_control isControl, Char.ofNat_toNat]
    next noControl =>
      have plain : ∀ other ∈ [c], IsPlain other := by
        simpa [IsPlain, noQuote, noBackslash] using noControl
      exact foldlM_step?_inString plain read tokens

theorem foldlM_step?_flatMap_escaped (text read : List Char)
    (tokens : List Token) :
    (text.flatMap Value.escaped).foldlM step?
        (.inString ⟨read, none, false⟩, tokens) =
      some (.inString ⟨text.reverse ++ read, none, false⟩, tokens) := by
  induction text generalizing read with
  | nil => rfl
  | cons c text ih =>
      rw [List.flatMap_cons, List.foldlM_append, foldlM_step?_escaped,
        Option.bind_eq_bind, Option.bind_some, ih, List.reverse_cons,
        List.append_assoc, List.singleton_append]

theorem scans_quoted (content : String) :
    Scans (Value.quoted content) [.string (some content)] := by
  intro kept
  have opened : step? (.between, kept) '"' =
      some (.inString ⟨[], none, false⟩, kept) :=
    rfl
  rw [Value.quoted, List.cons_append, List.foldlM_cons, opened,
    Option.bind_eq_bind, Option.bind_some, List.foldlM_append,
    foldlM_step?_flatMap_escaped]
  simp [step?, Partial.finish]

section Written

variable {value : Value} {tokens : List Token}

theorem scans_array (scans : Scans value.write tokens) :
    Scans (Value.array [value]).write
      ([openArray] ++ tokens ++ [closeArray]) := by
  have isWritten : (Value.array [value]).write =
      ['['] ++ value.write ++ [']'] := by
    simp [Value.write, Value.writeItems, Value.commaSeparated]
  rw [isWritten]
  exact ((scans_mark rfl).append scans).append (scans_mark rfl)

theorem scans_object (key : String) (scans : Scans value.write tokens) :
    Scans (Value.object [(key, value)]).write
      ([openObject] ++ [string (some key)] ++ [colon] ++ tokens ++
        [closeObject]) := by
  have isWritten : (Value.object [(key, value)]).write =
      ['\x7b'] ++ Value.quoted key ++ [':'] ++ value.write ++ ['\x7d'] := by
    simp [Value.write, Value.writeMembers, Value.commaSeparated]
  rw [isWritten]
  exact ((((scans_mark rfl).append (scans_quoted key)).append
    (scans_mark rfl)).append scans).append (scans_mark rfl)

end Written

/-- Bytes that spell a text are scanned like it. -/
theorem scanBytes?_encode (text : List Char) :
    scanBytes? (Text.Utf8.encode text) = scan? text := by
  have sameSteps (state : Mode × List Token) :
      (text.map some).foldlM stepUnit? state = text.foldlM step? state := by
    rw [List.foldlM_map]
    rfl
  rw [scanBytes?, scan?, Text.Utf8.units_encode, sameSteps]

end Token

/-- A value that is sent as a text is read as its tokens say. -/
theorem Document.readBytes?_text {value : Value} {tokens : List Token}
    (scans : Token.Scans value.write tokens) :
    Document.readBytes? (Text.Utf8.bytesOf value.text) =
      Document.ofTokens? tokens := by
  rw [readBytes?, Text.Utf8.bytesOf, Value.text, String.toList_ofList,
    Token.scanBytes?_encode, Token.scan?_eq_some_of_scans scans]
  rfl

end Json

end DrivewayWatch
