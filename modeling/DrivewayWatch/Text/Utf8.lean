/-!
# UTF-8

Strict decoding of bytes: no overlong forms, no surrogates, nothing beyond U+10FFFF.  A lenient
decoder puts a mark in place of what is not well formed.
-/

namespace DrivewayWatch

abbrev Bytes := List UInt8

namespace Text.Utf8

/-- The six low bits of a continuation byte, or `none` for any other byte. -/
def continuation? (byte : UInt8) : Option Nat :=
  if 0x80 ≤ byte.toNat && byte.toNat < 0xC0 then some (byte.toNat - 0x80) else none

/-- The character of a code point that needs at least the code point `least` in its form. -/
def scalar? (least code : Nat) : Option Char :=
  if least ≤ code ∧ code.isValidChar then some (Char.ofNat code) else none

/-- The characters that the bytes spell, or `none` if they are not well formed. -/
def decode : Bytes → Option (List Char)
  | [] => some []
  | a :: rest =>
    let lead := a.toNat
    if lead < 0x80 then (decode rest).map (Char.ofNat lead :: ·)
    else if lead < 0xC0 then none
    else if lead < 0xE0 then
      match rest with
      | b :: rest => do
        let c ← scalar? 0x80 ((lead - 0xC0) * 0x40 + (← continuation? b))
        return c :: (← decode rest)
      | _ => none
    else if lead < 0xF0 then
      match rest with
      | b :: c :: rest => do
        let code := ((lead - 0xE0) * 0x40 + (← continuation? b)) * 0x40 + (← continuation? c)
        return (← scalar? 0x800 code) :: (← decode rest)
      | _ => none
    else if lead < 0xF8 then
      match rest with
      | b :: c :: d :: rest => do
        let code := (((lead - 0xF0) * 0x40 + (← continuation? b)) * 0x40 + (← continuation? c)) *
          0x40 + (← continuation? d)
        return (← scalar? 0x10000 code) :: (← decode rest)
      | _ => none
    else none

def encode (text : List Char) : Bytes :=
  text.flatMap String.utf8EncodeChar

/-- How a character of several bytes begins: the number of bytes that follow its first one, the
value of the first one, and the range of the second one. -/
structure Lead where
  following : Nat
  value : Nat
  low : Nat
  high : Nat

/-- What the first byte of a character of several bytes tells. -/
def lead? (byte : Nat) : Option Lead :=
  if 0xC2 ≤ byte ∧ byte < 0xE0 then some ⟨1, byte - 0xC0, 0x80, 0xBF⟩
  else if 0xE0 ≤ byte ∧ byte < 0xF0 then
    some ⟨2, byte - 0xE0, if byte = 0xE0 then 0xA0 else 0x80, if byte = 0xED then 0x9F else 0xBF⟩
  else if 0xF0 ≤ byte ∧ byte < 0xF5 then
    some ⟨3, byte - 0xF0, if byte = 0xF0 then 0x90 else 0x80, if byte = 0xF4 then 0x8F else 0xBF⟩
  else none

/-- The bytes behind a first one that continue its character. -/
def continued (lead : Lead) (rest : Bytes) : List Nat :=
  match rest with
  | [] => []
  | second :: others =>
    if lead.low ≤ second.toNat ∧ second.toNat ≤ lead.high then
      second.toNat :: ((others.take (lead.following - 1)).map UInt8.toNat).takeWhile
        fun byte => 0x80 ≤ byte && byte ≤ 0xBF
    else []

/-- The character that a byte begins with the bytes behind it, `none` if they do not complete one,
and how many of these bytes belong to it. -/
def unit (byte : Nat) (rest : Bytes) : Option Char × Nat :=
  if byte < 0x80 then (some (Char.ofNat byte), 0)
  else
    match lead? byte with
    | none => (none, 0)
    | some lead =>
      let taken := continued lead rest
      if taken.length = lead.following then
        (some (Char.ofNat (taken.foldl (fun code byte => code * 0x40 + (byte - 0x80)) lead.value)),
          taken.length)
      else (none, taken.length)

/-- The characters that the bytes spell; `none` stands where they spell none. -/
def units : Bytes → List (Option Char)
  | [] => []
  | byte :: rest =>
    let (c, count) := unit byte.toNat rest
    c :: units (rest.drop count)
termination_by bytes => bytes.length
decreasing_by simp only [List.length_drop, List.length_cons]; omega

def replacement : Char := '\uFFFD'

/-- The characters that the bytes spell, with marks where they spell none. -/
def decodeLenient (bytes : Bytes) : List Char :=
  (units bytes).map (·.getD replacement)

def read? (bytes : Bytes) : Option String :=
  (decode bytes).map String.ofList

def bytesOf (text : String) : Bytes :=
  encode text.toList

end Text.Utf8

end DrivewayWatch
