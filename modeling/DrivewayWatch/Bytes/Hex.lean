import DrivewayWatch.Text.Utf8

/-!
# Hexadecimal digits

Two lowercase digits a byte when written; digits of either case when read.
-/

namespace DrivewayWatch.Hex

/-- The lowercase digit of a number below sixteen. -/
def digit (n : Nat) : Char :=
  if n < 10 then Char.ofNat ('0'.toNat + n) else Char.ofNat ('a'.toNat + (n - 10))

def digitValue? (c : Char) : Option Nat :=
  if '0' ≤ c ∧ c ≤ '9' then some (c.toNat - '0'.toNat)
  else if 'a' ≤ c ∧ c ≤ 'f' then some (c.toNat - 'a'.toNat + 10)
  else if 'A' ≤ c ∧ c ≤ 'F' then some (c.toNat - 'A'.toNat + 10)
  else none

def encode (bytes : Bytes) : List Char :=
  bytes.flatMap fun byte => [digit (byte.toNat / 16), digit (byte.toNat % 16)]

def decode : List Char → Option Bytes
  | [] => some []
  | high :: low :: rest => do
    let value := (← digitValue? high) * 16 + (← digitValue? low)
    return UInt8.ofNat value :: (← decode rest)
  | [_] => none

/-- Reads digits as a number, the most significant digit first. -/
def number? (digits : List Char) : Option Nat :=
  digits.foldlM (fun value c => (digitValue? c).map (value * 16 + ·)) 0

/-- A number of at most `width` digits, with zeros in front. -/
def padded (width n : Nat) : List Char :=
  (List.range width).reverse.map fun place => digit (n / Nat.pow 16 place % 16)

end DrivewayWatch.Hex
