import DrivewayWatch.Text.Utf8

/-!
# Base 64

The standard alphabet with padding.  A reader accepts exactly what a writer produces: the length is
a multiple of four, the padding is complete, and the bits that carry nothing are zero.
-/

namespace DrivewayWatch.Base64

def digit (n : Nat) : Char :=
  if n < 26 then Char.ofNat ('A'.toNat + n)
  else if n < 52 then Char.ofNat ('a'.toNat + (n - 26))
  else if n < 62 then Char.ofNat ('0'.toNat + (n - 52))
  else if n == 62 then '+' else '/'

def digitValue? (c : Char) : Option Nat :=
  if 'A' ≤ c ∧ c ≤ 'Z' then some (c.toNat - 'A'.toNat)
  else if 'a' ≤ c ∧ c ≤ 'z' then some (c.toNat - 'a'.toNat + 26)
  else if '0' ≤ c ∧ c ≤ '9' then some (c.toNat - '0'.toNat + 52)
  else if c = '+' then some 62
  else if c = '/' then some 63
  else none

/-- Three bytes become four characters; a rest of one or two bytes is padded. -/
def encode : Bytes → List Char
  | a :: b :: c :: rest =>
    let group := (a.toNat * 256 + b.toNat) * 256 + c.toNat
    digit (group / 262144) :: digit (group / 4096 % 64) :: digit (group / 64 % 64) ::
      digit (group % 64) :: encode rest
  | [a, b] =>
    let group := (a.toNat * 256 + b.toNat) * 256
    [digit (group / 262144), digit (group / 4096 % 64), digit (group / 64 % 64), '=']
  | [a] =>
    let group := a.toNat * 65536
    [digit (group / 262144), digit (group / 4096 % 64), '=', '=']
  | [] => []

/-- The one byte of a last group of two characters. -/
def lastOne? (a b : Nat) : Option Bytes :=
  if b % 16 == 0 then some [UInt8.ofNat (a * 4 + b / 16)] else none

/-- The two bytes of a last group of three characters. -/
def lastTwo? (a b c : Nat) : Option Bytes :=
  if c % 4 == 0 then
    some [UInt8.ofNat (a * 4 + b / 16), UInt8.ofNat (b % 16 * 16 + c / 4)]
  else none

def decode : List Char → Option Bytes
  | [] => some []
  | [a, b, '=', '='] => do lastOne? (← digitValue? a) (← digitValue? b)
  | [a, b, c, '='] => do lastTwo? (← digitValue? a) (← digitValue? b) (← digitValue? c)
  | a :: b :: c :: d :: rest => do
    let group := (((← digitValue? a) * 64 + (← digitValue? b)) * 64 + (← digitValue? c)) * 64 +
      (← digitValue? d)
    return UInt8.ofNat (group / 65536) :: UInt8.ofNat (group / 256) :: UInt8.ofNat group ::
      (← decode rest)
  | _ => none

end DrivewayWatch.Base64
