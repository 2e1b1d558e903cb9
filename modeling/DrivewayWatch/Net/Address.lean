import DrivewayWatch.Bytes.Hex
import DrivewayWatch.Number.Decimal

/-!
# Internet addresses

Addresses of both versions of the Internet Protocol, and sockets: an address with a port.  Octets
are written without leading zeros.  In the long form at most one run of zero groups is left out,
and the last two groups may be written like a short address.
-/

namespace DrivewayWatch.Net

/-- An address of four octets. -/
structure Ipv4 where
  a : Nat
  b : Nat
  c : Nat
  d : Nat
  deriving Repr, DecidableEq

/-- An address of eight groups of sixteen bits. -/
structure Ipv6 where
  groups : List Nat
  deriving Repr, DecidableEq

/-- An address with a port.  A long address may name the zone that it belongs to. -/
inductive Socket where
  | short (address : Ipv4) (port : Nat)
  | long (address : Ipv6) (zone port : Nat)
  deriving Repr, DecidableEq

namespace Ipv4

def octet? (text : List Char) : Option (Nat × List Char) := do
  let digits := text.takeWhile Decimal.isDigit
  let value ← Decimal.nat? digits
  if 255 < value || (digits.length > 1 && digits.head? == some '0') then none
  else return (value, text.drop digits.length)

def nextOctet? : List Char → Option (Nat × List Char)
  | '.' :: rest => octet? rest
  | _ => none

def front? (text : List Char) : Option (Ipv4 × List Char) := do
  let (a, rest) ← octet? text
  let (b, rest) ← nextOctet? rest
  let (c, rest) ← nextOctet? rest
  let (d, rest) ← nextOctet? rest
  return (⟨a, b, c, d⟩, rest)

def text (address : Ipv4) : List Char :=
  ([address.a, address.b, address.c, address.d].map Decimal.digits).intersperse ['.'] |>.flatten

/-- The two groups that an address is in the long form. -/
def groups (address : Ipv4) : List Nat :=
  [address.a * 256 + address.b, address.c * 256 + address.d]

end Ipv4

namespace Ipv6

/-- Takes a group of one to four hexadecimal digits from the front. -/
def group? (text : List Char) : Option (Nat × List Char) := do
  let digits := text.takeWhile fun c => (Hex.digitValue? c).isSome
  if digits.isEmpty || 4 < digits.length then none
  else return (← Hex.number? digits, text.drop digits.length)

/-- Takes a colon from the front, except before the first group. -/
def separator? (isFirst : Bool) (text : List Char) : Option (List Char) :=
  if isFirst then some text
  else match text with
    | ':' :: rest => some rest
    | _ => none

/-- Takes groups from the front, at most `room` of them, and tells whether the last two were
written like a short address. -/
def groupsFront (isFirst : Bool) : (room : Nat) → List Char → List Nat × Bool × List Char
  | 0, text => ([], false, text)
  | room + 1, text =>
    match separator? isFirst text with
    | none => ([], false, text)
    | some rest =>
      match if room = 0 then none else Ipv4.front? rest with
      | some (address, rest) => (address.groups, true, rest)
      | none =>
        match group? rest with
        | none => ([], false, text)
        | some (group, rest) =>
          let (others, isShort, rest) := groupsFront false room rest
          (group :: others, isShort, rest)

def front? (text : List Char) : Option (Ipv6 × List Char) :=
  let (front, isShort, rest) := groupsFront true 8 text
  if front.length = 8 then some (⟨front⟩, rest)
  else if isShort then none
  else match rest with
    | ':' :: ':' :: rest =>
      let (back, _, rest) := groupsFront true (8 - (front.length + 1)) rest
      some (⟨front ++ List.replicate (8 - front.length - back.length) 0 ++ back⟩, rest)
    | _ => none

def joined (groups : List Nat) : List Char :=
  let shown := fun n => ((Hex.padded 4 n).dropWhile (· == '0'))
  let group := fun n => if n == 0 then ['0'] else shown n
  ((groups.map group).intersperse [':']).flatten

/-- The longest run of zero groups: its place and its length.  The first of several counts. -/
def longestZeros (place start length : Nat) (best : Nat × Nat) : List Nat → Nat × Nat
  | [] => best
  | group :: groups =>
    if group == 0 then
      let start := if length == 0 then place else start
      let best := if best.2 < length + 1 then (start, length + 1) else best
      longestZeros (place + 1) start (length + 1) best groups
    else longestZeros (place + 1) start 0 best groups

def text (address : Ipv6) : List Char :=
  match address.groups with
  | [0, 0, 0, 0, 0, 0xFFFF, high, low] =>
    "::ffff:".toList ++ Ipv4.text ⟨high / 256, high % 256, low / 256, low % 256⟩
  | groups =>
    let (start, length) := longestZeros 0 0 0 (0, 0) groups
    if length < 2 then joined groups
    else joined (groups.take start) ++ ':' :: ':' :: joined (groups.drop (start + length))

end Ipv6

namespace Socket

def port? : List Char → Option Nat
  | ':' :: digits => (Decimal.nat? digits).filter (· < 65536)
  | _ => none

/-- Takes the zone of an address from the front; zero if there is none. -/
def zone? : List Char → Option (Nat × List Char)
  | '%' :: rest => do
    let digits := rest.takeWhile Decimal.isDigit
    let zone ← Decimal.nat? digits
    if zone < 4294967296 then some (zone, rest.drop digits.length) else none
  | text => some (0, text)

def read? : List Char → Option Socket
  | '[' :: text => do
    let (address, rest) ← Ipv6.front? text
    let (zone, rest) ← zone? rest
    match rest with
    | ']' :: rest => return long address zone (← port? rest)
    | _ => none
  | text => do
    let (address, rest) ← Ipv4.front? text
    return short address (← port? rest)

def text : Socket → String
  | short address port => String.ofList (address.text ++ ':' :: Decimal.digits port)
  | long address zone port =>
    let suffix := if zone == 0 then [] else '%' :: Decimal.digits zone
    String.ofList ('[' :: address.text ++ suffix ++ ']' :: ':' :: Decimal.digits port)

end Socket

end DrivewayWatch.Net
