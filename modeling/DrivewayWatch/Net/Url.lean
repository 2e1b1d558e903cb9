import DrivewayWatch.Net.Address
import DrivewayWatch.Text.Search
import DrivewayWatch.Text.CaseMap
import DrivewayWatch.Text.Utf8

/-!
# Addresses of resources

A text denotes the address of a resource if it begins with a scheme and, for the schemes of the web,
names a host.  Reading is as lenient as browsers are: blanks around the text are dropped, tabs and
line ends in it too, and slashes before the host may be missing, doubled or turned around.
-/

namespace DrivewayWatch.Net

/-- A host: a name, or an address of either version. -/
inductive Host where
  | name (name : String)
  | short (address : List Nat)
  | long (address : Ipv6)
  deriving Repr, DecidableEq

/-- What is known of the address of a resource: its scheme, and its host if it has one. -/
structure Url where
  scheme : String
  host : Option Host
  deriving Repr, DecidableEq

namespace Url

/-- Whether a character is a control character or a blank. -/
def isControlOrSpace (c : Char) : Bool :=
  c.toNat ≤ 0x20

/-- The text without blanks around it and without tabs and line ends in it. -/
def cleaned (text : List Char) : List Char :=
  let front := text.dropWhile isControlOrSpace
  let inner := (front.reverse.dropWhile isControlOrSpace).reverse
  inner.filter fun c => c != '\t' && c != '\n' && c != '\r'

/-- Takes a scheme and its colon from the front; letters are turned to lower case. -/
def scheme? (text : List Char) : Option (List Char × List Char) :=
  let isSchemeChar := fun (c : Char) => c.isAlphanum || c == '+' || c == '-' || c == '.'
  let name := text.takeWhile isSchemeChar
  match name, text.drop name.length with
  | first :: _, ':' :: rest => if first.isAlpha then some (name.map Char.toLower, rest) else none
  | _, _ => none

/-- The schemes whose addresses always have a host. -/
def isWebScheme (scheme : String) : Bool :=
  ["http", "https", "ws", "wss", "ftp"].contains scheme

/-- Whether a character is a slash of either direction. -/
def isSlash (c : Char) : Bool :=
  c == '/' || c == '\\'

/-- What stands before the path, the query or the fragment. -/
def authority (isWeb : Bool) (text : List Char) : List Char :=
  text.takeWhile fun c => !(c == '/' || c == '?' || c == '#' || (isWeb && c == '\\'))

/-- What stands behind the last character of a kind, and whether there is one. -/
def behindLast (mark : Char) (text : List Char) : List Char × Bool :=
  if text.contains mark then ((text.reverse.takeWhile (· != mark)).reverse, true)
  else (text, false)

/-- Splits a host from the port behind it; a colon between brackets belongs to the host. -/
def splitPort (isInside : Bool) : List Char → List Char × List Char
  | [] => ([], [])
  | ':' :: rest =>
    if isInside then
      let (host, port) := splitPort isInside rest
      (':' :: host, port)
    else ([], rest)
  | c :: rest =>
    let (host, port) := splitPort (if c == '[' then true else if c == ']' then false else isInside)
      rest
    (c :: host, port)

/-- Whether a text is a port, or empty. -/
def isPort (text : List Char) : Bool :=
  text.isEmpty || ((Decimal.nat? text).filter (· < 65536)).isSome

/-- Whether a character may not stand in a host that is not on the web. -/
def isForbidden (c : Char) : Bool :=
  c.toNat == 0 || "\t\n\r #/:<>?@[\\]^|".toList.contains c

/-- Whether a character may not stand in the name of a host on the web. -/
def isForbiddenInName (c : Char) : Bool :=
  isForbidden c || c.toNat ≤ 0x1F || c.toNat == 0x7F || c == '%'

/-- Resolves percent signs with two hexadecimal digits behind them. -/
def percentDecoded : List Char → Bytes
  | '%' :: a :: b :: rest =>
    match Hex.digitValue? a, Hex.digitValue? b with
    | some high, some low => UInt8.ofNat (high * 16 + low) :: percentDecoded rest
    | _, _ => Text.Utf8.encode ['%'] ++ percentDecoded (a :: b :: rest)
  | c :: rest => Text.Utf8.encode [c] ++ percentDecoded rest
  | [] => []

/-- The number that a part of a numeric host denotes, in decimal, octal or hexadecimal digits. -/
def numberPart? (part : List Char) : Option Nat :=
  match part with
  | [] => none
  | '0' :: x :: digits =>
    if x == 'x' || x == 'X' then Hex.number? digits
    else (x :: digits).foldlM (fun value c => do
      let digit ← Decimal.digitValue? c
      if digit < 8 then some (value * 8 + digit) else none) 0
  | digits => Decimal.nat? digits

/-- The parts of a text between dots; an empty last part is dropped if it is not the only one. -/
def dotted (text : List Char) : List (List Char) :=
  let parts := text.splitOn '.'
  match parts.reverse with
  | [] :: second :: others => (second :: others).reverse
  | _ => parts

/-- Whether the last part of a name makes it a numeric host. -/
def endsInNumber (text : List Char) : Bool :=
  match (dotted text).getLast? with
  | none => false
  | some part =>
    (!part.isEmpty && part.all Decimal.isDigit) ||
      (match part with
        | '0' :: x :: _ => (x == 'x' || x == 'X') && (numberPart? part).isSome
        | _ => false)

/-- The host that numbers between dots denote: the last one fills the rest of the address. -/
def numericHost? (text : List Char) : Option Host := do
  let parts := dotted text
  if 4 < parts.length then none
  else
    let numbers ← parts.mapM numberPart?
    let front := numbers.dropLast
    let last := numbers.getLast?.getD 0
    if front.all (· ≤ 255) && last < Nat.pow 256 (5 - numbers.length) then
      some (.short (front ++ [last]))
    else none

def webHost? (text : List Char) : Option Host :=
  match text with
  | '[' :: inner =>
    match Ipv6.front? inner with
    | some (address, [']']) => some (.long address)
    | _ => none
  | _ => do
    let decoded ← Text.Utf8.decode (percentDecoded text)
    let name := decoded.flatMap Text.CaseMap.lower
    if name.isEmpty || name.any isForbiddenInName then none
    else if endsInNumber name then numericHost? name
    else some (.name (String.ofList name))

def otherHost? (text : List Char) : Option Host :=
  match text with
  | '[' :: inner =>
    match Ipv6.front? inner with
    | some (address, [']']) => some (.long address)
    | _ => none
  | _ => if text.any isForbidden then none else some (.name (String.ofList text))

def hostOf? (isWeb : Bool) (authority : List Char) : Option Host :=
  let (place, hasUser) := behindLast '@' authority
  let (host, port) := splitPort false place
  if !isPort port || (host.isEmpty && (isWeb || hasUser || place.contains ':')) then none
  else if isWeb then webHost? host
  else otherHost? host

def read? (text : String) : Option Url := do
  let (name, rest) ← scheme? (cleaned text.toList)
  let scheme := String.ofList name
  if isWebScheme scheme then
    let host ← hostOf? true (authority true (rest.dropWhile isSlash))
    return ⟨scheme, some host⟩
  else
    match Text.after? ['/', '/'] rest with
    | none => return ⟨scheme, none⟩
    | some afterSlashes =>
      if scheme = "file" then return ⟨scheme, none⟩
      else
        let host ← hostOf? false (authority false afterSlashes)
        return ⟨scheme, some host⟩

/-- Whether the scheme is one of the two of the hypertext protocol. -/
def isHypertext (url : Url) : Bool :=
  url.scheme = "http" || url.scheme = "https"

/-- Why a text is no address of the hypertext protocol. -/
inductive Fault where
  | malformed
  | otherScheme
  deriving Repr, DecidableEq

/-- What is wrong with a text that should be an address of the hypertext protocol. -/
def fault? (text : String) : Option Fault :=
  match read? text with
  | none => some .malformed
  | some url => if url.isHypertext then none else some .otherScheme

end Url

/-- Whether a text begins like an address of the hypertext protocol. -/
def looksLikeHypertext (text : String) : Bool :=
  let lowered := (Text.CaseMap.lowercase text).toList
  Text.startsWith lowered "http://".toList || Text.startsWith lowered "https://".toList

end DrivewayWatch.Net
