import DrivewayWatch.Bytes.Hex

/-!
# Identifiers

Detections are told apart by identifiers of 32 hexadecimal digits.  They are made of random bits,
six of which are replaced by a mark that says so.
-/

namespace DrivewayWatch.Identifier

def bitCount : Nat := 128

/-- A number with the bits from a place on, `count` of them, replaced by a value. -/
def withBits (number place count value : Nat) : Nat :=
  let above := Nat.pow 2 (place + count)
  let below := Nat.pow 2 place
  number / above * above + value * below + number % below

def ofRandom (bits : Nat) : String :=
  let number := withBits (withBits (bits % Nat.pow 2 bitCount) 76 4 4) 62 2 2
  String.ofList (Hex.padded 32 number)

end DrivewayWatch.Identifier
