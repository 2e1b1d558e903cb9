/-!
# Words

Ranges of the integers that fit words of 64 bits.
-/

namespace DrivewayWatch.Word

def least : Int := -9223372036854775808

def greatest : Int := 9223372036854775807

def greatestNat : Nat := 18446744073709551615

def count : Nat := 18446744073709551616

def isSigned (n : Int) : Bool :=
  least ≤ n && n ≤ greatest

def isUnsigned (n : Int) : Bool :=
  0 ≤ n && n ≤ greatestNat

end DrivewayWatch.Word
