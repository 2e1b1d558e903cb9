import DrivewayWatch.Text.Utf8

/-!
# Checksums

The cyclic redundancy check of 32 bits that protects the parts of picture files.
-/

namespace DrivewayWatch.Checksum

def shift (remainder : UInt32) : UInt32 :=
  if remainder &&& 1 == 1 then (remainder >>> 1) ^^^ 0xEDB88320 else remainder >>> 1

def step (remainder : UInt32) (byte : UInt8) : UInt32 :=
  Nat.repeat shift 8 (remainder ^^^ byte.toUInt32)

def crc32 (bytes : Bytes) : UInt32 :=
  bytes.foldl step 0xFFFFFFFF ^^^ 0xFFFFFFFF

end DrivewayWatch.Checksum
