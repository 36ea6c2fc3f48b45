import CompletionRing.Engine
import CompletionRing.Memory.Word

/-!
# Checksums

The checksum that an engine reports: the 32-bit FNV-1a hash of the unit's number in eight bytes
and the engine's number in one.
-/

namespace CompletionRing.Device

def hashOffset : UInt32 := 0x811C9DC5

def hashPrime : UInt32 := 0x01000193

def hashByte (hash : UInt32) (byte : UInt8) : UInt32 := (hash ^^^ byte.toUInt32) * hashPrime

def checksum (sequence : Nat) (engine : Engine) : UInt32 :=
  (Word.toBytes 8 sequence ++ [engine.number]).foldl hashByte hashOffset

end CompletionRing.Device
