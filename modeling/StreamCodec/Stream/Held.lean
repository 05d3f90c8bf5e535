import StreamCodec.Bits
import StreamCodec.Bytes

/-!
Input that an engine has taken and not used up. The next call reads on from there: the
held bytes and the offered ones are one byte string, and a bit position in it says how
far reading has come.
-/

namespace StreamCodec

structure Held where
  bytes : ByteArray := ByteArray.empty
  bit : Nat := 0

namespace Held

def join (h : Held) (input : Slice) : ByteArray × Nat :=
  if h.bytes.size = 0 ∧ input.start = 0 then (input.bytes, h.bit)
  else (h.bytes ++ input.toBytes, h.bit)

/-- All of the joined bytes are taken, and reading has come to `pos`. -/
def keepAll (joined : ByteArray) (pos : Nat) : Held where
  bytes := joined.extract (pos / 8) joined.size
  bit := pos % 8

/-- The bytes up to `pos` are taken, the last one in part perhaps. -/
def keepPart (joined : ByteArray) (pos : Nat) : Held where
  bytes := joined.extract (pos / 8) ((pos + 7) / 8)
  bit := pos % 8

/-- The bytes up to `pos` are taken, and those that had been taken before. -/
def keepTo (h : Held) (joined : ByteArray) (pos : Nat) : Held where
  bytes := joined.extract (pos / 8) (max ((pos + 7) / 8) h.bytes.size)
  bit := pos % 8

def takenTo (h : Held) (pos : Nat) : Nat := (pos + 7) / 8 - h.bytes.size

end Held

end StreamCodec
