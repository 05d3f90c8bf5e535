/-!
Cyclic redundancy checks. A register starts with all bits set and is complemented at the end;
between the two it can be fed piece by piece. CRC-32 has the reflected polynomial `edb88320`,
CRC-64 the reflected polynomial `c96c5795d7870f42`, and the CRC-32 that takes the high end of
each byte first has the polynomial `04c11db7`.
-/

namespace StreamCodec

namespace Crc32

def shift (c : UInt32) : UInt32 := if c &&& 1 = 1 then (c >>> 1) ^^^ 0xedb88320 else c >>> 1

def entry (i : Nat) : UInt32 := Nat.repeat shift 8 i.toUInt32

def table : Array UInt32 := Array.ofFn fun i : Fin 256 => entry i

def initial : UInt32 := 0xffffffff

def step (c : UInt32) (b : UInt8) : UInt32 :=
  table.getD ((c ^^^ b.toUInt32) &&& 0xff).toNat 0 ^^^ (c >>> 8)

def update (c : UInt32) (bytes : ByteArray) : UInt32 := bytes.data.foldl step c

def final (c : UInt32) : UInt32 := c ^^^ 0xffffffff

def ofBytes (bytes : ByteArray) : UInt32 := final (update initial bytes)

theorem update_append (c : UInt32) (a b : ByteArray) :
    update c (a ++ b) = update (update c a) b := by
  simp [update, ByteArray.data_append]

end Crc32

namespace Crc32High

def shift (c : UInt32) : UInt32 :=
  if c &&& 0x80000000 = 0 then c <<< 1 else (c <<< 1) ^^^ 0x04c11db7

def entry (i : Nat) : UInt32 := Nat.repeat shift 8 (i.toUInt32 <<< 24)

def table : Array UInt32 := Array.ofFn fun i : Fin 256 => entry i

def initial : UInt32 := 0xffffffff

def step (c : UInt32) (b : UInt8) : UInt32 :=
  (c <<< 8) ^^^ table.getD ((c >>> 24) ^^^ b.toUInt32).toNat 0

def update (c : UInt32) (bytes : ByteArray) : UInt32 := bytes.data.foldl step c

def final (c : UInt32) : UInt32 := c ^^^ 0xffffffff

/-- Takes the checksum of one more part into the checksum of all parts. -/
def combine (all part : UInt32) : UInt32 := ((all <<< 1) ||| (all >>> 31)) ^^^ part

end Crc32High

namespace Crc64

def shift (c : UInt64) : UInt64 := if c &&& 1 = 1 then (c >>> 1) ^^^ 0xc96c5795d7870f42 else c >>> 1

def entry (i : Nat) : UInt64 := Nat.repeat shift 8 i.toUInt64

def table : Array UInt64 := Array.ofFn fun i : Fin 256 => entry i

def initial : UInt64 := 0xffffffffffffffff

def step (c : UInt64) (b : UInt8) : UInt64 :=
  table.getD ((c ^^^ b.toUInt64) &&& 0xff).toNat 0 ^^^ (c >>> 8)

def update (c : UInt64) (bytes : ByteArray) : UInt64 := bytes.data.foldl step c

def final (c : UInt64) : UInt64 := c ^^^ 0xffffffffffffffff

def ofBytes (bytes : ByteArray) : UInt64 := final (update initial bytes)

end Crc64

end StreamCodec
