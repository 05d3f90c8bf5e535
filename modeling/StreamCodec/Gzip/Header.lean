import StreamCodec.Bytes
import StreamCodec.Checksum.Crc
import StreamCodec.Level

/-!
The header of a gzip member: magic and method, a flag byte, six bytes that say nothing
about the data, and the fields that the flags announce. A prefix of a header is told
apart from bytes that no header starts with.
-/

namespace StreamCodec.Gzip

inductive Fault where
  | magic | method | reservedFlags | headerChecksum | headerTooLong | checksum | length
deriving DecidableEq, Repr

def Fault.message : Fault → String
  | magic => "invalid header"
  | method => "unsupported compression method"
  | reservedFlags => "reserved header flags set"
  | headerChecksum => "header checksum mismatch"
  | headerTooLong => "header too long"
  | checksum => "CRC-32 mismatch"
  | length => "length mismatch"

namespace Header

structure Flags where
  checksum : Bool
  extra : Bool
  name : Bool
  comment : Bool
  reserved : Bool
deriving DecidableEq, Repr

def Flags.ofByte (x : UInt8) : Flags where
  checksum := x &&& 0x02 != 0
  extra := x &&& 0x04 != 0
  name := x &&& 0x08 != 0
  comment := x &&& 0x10 != 0
  reserved := x &&& 0xe0 != 0

/-- The position behind the first zero byte among the `n` bytes from `i` on. -/
def behindZero (b : ByteArray) (i : Nat) : Nat → Option Nat
  | 0 => none
  | n + 1 => if b[i]? = some 0 then some (i + 1) else behindZero b (i + 1) n

def skipExtra (b : ByteArray) (present : Bool) (i : Nat) : Option Nat :=
  if present then
    if i + 2 ≤ b.size then some (i + 2 + Bytes.le b i 2) else none
  else some i

def skipText (b : ByteArray) (present : Bool) (i : Nat) : Option Nat :=
  if present then behindZero b i (b.size - i) else some i

/-- The position behind the header checksum at `i`, or a fault when the bytes before it have
another. -/
def skipChecksum (b : ByteArray) (present : Bool) (i : Nat) : Except Fault (Option Nat) :=
  if present then
    if i + 2 ≤ b.size then
      if Bytes.le b i 2 = (Crc32.ofBytes (b.extract 0 i)).toNat % 65536 then .ok (some (i + 2))
      else .error .headerChecksum
    else .ok none
  else .ok (some i)

def skipFields (b : ByteArray) (f : Flags) : Option Nat := do
  let i ← skipExtra b f.extra 10
  let i ← skipText b f.name i
  skipText b f.comment i

/-- The length of the header at the start of `b`: none while more bytes are needed to tell. -/
def parse (b : ByteArray) : Except Fault (Option Nat) :=
  if b[0]?.any (· != 0x1f) || b[1]?.any (· != 0x8b) then .error .magic
  else if b[2]?.any (· != 8) then .error .method
  else if b.size < 10 then .ok none
  else
    let f := Flags.ofByte (b[3]?.getD 0)
    if f.reserved then .error .reservedFlags
    else
      match skipFields b f with
      | none => .ok none
      | some i =>
        match skipChecksum b f.checksum i with
        | .error e => .error e
        | .ok none => .ok none
        | .ok (some n) => .ok (if n ≤ b.size then some n else none)

def maxSize : Nat := 128 * 1024

def levelByte : Level → UInt8
  | .fast => 4
  | .balanced => 0
  | .small => 2

/-- The header that is written: no fields, no time, made on Unix. -/
def written (level : Level) : ByteArray :=
  Bytes.ofList [0x1f, 0x8b, 8, 0, 0, 0, 0, 0, levelByte level, 3]

end Header

/-- The checksum register and the length of the data so far. -/
structure Tally where
  crc : UInt32 := Crc32.initial
  length : Nat := 0
deriving DecidableEq, Repr

namespace Tally

def add (t : Tally) (bytes : ByteArray) : Tally where
  crc := Crc32.update t.crc bytes
  length := t.length + bytes.size

def crcValue (t : Tally) : Nat := (Crc32.final t.crc).toNat

def lengthValue (t : Tally) : Nat := t.length % 0x100000000

def trailerSize : Nat := 8

def trailer (t : Tally) : ByteArray :=
  Bytes.ofList (Bytes.littleEndian 4 t.crcValue ++ Bytes.littleEndian 4 t.lengthValue)

/-- Compares a trailer with what was seen: the checksum first, then the length. -/
def check (t : Tally) (trailer : ByteArray) : Except Fault Unit :=
  if Bytes.le trailer 0 4 ≠ t.crcValue then .error .checksum
  else if Bytes.le trailer 4 4 ≠ t.lengthValue then .error .length
  else .ok ()

end Tally

end StreamCodec.Gzip
