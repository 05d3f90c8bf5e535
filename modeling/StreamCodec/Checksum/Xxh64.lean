import StreamCodec.Bytes

/-!
The 64-bit xxHash with seed zero: four lanes over stripes of 32 bytes, a merge, the
tail in words of 8, 4 and 1 bytes, and a final mix.
-/

namespace StreamCodec.Xxh64

def prime1 : UInt64 := 0x9e3779b185ebca87
def prime2 : UInt64 := 0xc2b2ae3d27d4eb4f
def prime3 : UInt64 := 0x165667b19e3779f9
def prime4 : UInt64 := 0x85ebca77c2b2ae63
def prime5 : UInt64 := 0x27d4eb2f165667c5

def rotl (x : UInt64) (n : UInt64) : UInt64 := (x <<< n) ||| (x >>> (64 - n))

def round (acc input : UInt64) : UInt64 := rotl (acc + input * prime2) 31 * prime1

def merge (acc lane : UInt64) : UInt64 := (acc ^^^ round 0 lane) * prime1 + prime4

structure Lanes where
  a : UInt64 := prime1 + prime2
  b : UInt64 := prime2
  c : UInt64 := 0
  d : UInt64 := 0 - prime1

namespace Lanes

def stripe (l : Lanes) (bytes : ByteArray) (i : Nat) : Lanes where
  a := round l.a (Bytes.le bytes i 8).toUInt64
  b := round l.b (Bytes.le bytes (i + 8) 8).toUInt64
  c := round l.c (Bytes.le bytes (i + 16) 8).toUInt64
  d := round l.d (Bytes.le bytes (i + 24) 8).toUInt64

def merged (l : Lanes) : UInt64 :=
  let h := rotl l.a 1 + rotl l.b 7 + rotl l.c 12 + rotl l.d 18
  merge (merge (merge (merge h l.a) l.b) l.c) l.d

end Lanes

def stripes (bytes : ByteArray) : Nat → Nat → Lanes → Lanes
  | 0, _, l => l
  | n + 1, i, l => stripes bytes n (i + 32) (l.stripe bytes i)

def eights (bytes : ByteArray) : (n i : Nat) → UInt64 → UInt64
  | 0, _, h => h
  | n + 1, i, h =>
    eights bytes n (i + 8) (rotl (h ^^^ round 0 (Bytes.le bytes i 8).toUInt64) 27 * prime1 + prime4)

def ones (bytes : ByteArray) : (n i : Nat) → UInt64 → UInt64
  | 0, _, h => h
  | n + 1, i, h =>
    ones bytes n (i + 1) (rotl (h ^^^ (Bytes.le bytes i 1).toUInt64 * prime5) 11 * prime1)

def tail (bytes : ByteArray) (h : UInt64) (i left : Nat) : UInt64 :=
  let h := eights bytes (left / 8) i h
  let i := i + left / 8 * 8
  let left := left % 8
  if 4 ≤ left then
    let h := rotl (h ^^^ (Bytes.le bytes i 4).toUInt64 * prime1) 23 * prime2 + prime3
    ones bytes (left - 4) (i + 4) h
  else ones bytes left i h

def avalanche (h : UInt64) : UInt64 :=
  let h := (h ^^^ (h >>> 33)) * prime2
  let h := (h ^^^ (h >>> 29)) * prime3
  h ^^^ (h >>> 32)

def ofBytes (bytes : ByteArray) : UInt64 :=
  let n := bytes.size / 32
  let h := if n = 0 then prime5 else (stripes bytes n 0 {}).merged
  avalanche (tail bytes (h + bytes.size.toUInt64) (32 * n) (bytes.size % 32))

end StreamCodec.Xxh64
