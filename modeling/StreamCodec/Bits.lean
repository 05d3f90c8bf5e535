/-!
Bits of a byte string, by position. Two orders are in use: from the low end of each
byte upwards, and from the high end downwards. A read beyond the end is `none`; it
becomes `some` once enough bytes have arrived.
-/

namespace StreamCodec.Bits

def low? (b : ByteArray) (p : Nat) : Option Nat :=
  if h : p / 8 < b.size then some ((b[p / 8] >>> (p % 8).toUInt8) &&& 1).toNat else none

def high? (b : ByteArray) (p : Nat) : Option Nat :=
  if h : p / 8 < b.size then some ((b[p / 8] >>> (7 - p % 8).toUInt8) &&& 1).toNat else none

def littleWord (b : ByteArray) (i : Nat) : Nat → UInt64
  | 0 => 0
  | n + 1 => (b[i]?.getD 0).toUInt64 ||| (littleWord b (i + 1) n <<< 8)

def bigWord (b : ByteArray) (i : Nat) : Nat → UInt64 → UInt64
  | 0, acc => acc
  | n + 1, acc => bigWord b (i + 1) n ((acc <<< 8) ||| (b[i]?.getD 0).toUInt64)

def mask (n : Nat) : UInt64 := (1 <<< n.toUInt64) - 1

/-- The number in the `n` bits from position `p` on, first bit lowest; `n` is at most 56. -/
def takeLow? (b : ByteArray) (p n : Nat) : Option Nat :=
  if p + n ≤ 8 * b.size then
    some ((littleWord b (p / 8) ((p % 8 + n + 7) / 8) >>> (p % 8).toUInt64) &&& mask n).toNat
  else none

/-- The number in the `n` bits from position `p` on, first bit highest; `n` is at most 56. -/
def takeHigh? (b : ByteArray) (p n : Nat) : Option Nat :=
  if p + n ≤ 8 * b.size then
    let k := (p % 8 + n + 7) / 8
    some ((bigWord b (p / 8) k 0 >>> (8 * k - p % 8 - n).toUInt64) &&& mask n).toNat
  else none

def align (p : Nat) : Nat := (p + 7) / 8 * 8

end StreamCodec.Bits
