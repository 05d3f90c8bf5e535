/-!
Writing numbers of a few bits each, in two orders: the low end of every byte first, or the
high end. Fewer than eight bits wait at any time. Codes for ranges of numbers say how many
bits tell the numbers of a range apart.
-/

namespace StreamCodec

structure BitWriter where
  out : ByteArray := ByteArray.empty
  acc : UInt64 := 0
  waiting : Nat := 0

namespace BitWriter

def spill : Nat → ByteArray → UInt64 → Nat → BitWriter
  | 0, out, acc, n => { out, acc, waiting := n }
  | k + 1, out, acc, n =>
    if n < 8 then { out, acc, waiting := n } else spill k (out.push acc.toUInt8) (acc >>> 8) (n - 8)

/-- Appends the `n` low bits of `value`, the lowest first; `n` is at most 56. -/
def push (w : BitWriter) (value n : Nat) : BitWriter :=
  let ⟨out, acc, waiting⟩ := w
  spill 8 out (acc ||| (value.toUInt64 <<< waiting.toUInt64)) (waiting + n)

def align (w : BitWriter) : BitWriter :=
  if w.waiting = 0 then w else { out := w.out.push w.acc.toUInt8 }

def append (w : BitWriter) (bytes : ByteArray) : BitWriter := { w with out := w.out ++ bytes }

def finish (w : BitWriter) : ByteArray := w.align.out

end BitWriter

structure HighBitWriter where
  out : ByteArray := ByteArray.empty
  acc : UInt64 := 0
  waiting : Nat := 0

namespace HighBitWriter

def spill : Nat → ByteArray → UInt64 → Nat → HighBitWriter
  | 0, out, acc, n => { out, acc, waiting := n }
  | k + 1, out, acc, n =>
    if n < 8 then { out, acc, waiting := n }
    else spill k (out.push (acc >>> (n - 8).toUInt64).toUInt8) acc (n - 8)

/-- Appends the `n` low bits of `value`, the highest first; `n` is at most 48. -/
def push (w : HighBitWriter) (value n : Nat) : HighBitWriter :=
  let ⟨out, acc, waiting⟩ := w
  spill 8 out ((acc <<< n.toUInt64) ||| value.toUInt64) (waiting + n)

def align (w : HighBitWriter) : HighBitWriter :=
  if w.waiting = 0 then w else w.push 0 (8 - w.waiting)

end HighBitWriter

namespace RangeCode

/-- The last entry of `codes` that starts at or below `x`, what `x` is beyond that start, and the
bits for it. -/
def find (codes : Array (Nat × Nat)) (x : Nat) : Nat × Nat × Nat :=
  let s := (codes.foldl (fun (best, i) (base, _) => (if base ≤ x then i else best, i + 1)) (0, 0)).1
  let (base, bits) := codes.getD s (0, 0)
  (s, x - base, bits)

end RangeCode

end StreamCodec
