import StreamCodec.Bytes

/-!
Writing answers into a range code. The code is a number whose digits are bytes; the last
digit that is not 255, and the 255s behind it, wait as long as a carry may reach them.
-/

namespace StreamCodec.Lzma

/-- A range code that is being written; `low` has room for a carry above its 32 bits, and `cache` is
the digit that waits. -/
structure RangeWriter where
  low : UInt64 := 0
  range : UInt32 := 0xffffffff
  cache : UInt8 := 0
  waiting : Nat := 1
  out : ByteArray := ByteArray.empty

namespace RangeWriter

/-- Moves the highest digit of the low end out. -/
def shift (w : RangeWriter) : RangeWriter :=
  let ⟨low, range, cache, waiting, out⟩ := w
  if low < 0xff000000 || 0xffffffff < low then
    let carry := (low >>> 32).toUInt8
    let out := Nat.repeat (fun o => o.push (0xff + carry)) (waiting - 1) (out.push (cache + carry))
    { low := (low &&& 0xffffff) <<< 8, range, cache := (low >>> 24).toUInt8, waiting := 1, out }
  else { low := (low &&& 0xffffff) <<< 8, range, cache, waiting := waiting + 1, out }

def settle (w : RangeWriter) : RangeWriter :=
  if w.range < 0x1000000 then { w with range := w.range <<< 8 }.shift else w

def answer (w : RangeWriter) (odds : Nat) (bit : Bool) : RangeWriter :=
  let ⟨low, range, cache, waiting, out⟩ := w
  let bound := (range >>> 11) * odds.toUInt32
  settle (if bit then { low := low + bound.toUInt64, range := range - bound, cache, waiting, out }
    else { low, range := bound, cache, waiting, out })

def even (w : RangeWriter) (bit : Bool) : RangeWriter :=
  let ⟨low, range, cache, waiting, out⟩ := w
  let half := range >>> 1
  settle { low := if bit then low + half.toUInt64 else low, range := half, cache, waiting, out }

def finish (w : RangeWriter) : ByteArray := (Nat.repeat shift 5 w).out

end RangeWriter

end StreamCodec.Lzma
