/-!
Repetitions in a byte string. A greedy walk looks up where the next three bytes were
seen last and takes the longest copy from there.
-/

namespace StreamCodec

/-- One unit of a parse: a byte as it is, or a copy of earlier bytes. -/
inductive Piece where
  | literal (x : UInt8)
  | copy (length distance : Nat)
deriving DecidableEq, Repr

namespace Piece

def tableSize : Nat := 32768

def slot (b : ByteArray) (i : Nat) : Nat :=
  let x := (b[i]?.getD 0).toUInt32 ||| ((b[i + 1]?.getD 0).toUInt32 <<< 8) |||
    ((b[i + 2]?.getD 0).toUInt32 <<< 16)
  ((x * 0x9e3779b1) >>> 17).toNat

def agree (b : ByteArray) (i j : Nat) : Nat → Nat → Nat
  | 0, n => n
  | left + 1, n => if b[i + n]? = b[j + n]? then agree b i j left (n + 1) else n

def enter (b : ByteArray) (table : Array Nat) (i : Nat) : Nat → Array Nat
  | 0 => table
  | n + 1 => enter b (table.setIfInBounds (slot b i) (i + 1)) (i + 1) n

/-- The parse of the bytes from `i` on. `table` holds one more than the last position of each
slot. -/
def parseFrom (b : ByteArray) (longest farthest : Nat) :
    (fuel i : Nat) → Array Nat → Array Piece → Array Piece
  | 0, _, _, acc => acc
  | fuel + 1, i, table, acc =>
    if b.size ≤ i then acc
    else
      let s := slot b i
      let seen := table.getD s 0
      let n := if 0 < seen ∧ i + 1 - seen ≤ farthest then
        agree b (seen - 1) i (min longest (b.size - i)) 0 else 0
      if 4 ≤ n then
        parseFrom b longest farthest fuel (i + n) (enter b table i n)
          (acc.push (.copy n (i + 1 - seen)))
      else
        parseFrom b longest farthest fuel (i + 1) (table.setIfInBounds s (i + 1))
          (acc.push (.literal (b[i]?.getD 0)))

/-- Splits `b` into literals and copies of 4 to `longest` bytes from at most `farthest` back. -/
def parse (b : ByteArray) (longest farthest : Nat) : Array Piece :=
  parseFrom b longest farthest b.size 0 (Array.replicate tableSize 0) #[]

end Piece

end StreamCodec
