import StreamCodec.Bzip2.Noise
import StreamCodec.Bzip2.Rotations
import StreamCodec.Checksum.Crc

/-!
The way back from a sorted block to its bytes. The rotations are walked in turn; four
equal bytes are followed by a count of further ones. The walk takes a byte in advance, so
it is at the end once it has taken one byte more than there are.
-/

namespace StreamCodec.Bzip2

structure Runs where
  column : ByteArray
  order : Array Nat
  position : Nat
  taken : Nat
  next : UInt8
  byte : UInt8
  owed : Nat
  crc : UInt32
  noise : Option Noise

namespace Runs

def take (r : Runs) : UInt8 × Runs :=
  let x := r.column[r.position]?.getD 0
  let r := { r with position := r.order.getD r.position 0, taken := r.taken + 1 }
  match r.noise with
  | none => (x, r)
  | some z =>
    let (x, z) := z.pass x
    (x, { r with noise := some z })

def start (column : ByteArray) (origin : Nat) (disturbed : Bool) : Runs :=
  let order := Rotations.order column
  let noise := if disturbed then some {} else none
  let (next, r) := take
    { column, order, position := order.getD origin 0, taken := 0, next := 0, byte := 0, owed := 0,
      crc := Crc32High.initial, noise }
  { r with next }

def atEnd (r : Runs) : Bool := r.taken = r.column.size + 1

/-- A run was cut off before its count. -/
def beyond (r : Runs) : Bool := r.column.size + 1 < r.taken

def advance (r : Runs) : Runs :=
  let x := r.next
  let (y, r) := r.take
  if y != x || r.atEnd then { r with next := y, byte := x, owed := 1 }
  else
    let (y, r) := r.take
    if y != x || r.atEnd then { r with next := y, byte := x, owed := 2 }
    else
      let (y, r) := r.take
      if y != x || r.atEnd then { r with next := y, byte := x, owed := 3 }
      else
        let (count, r) := r.take
        let (y, r) := r.take
        { r with next := y, byte := x, owed := count.toNat + 4 }

def pay (r : Runs) (n : Nat) (out : ByteArray) : Runs × ByteArray :=
  ({ r with owed := r.owed - n, crc := Nat.repeat (fun c => Crc32High.step c r.byte) n r.crc },
    Nat.repeat (fun b => b.push r.byte) n out)

/-- Hands out runs until the room is used up or the block has ended; `none` when a run was cut
off. -/
def emit : (fuel : Nat) → Runs → (room : Nat) → ByteArray → Option (Runs × ByteArray)
  | 0, r, _, out => some (r, out)
  | fuel + 1, r, room, out =>
    let n := min r.owed room
    let (r, out) := r.pay n out
    if 0 < r.owed then some (r, out)
    else if r.beyond then none
    else if r.atEnd then some (r, out)
    else emit fuel r.advance (room - n) out

def done (r : Runs) : Bool := r.owed = 0 && r.atEnd

def checksum (r : Runs) : UInt32 := Crc32High.final r.crc

end Runs

end StreamCodec.Bzip2
