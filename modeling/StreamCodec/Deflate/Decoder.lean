import StreamCodec.Deflate.Inflate
import StreamCodec.Stream.Native
import StreamCodec.Stream.Held

/-!
The inflate engine. Output that the window of a call cannot take is owed, and as long as
some is owed a call hands out only that. A rejected stream stays rejected.
-/

namespace StreamCodec.Deflate

structure Decoder where
  core : Inflate
  held : Held := {}
  owed : Slice := { bytes := ByteArray.empty }
  ended : Bool := false
  failed : Bool := false

namespace Decoder

def start (framed : Bool) : Decoder := { core := Inflate.start framed }

def rejection : Refusal := .data "deflate decompression error"

structure Burst where
  core : Inflate
  pos : Nat
  out : ByteArray
  owed : Slice
  halt : Inflate.Halt

/-- Runs until the window of `room` bytes is full, the input is used up, or the stream ends; a run
that fills the ring and is not the last hands out a byte at least, so `fuel` is `room + 1`. -/
def bursts (input : ByteArray) : (fuel : Nat) → Inflate → (pos room : Nat) → ByteArray → Burst
  | 0, core, pos, _, out => { core, pos, out, owed := { bytes := ByteArray.empty }, halt := .full }
  | fuel + 1, core, pos, room, out =>
    let (core, pos, written, halt) := core.run input pos
    let n := min written.size room
    let out := out ++ written.extract 0 n
    let owed : Slice := { bytes := written, start := n }
    if halt = .full ∧ owed.isEmpty ∧ n < room ∧ (pos + 7) / 8 < input.size then
      bursts input fuel core pos (room - n) out
    else { core, pos, out, owed, halt }

def decode (s : Decoder) (input : Slice) (room : Nat) : Answer × Decoder :=
  if s.failed then (.error rejection, s)
  else if !s.owed.isEmpty then
    let out := s.owed.take room
    let owed := s.owed.drop out.size
    (.ok { consumed := 0, output := out, done := s.ended && owed.isEmpty }, { s with owed })
  else
    let ⟨core, held, _, _, _⟩ := s
    let (joined, pos) := held.join input
    let b := bursts joined (room + 1) core pos room ByteArray.empty
    match b.halt with
    | .bad => (.error rejection, { core := b.core, failed := true })
    | .short =>
      (.ok (.progress input.size b.out),
        { core := b.core, held := Held.keepAll joined b.pos, owed := b.owed })
    | .full =>
      (.ok (.progress (held.takenTo b.pos) b.out),
        { core := b.core, held := Held.keepPart joined b.pos, owed := b.owed })
    | .ended =>
      (.ok { consumed := held.takenTo b.pos, output := b.out, done := b.owed.isEmpty },
        { core := b.core, held := Held.keepPart joined b.pos, owed := b.owed, ended := true })

def engine (framed : Bool) : NativeDecoder :=
  { State := Decoder, fresh := start framed, run := decode }

end Decoder

end StreamCodec.Deflate
