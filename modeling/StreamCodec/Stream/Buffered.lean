import StreamCodec.Bytes
import StreamCodec.Stream.Engine

/-!
An encoder that holds its input back and packs it all at the end. Until then a call only
takes input; from then on it only hands out packed bytes.
-/

namespace StreamCodec

inductive Buffered where
  | gathering (input : ByteArray)
  | sealed (owed : Slice)

namespace Buffered

def empty : Buffered := gathering ByteArray.empty

/-- Takes all of `input`; a sealed stream takes nothing. -/
def absorb (s : Buffered) (input : Slice) : Nat × Buffered :=
  match s with
  | gathering b => (input.size, gathering (b ++ input.toBytes))
  | sealed owed => (0, sealed owed)

def close (pack : ByteArray → ByteArray) (s : Buffered) (input : Slice) : Nat × Slice :=
  match s with
  | gathering b => (input.size, { bytes := pack (b ++ input.toBytes) })
  | sealed owed => (0, owed)

/-- A step that packs what there is and hands out at most `room` bytes; it is done with the last
one. -/
def finish (pack : ByteArray → ByteArray) (s : Buffered) (input : Slice) (room : Nat) :
    Step × Buffered :=
  let (consumed, owed) := s.close pack input
  let output := owed.take room
  let owed := owed.drop output.size
  ({ consumed, output, done := owed.isEmpty }, sealed owed)

end Buffered

end StreamCodec
