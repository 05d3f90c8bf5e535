import StreamCodec.Bzip2.BlockWriter
import StreamCodec.Checksum.Crc
import StreamCodec.Level
import StreamCodec.Stream.Native

/-!
The bzip2 encoder. Input gathers in a block, with four equal bytes and a count for longer
runs, until the block is full or the end is asked for. While a block is handed out no
input is taken. A run that is not complete when a block is full goes into the next one.
-/

namespace StreamCodec.Bzip2

/-- A block as it fills, and the run that has not been put into it. -/
structure Gathered where
  block : ByteArray := ByteArray.empty
  crc : UInt32 := Crc32High.initial
  byte : UInt8 := 0
  run : Nat := 0

namespace Gathered

def settle (g : Gathered) : Gathered :=
  let ⟨block, crc, byte, run⟩ := g
  let block := Nat.repeat (fun b => b.push byte) (min run 4) block
  { block := if run < 4 then block else block.push (run - 4).toUInt8
    crc := Nat.repeat (fun c => Crc32High.step c byte) run crc
    byte, run := 0 }

def add (g : Gathered) (x : UInt8) : Gathered :=
  if g.run = 0 then { g with byte := x, run := 1 }
  else if x != g.byte || g.run = 255 then { g.settle with byte := x, run := 1 }
  else { g with run := g.run + 1 }

def take (input : ByteArray) (limit : Nat) : (n : Nat) → (i : Nat) → Gathered → Gathered × Nat
  | 0, i, g => (g, i)
  | n + 1, i, g =>
    if limit ≤ g.block.size then (g, i) else take input limit n (i + 1) (g.add (input[i]?.getD 0))

end Gathered

namespace Encoder

def unitsOf : Level → Nat
  | .fast => 1
  | .balanced => 6
  | .small => 9

inductive Stage where
  | gathering
  | writing (last : Bool)

end Encoder

structure Encoder where
  units : Nat
  gathered : Gathered := {}
  fresh : Bool := true
  combined : UInt32 := 0
  acc : UInt64 := 0
  waiting : Nat := 0
  owed : Slice := { bytes := ByteArray.empty }
  stage : Encoder.Stage := .gathering
  closing : Bool := false

namespace Encoder

def start (level : Level) : Encoder := { units := unitsOf level }

def limit (units : Nat) : Nat := 100000 * units - 19

/-- Writes the block, after the start of the stream if it is the first one, and before its end if it
is the last one. -/
def write (s : Encoder) (last : Bool) : Encoder :=
  let ⟨units, ⟨block, crc, byte, run⟩, fresh, combined, acc, waiting, _, _, closing⟩ := s
  let w : HighBitWriter := { acc, waiting }
  let w := if fresh then w.push (0x425a6830 + units) 32 else w
  let crc := Crc32High.final crc
  let combined := if block.size = 0 then combined else Crc32High.combine combined crc
  let w := if block.size = 0 then w else BlockWriter.putBlock w block crc
  let w := if last then ((w.push 0x177245385090 48).push combined.toNat 32).align else w
  { units, gathered := { byte, run }, fresh := false, combined, acc := w.acc, waiting := w.waiting
    owed := { bytes := w.out }, stage := .writing last, closing }

/-- Takes input from place `i` on and hands out blocks, until one or the other can go no further. -/
def turns (input : ByteArray) (room : Nat) :
    (fuel : Nat) → Encoder → (i : Nat) → ByteArray → Encoder × Nat × ByteArray
  | 0, s, i, out => (s, i, out)
  | fuel + 1, s, i, out =>
    match s.stage with
    | .writing last =>
      let part := s.owed.take (room - out.size)
      let owed := s.owed.drop part.size
      let out := out ++ part
      if last || !owed.isEmpty then ({ s with owed }, i, out)
      else turns input room fuel { s with owed, stage := .gathering } i out
    | .gathering =>
      let ⟨units, gathered, fresh, combined, acc, waiting, owed, stage, closing⟩ := s
      let (gathered, i) := Gathered.take input (limit units) (input.size - i) i gathered
      let isFull : Bool := limit units ≤ gathered.block.size
      let s : Encoder := ⟨units, gathered, fresh, combined, acc, waiting, owed, stage, closing⟩
      if closing && input.size ≤ i then
        turns input room fuel (({ s with gathered := gathered.settle } : Encoder).write true) i out
      else if isFull then turns input room fuel (s.write false) i out
      else (s, i, out)

def ended (s : Encoder) : Bool :=
  match s.stage with
  | .writing true => s.owed.isEmpty
  | _ => false

/-- Once the end was asked for, only the end may be asked for. -/
def encode (s : Encoder) (input : Slice) (room : Nat) : Answer × Encoder :=
  if s.closing then (.error (.sequence "bzip2: sequence of operations invalid"), s)
  else
    let (s, i, out) := turns input.bytes room (input.size + 4) s input.start ByteArray.empty
    (.ok (.progress (i - input.start) out), s)

def finish (s : Encoder) (input : Slice) (room : Nat) : Answer × Encoder :=
  let (s, i, out) :=
    turns input.bytes room (input.size + 4) { s with closing := true } input.start ByteArray.empty
  (.ok { consumed := i - input.start, output := out, done := s.ended }, s)

def engine (level : Level) : NativeEncoder :=
  { State := Encoder, fresh := start level, run := encode, finish }

end Encoder

end StreamCodec.Bzip2
