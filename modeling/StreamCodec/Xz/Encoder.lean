import StreamCodec.Level
import StreamCodec.Lzma.ChunkWriter
import StreamCodec.Stream.Native
import StreamCodec.Xz.Header

/-!
The xz encoder. The header of the stream goes out first, and with the first input that of
its only block; then the input is gathered, and packed at the end. A stream without input
has no block.
-/

namespace StreamCodec.Xz

structure Encoder where
  level : Level
  head : Slice
  blockHead : Option Slice := none
  input : ByteArray := ByteArray.empty
  tail : Option Slice := none
  closing : Bool := false

namespace Encoder

def checkId : Nat := 4

def flags : List UInt8 := [0, checkId.toUInt8]

def checksumOf (l : List UInt8) : List UInt8 :=
  Bytes.littleEndian 4 (Crc32.ofBytes (Bytes.ofList l)).toNat

def streamHead : ByteArray := Bytes.ofList (magic ++ flags ++ checksumOf flags)

def dictionaryByte : Level → UInt8
  | .fast => 0x10
  | .balanced => 0x16
  | .small => 0x1c

def blockHeadOf (level : Level) : ByteArray :=
  let l := [2, 0, 0x21, 1, dictionaryByte level, 0, 0, 0]
  Bytes.ofList (l ++ checksumOf l)

def numberBytes : (left n : Nat) → List UInt8
  | 0, _ => []
  | left + 1, n =>
    if n < 128 then [n.toUInt8] else (n % 128 + 128).toUInt8 :: numberBytes left (n / 128)

def padded (l : List UInt8) : List UInt8 := l ++ List.replicate ((4 - l.length % 4) % 4) 0

def ending (records : List Record) : ByteArray :=
  let numbers := records.flatMap fun (n, m) => numberBytes 9 n ++ numberBytes 9 m
  let index := padded (0 :: numberBytes 9 records.length ++ numbers)
  let back := Bytes.littleEndian 4 (index.length / 4) ++ flags
  Bytes.ofList (index ++ checksumOf index ++ checksumOf back ++ back ++ [0x59, 0x5a])

def blockRest (b : ByteArray) : ByteArray :=
  let body := Lzma.ChunkWriter.write b
  let check := Bytes.littleEndian 8 (Crc64.final (Crc64.update Crc64.initial b)).toNat
  body ++ Bytes.blank ((4 - body.size % 4) % 4) ++ Bytes.ofList check ++
    ending [(12 + body.size + 8, b.size)]

def start (level : Level) : Encoder := { level, head := { bytes := streamHead } }

/-- Hands out what fits of the headers. The second one is needed only when there is input. -/
def putHeads (s : Encoder) (input : Slice) (room : Nat) : ByteArray × Encoder :=
  let out := s.head.take room
  let s := { s with head := s.head.drop out.size }
  if out.size = room || (s.blockHead.isNone && input.isEmpty) then (out, s)
  else
    let owed := s.blockHead.getD { bytes := blockHeadOf s.level }
    let more := owed.take (room - out.size)
    (out ++ more, { s with blockHead := some (owed.drop more.size) })

/-- Takes the input in when the headers leave room in the window; answers with how much was
taken. -/
def absorb (s : Encoder) (input : Slice) (isFull : Bool) : Nat × Encoder :=
  if isFull || s.tail.isSome then (0, s)
  else
    let ⟨level, head, blockHead, gathered, tail, closing⟩ := s
    (input.size, { level, head, blockHead, input := gathered ++ input.toBytes, tail, closing })

def encode (s : Encoder) (input : Slice) (room : Nat) : Answer × Encoder :=
  if s.closing then (.error (.sequence "liblzma internal error"), s)
  else
    let (out, s) := s.putHeads input room
    let (taken, s) := s.absorb input (out.size = room)
    (.ok (.progress taken out), s)

def rest (s : Encoder) : Slice :=
  match s.tail with
  | some owed => owed
  | none => { bytes := if s.blockHead.isNone then ending [] else blockRest s.input }

def finish (s : Encoder) (input : Slice) (room : Nat) : Answer × Encoder :=
  let (out, s) := { s with closing := true }.putHeads input room
  if out.size = room then (.ok (.progress 0 out), s)
  else
    let (taken, s) := s.absorb input false
    let owed := s.rest
    let more := owed.take (room - out.size)
    let owed := owed.drop more.size
    (.ok { consumed := taken, output := out ++ more, done := owed.isEmpty },
      { s with tail := some owed })

def engine (level : Level) : NativeEncoder :=
  { State := Encoder, fresh := start level, run := encode, finish }

end Encoder

end StreamCodec.Xz
