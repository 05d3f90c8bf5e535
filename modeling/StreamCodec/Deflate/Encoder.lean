import StreamCodec.BitWriter
import StreamCodec.Checksum.Adler32
import StreamCodec.Deflate.Token
import StreamCodec.Level
import StreamCodec.Piece
import StreamCodec.Stream.Buffered
import StreamCodec.Stream.Native

/-!
The deflate engine. The whole input becomes one block with the fixed codes, or stored
blocks when those are shorter. Copies reach back one window at most.
-/

namespace StreamCodec.Deflate.Encoder

def literalWords : Array Nat := Huffman.reversedWords 15 Codes.fixedLiteralLengths

def distanceWords : Array Nat := Huffman.reversedWords 15 (Array.replicate 32 5)

def putSymbol (w : BitWriter) (s : Nat) : BitWriter :=
  w.push (literalWords.getD s 0) (Codes.fixedLiteralLengths.getD s 0)

def putPiece (w : BitWriter) : Piece → BitWriter
  | .literal x => putSymbol w x.toNat
  | .copy length distance =>
    let (l, lengthRest, lengthBits) := RangeCode.find lengthCodes length
    let (d, distanceRest, distanceBits) := RangeCode.find distanceCodes distance
    let w := (putSymbol w (257 + l)).push lengthRest lengthBits
    (w.push (distanceWords.getD d 0) 5).push distanceRest distanceBits

def fixedBlock (b : ByteArray) : ByteArray :=
  let w := (({} : BitWriter).push 1 1).push 1 2
  let w := (Piece.parse b 258 32768).foldl putPiece w
  (putSymbol w 256).finish

/-- Stored blocks of at most 65535 bytes from position `i` on, `n + 1` of them. -/
def storedFrom (b : ByteArray) : (n i : Nat) → ByteArray → ByteArray
  | 0, i, out => storedBlock b i out true
  | n + 1, i, out => storedFrom b n (i + 65535) (storedBlock b i out false)
where
  storedBlock (b : ByteArray) (i : Nat) (out : ByteArray) (last : Bool) : ByteArray :=
    let length := min 65535 (b.size - i)
    let head := (if last then 1 else 0) :: Bytes.littleEndian 2 length ++
      Bytes.littleEndian 2 (65535 - length)
    (out ++ Bytes.ofList head) ++ b.extract i (i + length)

def stored (b : ByteArray) : ByteArray := storedFrom b ((b.size - 1) / 65535) 0 ByteArray.empty

def pack (b : ByteArray) : ByteArray :=
  let f := fixedBlock b
  if f.size ≤ b.size + 5 then f else stored b

def frame : Level → List UInt8
  | .fast => [0x78, 0x01]
  | .balanced => [0x78, 0x9c]
  | .small => [0x78, 0xda]

def packFramed (level : Level) (b : ByteArray) : ByteArray :=
  Bytes.ofList (frame level) ++ pack b
    ++ Bytes.ofList (Bytes.bigEndian 4 (({} : Adler32).update b).value)

/-- A window without room moves nothing. Once the end was asked for, only the end may be asked for,
until it is out. -/
def run (s : Buffered) (input : Slice) (room : Nat) : Answer × Buffered :=
  if room = 0 then (.ok .idle, s)
  else
    match s with
    | .gathering _ =>
      let (consumed, s) := s.absorb input
      (.ok (.progress consumed ByteArray.empty), s)
    | .sealed owed =>
      if owed.isEmpty then (.ok .idle, s) else (.error (.sequence "deflate compression error"), s)

def finish (pack : ByteArray → ByteArray) (s : Buffered) (input : Slice) (room : Nat) :
    Answer × Buffered :=
  if room = 0 then (.ok .idle, s)
  else
    let (step, s) := s.finish pack input room
    (.ok step, s)

def raw : NativeEncoder := { State := Buffered, fresh := .empty, run, finish := finish pack }

def framed (level : Level) : NativeEncoder :=
  { State := Buffered, fresh := .empty, run, finish := finish (packFramed level) }

end StreamCodec.Deflate.Encoder
