import StreamCodec.BitWriter
import StreamCodec.Brotli.MetaBlock
import StreamCodec.Piece
import StreamCodec.Stream.Buffered
import StreamCodec.Stream.Native

/-!
The Brotli encoder. The whole input becomes meta-blocks of one block type each, with
codes that are short to describe; a meta-block is left plain where that is no longer.
Every copy names its distance.
-/

namespace StreamCodec.Brotli.Encoder

def commandLengths : Array Nat := Array.replicate 320 9 ++ Array.replicate 384 10

def literalLengths : Array Nat := Array.replicate 256 8

def distanceLengths : Array Nat := Array.replicate 64 6

def commandWords : Array Nat := Huffman.reversedWords 15 commandLengths

def literalWords : Array Nat := Huffman.reversedWords 15 literalLengths

def distanceWords : Array Nat := Huffman.reversedWords 15 distanceLengths

def lengthWord : Nat → Nat × Nat
  | 0 => (0, 2)
  | 1 => (7, 4)
  | 2 => (3, 3)
  | 3 => (2, 2)
  | 4 => (1, 2)
  | _ => (15, 4)

/-- The lengths of the code-length words, in the order in which they are sent, without what follows
once the words fill the space. -/
def putLengthLengths (w : BitWriter) (lengths : List Nat) : BitWriter :=
  lengths.foldl (fun w n => let (word, width) := lengthWord n; w.push word width) (w.push 0 2)

/-- Describes a code whose words all have the length `n`: that length has a word of no bits. -/
def putEven (w : BitWriter) (n : Nat) : BitWriter :=
  putLengthLengths w (Code.lengthOrder.toList.map fun l => if l = n then 4 else 0)

def putCommandCode (w : BitWriter) : BitWriter :=
  let sent := Code.lengthOrder.toList.take 13
  let w := putLengthLengths w (sent.map fun l => if l = 9 ∨ l = 10 then 1 else 0)
  commandLengths.foldl (fun w l => w.push (l - 9) 1) w

def putTables (w : BitWriter) : BitWriter :=
  let w := (w.push 0 3).push 0 6
  let w := ((w.push 0 2).push 0 1).push 0 1
  putEven (putCommandCode (putEven w 8)) 6

def commandSymbol (insert copy : Nat) : Nat :=
  let cell := (((List.range 11).drop 2).find? fun i =>
    Command.cells.getD i (0, 0) = (insert / 8 * 8, copy / 8 * 8)).getD 2
  cell * 64 + insert % 8 * 8 + copy % 8

def putCommand (w : BitWriter) (insert copy : Nat) : BitWriter :=
  let (i, insertRest, insertBits) := RangeCode.find insertLengths insert
  let (c, copyRest, copyBits) := RangeCode.find copyLengths copy
  let s := commandSymbol i c
  let w := w.push (commandWords.getD s 0) (commandLengths.getD s 0)
  (w.push insertRest insertBits).push copyRest copyBits

def putLiterals (w : BitWriter) (literals : ByteArray) : BitWriter :=
  literals.foldl (fun w x => w.push (literalWords.getD x.toNat 0) 8) w

def putDistance (w : BitWriter) (distance : Nat) : BitWriter :=
  let v := distance + 3
  let width := v.log2 - 1
  let half := v >>> width % 2
  (w.push (distanceWords.getD (16 + 2 * (width - 1) + half) 0) 6).push (v % (1 <<< width)) width

def putPiece (acc : BitWriter × ByteArray) : Piece → BitWriter × ByteArray
  | .literal x => (acc.1, acc.2.push x)
  | .copy length distance =>
    let (w, literals) := acc
    (putDistance (putLiterals (putCommand w literals.size length) literals) distance,
      ByteArray.empty)

def maxLength : Nat := 0x1000000

def farthest : Nat := 0x400000 - 16

def putLength (w : BitWriter) (length : Nat) : BitWriter :=
  let parts := if length ≤ 0x10000 then 4 else if length ≤ 0x100000 then 5 else 6
  (w.push (parts - 4) 2).push (length - 1) (4 * parts)

def compressed (w : BitWriter) (b : ByteArray) : BitWriter :=
  let w := putTables ((putLength (w.push 0 1) b.size).push 0 1)
  let (w, literals) := (Piece.parse b maxLength farthest).foldl putPiece (w, ByteArray.empty)
  if literals.size = 0 then w else putLiterals (putCommand w literals.size 2) literals

def plain (w : BitWriter) (b : ByteArray) : BitWriter :=
  (((putLength (w.push 0 1) b.size).push 1 1).align).append b

def metaBlock (w : BitWriter) (b : ByteArray) : BitWriter :=
  let c := compressed w b
  let p := plain w b
  if c.out.size < p.out.size then c else p

/-- Meta-blocks of at most `maxLength` bytes from position `i` on, `n` of them. -/
def metaBlocks (b : ByteArray) : (n i : Nat) → BitWriter → BitWriter
  | 0, _, w => w
  | n + 1, i, w => metaBlocks b n (i + maxLength) (metaBlock w (b.extract i (i + maxLength)))

def pack (b : ByteArray) : ByteArray :=
  ((metaBlocks b ((b.size + maxLength - 1) / maxLength) 0 (({} : BitWriter).push 11 4)).push 3
    2).finish

/-- Once the end was asked for, a call that offers input is refused. -/
def encode (s : Buffered) (input : Slice) (room : Nat) : Answer × Buffered :=
  match s with
  | .gathering _ =>
    let (consumed, s) := s.absorb input
    (.ok (.progress consumed ByteArray.empty), s)
  | .sealed owed =>
    if !input.isEmpty then (.error (.sequence ""), s)
    else
      let output := owed.take room
      (.ok (.progress 0 output), .sealed (owed.drop output.size))

def finish (s : Buffered) (input : Slice) (room : Nat) : Answer × Buffered :=
  let (step, s) := s.finish pack input room
  (.ok step, s)

def engine : NativeEncoder := { State := Buffered, fresh := .empty, run := encode, finish }

end StreamCodec.Brotli.Encoder
