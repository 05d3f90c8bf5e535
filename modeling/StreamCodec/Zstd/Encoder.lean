import StreamCodec.BitWriter
import StreamCodec.Level
import StreamCodec.Piece
import StreamCodec.Stream.Native
import StreamCodec.Zstd.Frame

/-!
The Zstandard encoder. It gathers the input of a frame and packs it when the frame ends:
blocks of one repeated byte, blocks of sequences with the standard tables, or raw blocks
where that is no shorter. A frame that ends before any other call has no content, and its
header says so. After a frame has been handed out the next input starts another one.
-/

namespace StreamCodec.Zstd

namespace Encoder

def codedOffset (offset : Nat) : Nat × Nat × Nat :=
  let value := offset + 3
  (value.log2, value - 1 <<< value.log2, value.log2)

def cellTo (t : Fse) (symbol next : Nat) : Nat :=
  ((List.range t.symbols.size).find? fun c =>
    t.symbol c = symbol ∧ t.bases.getD c 0 ≤ next ∧
      next < t.bases.getD c 0 + 1 <<< t.bits.getD c 0).getD 0

def cellOf (t : Fse) (symbol : Nat) : Nat :=
  ((List.range t.symbols.size).find? fun c => t.symbol c = symbol).getD 0

/-- Steps one table back: the bits that lead from a cell of `symbol` to `next`, and that cell. -/
def stepBack (w : BitWriter) (t : Fse) (symbol next : Nat) : BitWriter × Nat :=
  let c := cellTo t symbol next
  (w.push (next - t.bases.getD c 0) (t.bits.getD c 0), c)

def standardTables : Tables where
  literalLength := Alphabet.literalLength.standard
  offset := Alphabet.offset.standard
  matchLength := Alphabet.matchLength.standard

/-- Writes a sequence in front of what is written: what is read first is written last. -/
def putSequence (acc : BitWriter × Option States) (q : Sequence) : BitWriter × Option States :=
  let (w, states) := acc
  let t := standardTables
  let (l, lx, ln) := RangeCode.find literalLengths q.literals
  let (m, mx, mn) := RangeCode.find matchLengths q.length
  let (o, ox, on) := codedOffset q.offset
  let (w, s) := match states with
    | none => (w, { literalLength := cellOf t.literalLength l, offset := cellOf t.offset o,
                    matchLength := cellOf t.matchLength m : States })
    | some s =>
      let (w, offset) := stepBack w t.offset o s.offset
      let (w, matchLength) := stepBack w t.matchLength m s.matchLength
      let (w, literalLength) := stepBack w t.literalLength l s.literalLength
      (w, { literalLength, offset, matchLength })
  (((w.push lx ln).push mx mn).push ox on, some s)

def sequenceBits (qs : Array Sequence) : ByteArray :=
  let (w, states) := qs.foldr (fun q acc => putSequence acc q) (({} : BitWriter), none)
  let t := standardTables
  let w := match states with
    | none => w
    | some s =>
      ((w.push s.matchLength t.matchLength.log).push s.offset t.offset.log).push s.literalLength
        t.literalLength.log
  (w.push 1 1).finish

def sequences (ps : Array Piece) : Array Sequence × ByteArray :=
  let (qs, literals, _) := ps.foldl (fun (qs, literals, run) p =>
    match p with
    | .literal x => (qs, literals.push x, run + 1)
    | .copy length offset => (qs.push { literals := run, length, offset : Sequence }, literals, 0))
    ((#[] : Array Sequence), ByteArray.empty, 0)
  (qs, literals)

def literalHeader (size : Nat) : List UInt8 :=
  if size < 32 then Bytes.littleEndian 1 (size * 8)
  else if size < 4096 then Bytes.littleEndian 2 (size * 16 + 4)
  else Bytes.littleEndian 3 (size * 16 + 12)

def countHeader (n : Nat) : List UInt8 :=
  if n < 128 then [n.toUInt8]
  else if n < 0x7f00 then [(n / 256 + 128).toUInt8, n.toUInt8]
  else 255 :: Bytes.littleEndian 2 (n - 0x7f00)

def compressed (b : ByteArray) : ByteArray :=
  let (qs, literals) := sequences (Piece.parse b 65535 131072)
  let front :=
    Bytes.ofList (literalHeader literals.size) ++ literals ++ Bytes.ofList (countHeader qs.size)
  if qs.size = 0 then front else (front.push 0) ++ sequenceBits qs

def blockHeader (last : Bool) (kind size : Nat) : ByteArray :=
  Bytes.ofList (Bytes.littleEndian 3 ((if last then 1 else 0) + 2 * kind + 8 * size))

def block (b : ByteArray) (last : Bool) : ByteArray :=
  let x := b[0]?.getD 0
  if 32 ≤ b.size ∧ b.data.all (· == x) then (blockHeader last 1 b.size).push x
  else
    let body := compressed b
    if body.size < b.size then blockHeader last 2 body.size ++ body
    else blockHeader last 0 b.size ++ b

def blocks (b : ByteArray) : (n i : Nat) → ByteArray → ByteArray
  | 0, i, out => out ++ block (b.extract i b.size) true
  | n + 1, i, out => blocks b n (i + 131072) (out ++ block (b.extract i (i + 131072)) false)

def windowByte : Level → UInt8
  | .fast => 0x48
  | .balanced => 0x58
  | .small => 0x68

def pack (level : Level) (b : ByteArray) : ByteArray :=
  blocks b ((b.size - 1) / 131072) 0 (Bytes.ofList (magic ++ [0x04, windowByte level]))
    ++ Bytes.ofList (Bytes.littleEndian 4 (checksumOf b))

def packNothing : ByteArray :=
  Bytes.ofList (magic ++ [0x24, 0x00, 0x01, 0x00, 0x00] ++
    Bytes.littleEndian 4 (checksumOf ByteArray.empty))

end Encoder

inductive Encoder where
  | fresh
  | gathering (input : ByteArray)
  | flushing (owed : Slice)

namespace Encoder

/-- Hands out what fits; the last byte of a frame makes way for another frame. -/
def handOut (owed : Slice) (room : Nat) : ByteArray × Bool × Encoder :=
  let out := owed.take room
  let owed := owed.drop out.size
  if owed.isEmpty then (out, true, fresh) else (out, false, flushing owed)

def encode (s : Encoder) (input : Slice) (room : Nat) : Answer × Encoder :=
  match s with
  | fresh => (.ok (.progress input.size ByteArray.empty), gathering input.toBytes)
  | gathering b => (.ok (.progress input.size ByteArray.empty), gathering (b ++ input.toBytes))
  | flushing owed =>
    let (out, _, s) := handOut owed room
    (.ok (.progress 0 out), s)

/-- Ends the frame; no input is taken for that. -/
def finish (level : Level) (s : Encoder) (_input : Slice) (room : Nat) : Answer × Encoder :=
  let owed : Slice := match s with
    | fresh => { bytes := packNothing }
    | gathering b => { bytes := pack level b }
    | flushing owed => owed
  let (output, done, s) := handOut owed room
  (.ok { consumed := 0, output, done }, s)

def engine (level : Level) : NativeEncoder :=
  { State := Encoder, fresh, run := encode, finish := finish level }

end Encoder

end StreamCodec.Zstd
