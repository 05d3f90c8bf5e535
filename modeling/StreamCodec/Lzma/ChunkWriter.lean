import StreamCodec.Lzma.RangeWriter
import StreamCodec.Lzma.Replies
import StreamCodec.Piece

/-!
Writing LZMA data in chunks. Each chunk starts with a fresh model and holds copies of its
own bytes only; it stays plain where a range code would be no shorter.
-/

namespace StreamCodec.Lzma.ChunkWriter

def span : Nat := 65536

def surroundings (m : Model) (b : ByteArray) (i : Nat) : Surroundings where
  place := i
  before := if i = 0 then 0 else b[i - 1]?.getD 0
  facing := if i ≤ m.rep0 then 0 else b[i - 1 - m.rep0]?.getD 0

def symbolOf : Piece → Symbol
  | .literal x => .literal x
  | .copy length distance => .new (distance - 1) length

def sizeOf : Piece → Nat
  | .literal _ => 1
  | .copy length _ => length

def putReply (odds : Array Odds) (w : RangeWriter) : Reply → RangeWriter
  | .asked slot bit => w.answer (odds.getD slot 1024) bit
  | .even bit => w.even bit

def trailOf (replies : List Reply) : Trail :=
  (replies.filterMap fun
    | .asked slot bit => some (slot, bit)
    | .even _ => none).reverse

def putPiece (b : ByteArray) (acc : RangeWriter × Model × Nat) (p : Piece) :
    RangeWriter × Model × Nat :=
  let (w, m, i) := acc
  let symbol := symbolOf p
  let replies := symbol.replies m (surroundings m b i)
  (replies.foldl (putReply m.odds) w, m.after symbol (trailOf replies), i + sizeOf p)

def symbols (b : ByteArray) (i : Nat) : ByteArray :=
  ((Piece.parse (b.extract i (i + span)) 273 span).foldl (putPiece b)
    ({}, Model.start {}, i)).1.finish

def chunk (b : ByteArray) (i : Nat) : ByteArray :=
  let size := min span (b.size - i)
  let body := symbols b i
  if body.size < size then
    Bytes.ofList ((if i = 0 then 0xe0 else 0xc0) :: Bytes.bigEndian 2 (size - 1) ++
      Bytes.bigEndian 2 (body.size - 1)
      ++ [(({} : Props).toByte).toUInt8]) ++ body
  else Bytes.ofList ((if i = 0 then 1 else 2) :: Bytes.bigEndian 2 (size - 1)) ++
    b.extract i (i + size)

/-- The chunks from position `i` on, `n` of them, and the byte that ends them. -/
def chunks (b : ByteArray) : (n i : Nat) → ByteArray → ByteArray
  | 0, _, out => out.push 0
  | n + 1, i, out => chunks b n (i + span) (out ++ chunk b i)

def write (b : ByteArray) : ByteArray := chunks b ((b.size + span - 1) / span) 0 ByteArray.empty

end StreamCodec.Lzma.ChunkWriter
