import StreamCodec.Checksum.Xxh64
import StreamCodec.Zstd.Sequences

/-!
Frame headers and block headers. A skippable frame carries no content. The window bounds
the blocks of a frame: none holds more than the window or 128 KiB.
-/

namespace StreamCodec.Zstd

structure FrameHeader where
  size : Nat
  window : Nat
  contentSize : Option Nat
  dictionary : Nat
  checked : Bool
deriving DecidableEq, Repr

inductive Frame where
  | data (header : FrameHeader)
  | skippable (length : Nat)
deriving DecidableEq, Repr

def magic : List UInt8 := [0x28, 0xb5, 0x2f, 0xfd]

/-- The first byte of a skippable magic may have any low half. -/
def skippableMagic (x : UInt8) : List UInt8 := [0x50 ||| (x &&& 0x0f), 0x2a, 0x4d, 0x18]

def agreesWith (b : ByteArray) (l : List UInt8) : Bool := (b.extract 0 4).toList == l.take b.size

namespace Frame

def dictionarySize (descriptor : Nat) : Nat :=
  match descriptor % 4 with
  | 3 => 4
  | n => n

def contentFieldSize (descriptor : Nat) : Nat :=
  match descriptor / 64 with
  | 0 => if descriptor / 32 % 2 = 1 then 1 else 0
  | 1 => 2
  | 2 => 4
  | _ => 8

def headerSize (descriptor : Nat) : Nat :=
  5 + (if descriptor / 32 % 2 = 1 then 0 else 1) + dictionarySize descriptor +
    contentFieldSize descriptor

/-- A window: a power of two and some eighths of it. -/
def windowOf (x : Nat) : Nat :=
  let base := 1 <<< (x / 8 + 10)
  base + base / 8 * (x % 8)

def readFields (b : ByteArray) (descriptor : Nat) : Except Fault FrameHeader := do
  let whole := descriptor / 32 % 2 = 1
  if descriptor / 8 % 2 = 1 then throw .unsupported
  let i := if whole then 5 else 6
  if ¬whole ∧ 31 < Bytes.le b 5 1 / 8 + 10 then throw .windowTooLarge
  let j := i + dictionarySize descriptor
  let fieldSize := contentFieldSize descriptor
  let field := Bytes.le b j fieldSize
  let contentSize :=
    if fieldSize = 0 then none else some (if fieldSize = 2 then field + 256 else field)
  return {
    size := headerSize descriptor
    window := if whole then contentSize.getD 0 else windowOf (Bytes.le b 5 1)
    contentSize
    dictionary := Bytes.le b i (dictionarySize descriptor)
    checked := descriptor / 4 % 2 = 1 }

def read (b : ByteArray) : Except Fault (Frame ⊕ Nat) :=
  let skippable := agreesWith b (skippableMagic (b[0]?.getD 0x50))
  if !agreesWith b magic && !skippable then .error .unknownFrame
  else if b.size < 5 then .ok (.inr 5)
  else if skippable then
    .ok (if b.size < 8 then .inr 8 else .inl (.skippable (Bytes.le b 4 4)))
  else
    let descriptor := Bytes.le b 4 1
    let size := headerSize descriptor
    if b.size < size then .ok (.inr size) else (readFields b descriptor).map fun h => .inl (.data h)

def maxWindow : Nat := 0x8000001

end Frame

namespace FrameHeader

def blockMax (h : FrameHeader) : Nat := min h.window (128 * 1024)

end FrameHeader

inductive BlockKind where
  | raw | repeated | compressed
deriving DecidableEq, Repr

structure BlockHeader where
  last : Bool
  kind : BlockKind
  size : Nat
deriving DecidableEq, Repr

namespace BlockHeader

def read (b : ByteArray) : Except Fault BlockHeader :=
  let x := Bytes.le b 0 3
  let last := x % 2 = 1
  match x / 2 % 4 with
  | 0 => .ok { last, kind := .raw, size := x / 8 }
  | 1 => .ok { last, kind := .repeated, size := x / 8 }
  | 2 => .ok { last, kind := .compressed, size := x / 8 }
  | _ => .error .corrupt

def bodySize (h : BlockHeader) : Nat := if h.kind = .repeated then 1 else h.size

end BlockHeader

def checksumOf (content : ByteArray) : Nat := (Xxh64.ofBytes content).toNat % 0x100000000

namespace Frame

/-- The length of a whole frame at position `i`, when all of it is there; `fuel` bounds the
blocks. -/
def extent? (b : ByteArray) (checked : Bool) : (fuel i : Nat) → Option Nat
  | 0, _ => none
  | fuel + 1, i =>
    if b.size < i + 3 then none
    else
      match BlockHeader.read (b.extract i (i + 3)) with
      | .error _ => none
      | .ok h =>
        let i := i + 3 + h.bodySize
        if b.size < i then none
        else if h.last then
          let i := if checked then i + 4 else i
          if b.size < i then none else some i
        else extent? b checked fuel i

/-- Decodes the blocks of a frame that is all there, from position `i` on; the content may grow to
`limit` bytes. Answers with the content and the position behind the last block. -/
def decodeBlocks (b : ByteArray) (h : FrameHeader) (limit : Nat) :
    (fuel i : Nat) → Entropy → ByteArray → Except Fault (ByteArray × Nat)
  | 0, _, _, _ => .error .corrupt
  | fuel + 1, i, e, out => do
    let block ← BlockHeader.read (b.extract i (i + 3))
    let i := i + 3
    let next := i + block.bodySize
    let (e, out) ← match block.kind with
      | .raw =>
        if limit < out.size + block.size then .error .corrupt else .ok (e, out ++ b.extract i next)
      | .repeated =>
        if limit < out.size + block.size then .error .corrupt
        else .ok (e, out ++ Bytes.replicate block.size (b[i]?.getD 0))
      | .compressed => Block.decompress e (b.extract i next) h.blockMax limit out
    if block.last then return (out, next) else decodeBlocks b h limit fuel next e out

def decodeWhole (b : ByteArray) (h : FrameHeader) (limit : Nat) : Except Fault ByteArray := do
  if h.dictionary ≠ 0 then throw .dictionary
  let (out, i) ← decodeBlocks b h limit b.size h.size {} ByteArray.empty
  if h.contentSize.any (· ≠ out.size) then throw .corrupt
  if h.checked ∧ Bytes.le b i 4 ≠ checksumOf out then throw .checksum
  return out

end Frame

end StreamCodec.Zstd
