import StreamCodec.Builtin
import StreamCodec.Registry

/-!
Whole byte strings at once. Decompression stops at the end of the first stream and
leaves what follows alone; input that runs out before is truncated.
-/

namespace StreamCodec

variable [Engines]

/-- Collects until the stream has ended or a collection is empty. -/
def Decompressor.drain (d : Decompressor) (out : ByteArray) :
    Option (Outcome ByteArray × Decompressor) :=
  if d.finished then some (.ok out, d)
  else
    match d.decompress ByteArray.empty with
    | (.ok more, d) => if more.size = 0 then some (.ok out, d) else d |>.drain (out ++ more)
    | r => some r
partial_fixpoint

namespace OneShot

def compressWith (c : Compressor) (input : ByteArray) : Outcome ByteArray × Compressor :=
  match c.compress input with
  | (.ok front, c) =>
    let (r, c) := c.finish
    (r.map (front ++ ·), c)
  | r => r

/-- A result counts only when the end of the stream has been read. -/
def whole : Outcome ByteArray × Decompressor → Outcome ByteArray × Decompressor
  | (.ok out, d) => if d.finished then (.ok out, d) else (.error (.truncated d.codec), d)
  | r => r

/-- Decompresses up to the end of the first stream. -/
def decompressWith (d : Decompressor) (input : ByteArray) : Outcome ByteArray × Decompressor :=
  match d.decompress input with
  | (.ok out, d) => whole ((d.drain out).getD (.trap .unending, d))
  | r => r

def compress (codec : Codec) (input : ByteArray) : Outcome ByteArray :=
  (compressWith (Compressor.standard codec) input).1

def decompress (codec : Codec) (input : ByteArray) : Outcome ByteArray :=
  (decompressWith (Decompressor.standard codec) input).1

def compressNamed (name : String) (input : ByteArray) : Outcome ByteArray :=
  match Registry.compressor? name .standard .standard with
  | some c => (compressWith c input).1
  | none => .error (.unknownCodec name)

def decompressNamed (name : String) (input : ByteArray) : Outcome ByteArray :=
  match Registry.decompressor? name .standard with
  | some d => (decompressWith d input).1
  | none => .error (.unknownCodec name)

/-- Decompresses with the format that the first bytes point to. -/
def decompressAuto (input : ByteArray) : Outcome ByteArray :=
  match Sniffer.decompressor? input .standard with
  | some d => (decompressWith d input).1
  | none => .error .unrecognizedFormat

end OneShot

end StreamCodec
