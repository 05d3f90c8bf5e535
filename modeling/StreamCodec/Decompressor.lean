import StreamCodec.Adapter
import StreamCodec.Stream.Native
import StreamCodec.Stream.Decoder
import StreamCodec.Stream.Growth

/-!
A decompressor for one format: a session together with the chunk size of its output.
-/

namespace StreamCodec

variable [Engines]

structure Decompressor where
  codec : Codec
  chunk : ChunkSize
  session : Decoder (DecoderState codec (Engines.decoder codec))

namespace Decompressor

def new (codec : Codec) (chunk : ChunkSize) : Decompressor where
  codec
  chunk
  session := { engine := newDecoder codec (Engines.decoder codec) }

def standard (codec : Codec) : Decompressor := new codec .standard

def stats (d : Decompressor) : Stats := d.session.stats

def finished (d : Decompressor) : Bool := d.session.finished

def bytesUsed (d : Decompressor) : Nat := d.session.bytesUsed

def decompressInto (d : Decompressor) (input : ByteArray) (room : Nat) :
    Outcome ByteArray × Decompressor :=
  let ⟨codec, chunk, session⟩ := d
  let (r, session) := session.decompressInto (decodeEngine codec (Engines.decoder codec)) input room
  (r, { codec, chunk, session })

def decompress (d : Decompressor) (input : ByteArray) : Outcome ByteArray × Decompressor :=
  Growth.all (fun d input room => d.decompressInto input room) d.chunk d input

def label (d : Decompressor) : String :=
  s!"Decompressor \x7b codec: {d.codec.label}, output_chunk_size: {d.chunk.label}, "
    ++ s!"finished: {d.finished}, stats: {d.stats.label} \x7d"

end Decompressor

end StreamCodec
