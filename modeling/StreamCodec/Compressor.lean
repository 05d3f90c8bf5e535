import StreamCodec.Adapter
import StreamCodec.Stream.Native
import StreamCodec.Stream.Encoder
import StreamCodec.Stream.Growth

/-!
A compressor for one format: a session together with the level and the chunk size that
it was made with.
-/

namespace StreamCodec

variable [Engines]

structure Compressor where
  codec : Codec
  level : Level
  chunk : ChunkSize
  session : Encoder (EncoderState codec (Engines.encoder codec level))

namespace Compressor

def new (codec : Codec) (level : Level) (chunk : ChunkSize) : Compressor where
  codec
  level
  chunk
  session := { engine := newEncoder codec (Engines.encoder codec level) level }

def standard (codec : Codec) : Compressor := new codec .standard .standard

def stats (c : Compressor) : Stats := c.session.stats

def compressInto (c : Compressor) (input : ByteArray) (room : Nat) :
    Outcome ByteArray × Compressor :=
  let ⟨codec, level, chunk, session⟩ := c
  let (r, session) :=
    session.compressInto (encodeEngine codec (Engines.encoder codec level)) input room
  (r, { codec, level, chunk, session })

def finishInto (c : Compressor) (room : Nat) : Outcome ByteArray × Compressor :=
  let ⟨codec, level, chunk, session⟩ := c
  let (r, session) := session.finishInto (encodeEngine codec (Engines.encoder codec level)) room
  (r, { codec, level, chunk, session })

def compress (c : Compressor) (input : ByteArray) : Outcome ByteArray × Compressor :=
  Growth.all (fun c input room => c.compressInto input room) c.chunk c input

def finish (c : Compressor) : Outcome ByteArray × Compressor :=
  Growth.all (fun c _ room => c.finishInto room) c.chunk c ByteArray.empty

def label (c : Compressor) : String :=
  s!"Compressor \x7b codec: {c.codec.label}, level: {c.level.label}, "
    ++ s!"chunk_size: {c.chunk.label}, stats: {c.stats.label} \x7d"

end Compressor

end StreamCodec
