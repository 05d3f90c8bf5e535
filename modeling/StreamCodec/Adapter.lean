import StreamCodec.Gzip.Decoder
import StreamCodec.Gzip.Encoder
import StreamCodec.Stream.Native

/-!
From native engines to the engines of the formats. What a refusal means is told apart by
format, some native engines have to be spared some calls, and gzip adds its framing.
-/

namespace StreamCodec

namespace Refusal

def sorted (codec : Codec) : Refusal → Outcome Step
  | data m => .error (.decode codec m)
  | memory m => .error (.engine codec m)
  | sequence m => .trap (.callRejected codec m)

/-- What a refusal comes to in an encoder. Only bzip2 and xz tell the kinds apart, and Brotli gives
no reason. -/
def whileEncoding (codec : Codec) (r : Refusal) : Outcome Step :=
  match codec with
  | .bzip2 | .lzma => r.sorted codec
  | .brotli => .trap (.encoderRejected codec "")
  | .deflate | .zlib | .gzip | .zstd => .trap (.encoderRejected codec r.message)

def whileDecoding (codec : Codec) (r : Refusal) : Outcome Step :=
  match codec with
  | .bzip2 | .lzma => r.sorted codec
  | .deflate | .zlib | .gzip | .brotli | .zstd => .error (.decode codec r.message)

end Refusal

def Answer.outcome {σ : Type} (refused : Refusal → Outcome Step) : Answer × σ → Outcome Step × σ
  | (.ok step, s) => (.ok step, s)
  | (.error r, s) => (refused r, s)

def NativeEncoder.engine (N : NativeEncoder) (codec : Codec) : EncodeEngine N.State where
  codec
  encode s input room := Answer.outcome (Refusal.whileEncoding codec) (N.run s input room)
  finish s input room := Answer.outcome (Refusal.whileEncoding codec) (N.finish s input room)

def NativeDecoder.engine (N : NativeDecoder) (codec : Codec) : DecodeEngine N.State where
  codec
  decode s input room := Answer.outcome (Refusal.whileDecoding codec) (N.run s input room)

namespace EncodeEngine

variable {σ : Type}

def sparing (E : EncodeEngine σ) : EncodeEngine σ where
  codec := E.codec
  encode s input room := if input.isEmpty || room = 0 then (.ok .idle, s) else E.encode s input room
  finish s input room := if room = 0 then (.ok .idle, s) else E.finish s input room

/-- Only a step that was asked to finish says that the stream has ended. -/
def openEnded (E : EncodeEngine σ) : EncodeEngine σ where
  codec := E.codec
  encode s input room :=
    match E.encode s input room with
    | (.ok step, s) => (.ok { step with done := false }, s)
    | r => r
  finish := E.finish

/-- Asks the engine to finish only when there is no more input to take. -/
def inputFirst (E : EncodeEngine σ) : EncodeEngine σ where
  codec := E.codec
  encode := E.encode
  finish s input room := if input.isEmpty then E.finish s input room else E.encode s input room

end EncodeEngine

def DecodeEngine.sparing {σ : Type} (E : DecodeEngine σ) : DecodeEngine σ where
  codec := E.codec
  decode s input room := if room = 0 then (.ok .idle, s) else E.decode s input room

def EncoderState : Codec → NativeEncoder → Type
  | .gzip, N => Gzip.Encoder N.State
  | .deflate, N | .zlib, N | .bzip2, N | .lzma, N | .brotli, N | .zstd, N => N.State

/-- The encoder of a format over a native engine, which for gzip is one for raw DEFLATE. -/
def encodeEngine : (codec : Codec) → (N : NativeEncoder) → EncodeEngine (EncoderState codec N)
  | .deflate, N => N.engine .deflate
  | .zlib, N => N.engine .zlib
  | .gzip, N => Gzip.Encoder.engine (N.engine .deflate)
  | .bzip2, N => (N.engine .bzip2).sparing
  | .lzma, N => N.engine .lzma
  | .brotli, N => (N.engine .brotli).openEnded
  | .zstd, N => (N.engine .zstd).openEnded.inputFirst

def newEncoder : (codec : Codec) → (N : NativeEncoder) → Level → EncoderState codec N
  | .gzip, N, level => Gzip.Encoder.start level N.fresh
  | .deflate, N, _ | .zlib, N, _ | .bzip2, N, _ | .lzma, N, _ | .brotli, N, _ | .zstd, N, _ =>
    N.fresh

def DecoderState : Codec → NativeDecoder → Type
  | .gzip, N => Gzip.Decoder N.State
  | .deflate, N | .zlib, N | .bzip2, N | .lzma, N | .brotli, N | .zstd, N => N.State

/-- The decoder of a format over a native engine, which for gzip is one for raw DEFLATE. -/
def decodeEngine : (codec : Codec) → (N : NativeDecoder) → DecodeEngine (DecoderState codec N)
  | .gzip, N => Gzip.Decoder.engine (N.engine .gzip)
  | .bzip2, N => (N.engine .bzip2).sparing
  | .deflate, N => N.engine .deflate
  | .zlib, N => N.engine .zlib
  | .lzma, N => N.engine .lzma
  | .brotli, N => N.engine .brotli
  | .zstd, N => N.engine .zstd

def newDecoder : (codec : Codec) → (N : NativeDecoder) → DecoderState codec N
  | .gzip, N => Gzip.Decoder.start N.fresh
  | .deflate, N | .zlib, N | .bzip2, N | .lzma, N | .brotli, N | .zstd, N => N.fresh

end StreamCodec
