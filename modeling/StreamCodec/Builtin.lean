import StreamCodec.Brotli.Decoder
import StreamCodec.Brotli.Encoder
import StreamCodec.Bzip2.Decoder
import StreamCodec.Bzip2.Encoder
import StreamCodec.Deflate.Decoder
import StreamCodec.Deflate.Encoder
import StreamCodec.Stream.Native
import StreamCodec.Xz.Decoder
import StreamCodec.Xz.Encoder
import StreamCodec.Zstd.Decoder
import StreamCodec.Zstd.Encoder

/-!
The engines that come with this library.
-/

namespace StreamCodec

namespace Builtin

def encoder : Codec → Level → NativeEncoder
  | .deflate, _ | .gzip, _ => Deflate.Encoder.raw
  | .zlib, level => Deflate.Encoder.framed level
  | .bzip2, level => Bzip2.Encoder.engine level
  | .lzma, level => Xz.Encoder.engine level
  | .brotli, _ => Brotli.Encoder.engine
  | .zstd, level => Zstd.Encoder.engine level

def decoder : Codec → NativeDecoder
  | .deflate | .gzip => Deflate.Decoder.engine false
  | .zlib => Deflate.Decoder.engine true
  | .bzip2 => Bzip2.Decoder.engine
  | .lzma => Xz.Decoder.engine
  | .brotli => Brotli.Decoder.engine
  | .zstd => Zstd.Decoder.engine

end Builtin

instance : Engines := { encoder := Builtin.encoder, decoder := Builtin.decoder }

end StreamCodec
