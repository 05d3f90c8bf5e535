import StreamCodec.Compressor
import StreamCodec.Decompressor

/-!
Looking a format up, by its name or by the first bytes of a stream.
-/

namespace StreamCodec

variable [Engines]

namespace Registry

/-- One row: a name, the format behind it, and what makes a compressor and a decompressor for it. -/
structure Entry where
  name : String
  codec : Codec
  compressor : Level → ChunkSize → Compressor
  decompressor : ChunkSize → Decompressor

def entries : List Entry :=
  [{ name := "gzip", codec := .gzip, compressor := .new .gzip, decompressor := .new .gzip },
    { name := "lzma", codec := .lzma, compressor := .new .lzma, decompressor := .new .lzma },
    { name := "bzip2", codec := .bzip2, compressor := .new .bzip2, decompressor := .new .bzip2 },
    { name := "zlib", codec := .zlib, compressor := .new .zlib, decompressor := .new .zlib },
    { name := "deflate", codec := .deflate, compressor := .new .deflate,
      decompressor := .new .deflate },
    { name := "brotli", codec := .brotli, compressor := .new .brotli,
      decompressor := .new .brotli },
    { name := "zstd", codec := .zstd, compressor := .new .zstd, decompressor := .new .zstd }]

def find? (name : String) : Option Entry := entries.find? fun e => e.name == name

def compressor? (name : String) (level : Level) (chunk : ChunkSize) : Option Compressor :=
  (find? name).map fun e => e.compressor level chunk

def decompressor? (name : String) (chunk : ChunkSize) : Option Decompressor :=
  (find? name).map fun e => e.decompressor chunk

end Registry

namespace Sniffer

/-- Signatures in the order in which they are tried. -/
def signatures : List (List UInt8 × Codec) :=
  [([0x1f, 0x8b], .gzip), ([0x42, 0x5a, 0x68], .bzip2), ([0xfd, 0x37, 0x7a, 0x58], .lzma),
    ([0x28, 0xb5, 0x2f, 0xfd], .zstd)]

/-- Two bytes whose first names method 8 and a window of at most 32 KiB. -/
def resemblesZlib (b : ByteArray) : Bool :=
  2 ≤ b.size && (b[0]?.getD 0) &&& 0x0f == 8 && (b[0]?.getD 0) >>> 4 ≤ 7

/-- The format that the first bytes point to. Raw DEFLATE and Brotli have no signature, and the test
for zlib is weak, so it comes last. -/
def codec? (b : ByteArray) : Option Codec :=
  match signatures.find? fun s => Bytes.startsWith b s.1 with
  | some (_, c) => some c
  | none => if resemblesZlib b then some .zlib else none

def decompressor? (b : ByteArray) (chunk : ChunkSize) : Option Decompressor :=
  (codec? b).map fun c => Decompressor.new c chunk

end Sniffer

end StreamCodec
