import StreamCodec.Config.Value
import StreamCodec.Registry

/-!
What can be configured: which format is used and how, and what is logged. Settings give
ready compressors and decompressors.
-/

namespace StreamCodec.Config

structure CodecSettings where
  codec : String := Codec.zstd.name
  level : Level := .standard
  chunk : ChunkSize := .standard
  outputChunk : ChunkSize := .standard
deriving DecidableEq, Repr

structure LoggingSettings where
  level : String := "info"
  colored : Bool := true
deriving DecidableEq, Repr

structure Settings where
  codec : CodecSettings := {}
  logging : LoggingSettings := {}
deriving DecidableEq, Repr, Inhabited

inductive Field where
  | text (s : String)
  | size (n : Nat)
  | flag (b : Bool)
deriving DecidableEq, Repr

def Field.toScalar : Field → Scalar
  | text s => .text s
  | size n => .int n
  | flag b => .bool b

abbrev Section := String × List (String × Field)

def logLevels : List String := ["trace", "debug", "info", "warn", "error"]

def boolText (b : Bool) : String := if b then "true" else "false"

namespace CodecSettings

variable [Engines]

def find (s : CodecSettings) : Except Error Codec :=
  match Codec.ofName? s.codec with
  | some c => .ok c
  | none => .error (.unknownCodec s.codec)

def compressor (s : CodecSettings) : Except Error Compressor :=
  match Registry.compressor? s.codec s.level s.chunk with
  | some c => .ok c
  | none => .error (.unknownCodec s.codec)

def decompressor (s : CodecSettings) : Except Error Decompressor :=
  match Registry.decompressor? s.codec s.outputChunk with
  | some d => .ok d
  | none => .error (.unknownCodec s.codec)

def label (s : CodecSettings) : String :=
  s!"CodecConfig \x7b default_codec: {Quoted.quote s.codec}, level: {s.level.label}, "
    ++ s!"chunk_size: {s.chunk.label}, output_chunk_size: {s.outputChunk.label} \x7d"

def fields (s : CodecSettings) : List (String × Field) :=
  [("default_codec", .text s.codec), ("level", .text s.level.name),
    ("chunk_size", .size s.chunk.size), ("output_chunk_size", .size s.outputChunk.size)]

end CodecSettings

namespace LoggingSettings

def label (s : LoggingSettings) : String :=
  s!"LoggingConfig \x7b level: {Quoted.quote s.level}, colored_output: {boolText s.colored} \x7d"

def fields (s : LoggingSettings) : List (String × Field) :=
  [("level", .text s.level), ("colored_output", .flag s.colored)]

end LoggingSettings

namespace Settings

def label (s : Settings) : String :=
  s!"Config \x7b codec: {s.codec.label}, logging: {s.logging.label} \x7d"

/-- What a document that holds the settings has under which headings. -/
def sections (s : Settings) : List Section :=
  [("codec", s.codec.fields), ("logging", s.logging.fields)]

def toValue (s : Settings) : Value :=
  .table (s.sections.map fun (name, fields) => (name,
    .table (fields.map fun (k, f) => (k, .scalar f.toScalar))))

end Settings

end StreamCodec.Config
