import StreamCodec.Config.Settings
import StreamCodec.Json.Reader
import StreamCodec.Json.Writer

/-!
The JSON forms of this library's values.
-/

namespace StreamCodec.Json

open Config (Value CodecSettings LoggingSettings Settings)

namespace Reader

def level : Reader Level := choice (Level.all.map fun l => (l.name, l))

def codec : Reader Codec :=
  choice ([Codec.deflate, .zlib, .gzip, .bzip2, .lzma, .brotli, .zstd].map fun c => (c.name, c))

def severity : Reader Severity := choice (Severity.all.map fun s => (s.label, s))

def chunkSize : Reader ChunkSize := fun d => do
  match ChunkSize.ofNat (← nat Token.wordLimit "usize" d) with
  | .ok c => return c
  | .error e => .error (.data e.message)

def statsShape : Shape Stats where
  name := "StreamStats"
  fields := ["bytes_in", "bytes_out"]
  strict := true
  take := fun field d s => do
    let n ← nat Token.wordLimit "u64" d
    return if field = "bytes_in" then { s with bytesIn := n } else { s with bytesOut := n }

def stats : Reader Stats := statsShape.read {}

def codecShape : Shape CodecSettings where
  name := "CodecConfig"
  fields := ["default_codec", "level", "chunk_size", "output_chunk_size"]
  take := fun field d s => do
    match field with
    | "default_codec" => return { s with codec := ← text d }
    | "level" => return { s with level := ← level d }
    | "chunk_size" => return { s with chunk := ← chunkSize d }
    | _ => return { s with outputChunk := ← chunkSize d }

def loggingShape : Shape LoggingSettings where
  name := "LoggingConfig"
  fields := ["level", "colored_output"]
  take := fun field d s => do
    match field with
    | "level" => return { s with level := ← text d }
    | _ => return { s with colored := ← bool d }

def settingsShape : Shape Settings where
  name := "Config"
  fields := ["codec", "logging"]
  take := fun field d s => do
    match field with
    | "codec" => return { s with codec := ← codecShape.read {} d }
    | _ => return { s with logging := ← loggingShape.read {} d }

/-- Settings; what is missing is as it is without settings. -/
def settings : Reader Settings := settingsShape.read {}

end Reader

def ofStats (s : Stats) : Value :=
  .table [("bytes_in", .nat s.bytesIn), ("bytes_out", .nat s.bytesOut)]

end StreamCodec.Json
