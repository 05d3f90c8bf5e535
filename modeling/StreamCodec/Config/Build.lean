import StreamCodec.Config.Decode
import StreamCodec.Config.Environment
import StreamCodec.Config.Fault
import StreamCodec.Config.Format
import StreamCodec.Files.Tree

/-!
Settings from layers: built-in ones, files, environment variables. A later layer replaces
what earlier ones set, key by key. Settings that are built are fit for use: the format and
the log level that they name are there.
-/

namespace StreamCodec.Config

inductive Layer where
  | defaults
  | file (path : String)
  | environment (program : String)
deriving DecidableEq, Repr

/-- Which layers are merged, from the first to the last, and what stands between the parts of
a variable's name. -/
structure Plan where
  layers : List Layer
  separator : String := "__"
deriving DecidableEq, Repr

structure Surroundings where
  files : Files.Tree := {}
  environment : Variables := []

namespace Surroundings

/-- The file that a path means, and its text. A path to a folder means a file of that name beside
it. -/
def source? (w : Surroundings) (path : String) : Option (String × String) :=
  let place := Files.Location.plain path
  match w.files.read? path with
  | some text => some (place, text)
  | none =>
    if (Files.Location.name? path).isNone then none
    else
      (Format.ofPath path).extensions.findSome? fun e =>
        let place := place ++ "." ++ e
        (w.files.read? place).map fun text => (place, text)

end Surroundings

/-- A text without the mark that tells its encoding. -/
def dropMark (text : String) : String :=
  match text.toList with
  | c :: r => if c.toNat = 0xfeff then String.ofList r else text
  | [] => text

namespace Layer

def ofFile (w : Surroundings) (path : String) : Except Fault Setting.Entries :=
  if !w.files.has path then .ok []
  else
    match w.source? path with
    | none => .error (.noFile path)
    | some (place, text) =>
      match (Format.ofPath path).parse? (dropMark text) with
      | none => .error (.malformed place)
      | some (.table es) => .ok (Setting.ofEntries (some place) es)
      | some (.list _) => .error (.noTable "sequence" place)
      | some (.scalar s) => .error (.noTable s.described place)

def entries (w : Surroundings) (separator : String) : Layer → Except Fault Setting.Entries
  | defaults =>
    match ({} : Settings).toValue with
    | .table es => .ok (Setting.ofEntries none es)
    | _ => .ok []
  | file path => ofFile w path
  | environment program =>
    .ok (Setting.ofEntries (some "the environment") (w.environment.settings program separator))

end Layer

namespace Settings

def check (s : Settings) : Except Fault Unit :=
  if (Codec.ofName? s.codec.codec).isNone then
    let names := String.intercalate ", " (Codec.all.map Codec.name)
    .error (.validation s!"Unknown codec '{s.codec.codec}', expected one of: {names}")
  else if !logLevels.contains s.logging.level then
    .error (.validation ("Log level must be one of: " ++ String.intercalate ", " logLevels))
  else .ok ()

end Settings

namespace Plan

def merged (p : Plan) (w : Surroundings) : Except Fault Setting.Entries :=
  p.layers.foldlM (fun acc l => return Setting.apply acc (← l.entries w p.separator)) []

def build (p : Plan) (w : Surroundings) : Except Fault Settings := do
  let s ← (Decode.settings (← p.merged w)).mapError .misfit
  s.check
  return s

/-- Settings of the layers, or those without settings if there is a fault. -/
def buildOrDefault (p : Plan) (w : Surroundings) : Settings :=
  match p.build w with
  | .ok s => s
  | .error _ => {}

end Plan

end StreamCodec.Config
