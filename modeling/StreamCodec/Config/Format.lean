import StreamCodec.Files.Location
import StreamCodec.Json.Draft
import StreamCodec.Json.Writer
import StreamCodec.Toml.Document
import StreamCodec.Toml.Writer
import StreamCodec.Yaml.Document
import StreamCodec.Yaml.Writer

/-!
The formats of files with settings. The extension of a file tells the format in which it is
read.
-/

namespace StreamCodec.Config

inductive Format where
  | yaml
  | toml
  | json
deriving DecidableEq, Repr

namespace Format

/-- The format in which a file is read; that of files without a known extension is YAML. -/
def ofPath (path : String) : Format :=
  match Files.Location.extension? path with
  | some "toml" => toml
  | some "json" => json
  | _ => yaml

def extensions : Format → List String
  | yaml => ["yaml", "yml"]
  | toml => ["toml"]
  | json => ["json"]

def parse? : Format → String → Option Value
  | yaml => Yaml.parse?
  | toml => Toml.parse?
  | json => Json.parse?

def write (s : Settings) : Format → String
  | yaml => Yaml.write s.sections
  | toml => Toml.write s.sections
  | json => Json.pretty s.toValue

end Format

end StreamCodec.Config
