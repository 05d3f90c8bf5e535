import StreamCodec.Config.Build

/-!
Loading settings from their usual places, and saving them. The extension of a file tells the
format here as it does where files are read.
-/

namespace StreamCodec.Config

namespace Surroundings

def localNames : List String := ["decoco.yaml", "decoco.yml", "decoco.toml", "decoco.json"]

def userNames : List String := ["config.yaml", "config.yml", "config.toml", "config.json"]

def userFolder? (w : Surroundings) : Option String :=
  match w.environment.lookup "XDG_CONFIG_HOME" with
  | some folder => some folder
  | none => (w.environment.lookup "HOME").map (Files.Location.join · ".config")

def usualPaths (w : Surroundings) : List String :=
  match w.userFolder? with
  | some folder =>
    localNames ++ userNames.map (Files.Location.join (Files.Location.join folder "decoco"))
  | none => localNames

/-- The first file with settings in the usual places. -/
def usualFile? (w : Surroundings) : Option String := w.usualPaths.find? w.files.has

end Surroundings

namespace Settings

def overrides : Layer := .environment "DECOCO"

/-- Settings from some files; those that are not there set nothing. -/
def loadAll (w : Surroundings) (paths : List String) : Except Fault Settings :=
  Plan.build { layers := .defaults :: paths.map .file ++ [overrides] } w

def load (w : Surroundings) (path : String) : Except Fault Settings :=
  if w.files.has path then loadAll w [path] else .error (.io path "Configuration file not found")

def loadUsual (w : Surroundings) : Except Fault Settings := loadAll w w.usualFile?.toList

/-- The text of settings for a file. The extension tells the format, which is YAML without a known
one. -/
def written (s : Settings) (path : String) : String :=
  match Files.Location.extension? path with
  | some "toml" => Format.toml.write s
  | some "json" => Format.json.write s
  | _ => Format.yaml.write s

def save (s : Settings) (w : Surroundings) (path : String) : Except Fault Surroundings :=
  match w.files.write path (s.written path) with
  | .ok files => .ok { w with files }
  | .error r => .error (.io path r.message)

end Settings

end StreamCodec.Config
