import StreamCodec.Config.Misfit
import StreamCodec.Error

/-!
What can go wrong while settings are put together, loaded or saved.
-/

namespace StreamCodec.Config

inductive Fault where
  | io (path message : String)
  | validation (message : String)
  | serialization (message : String)
  | other (message : String)
  | malformed (place : String)
  | noTable (found place : String)
  | noFile (path : String)
  | misfit (m : Misfit)
deriving DecidableEq, Repr

namespace Fault

def message : Fault → String
  | io path m => s!"I/O error on config file '{path}': {m}"
  | validation m => s!"Configuration validation failed: {m}"
  | serialization m => s!"Serialization error: {m}"
  | other m => s!"Configuration error: {m}"
  | malformed place => s!"Configuration error: malformed text in {place}"
  | noTable found place =>
    s!"Configuration error: invalid type: {found}, expected a map in {place} in {place}"
  | noFile path => s!"Configuration error: configuration file \"{path}\" not found"
  | misfit m => s!"Configuration error: {m.message}"

/-- The name of the case; all that concerns merging has one. -/
def variant : Fault → String
  | io .. => "Io"
  | validation _ => "Validation"
  | serialization _ => "Serialization"
  | _ => "Other"

def toError : Fault → Error
  | io _ m => .io m
  | f => .config f.message

end Fault

end StreamCodec.Config
