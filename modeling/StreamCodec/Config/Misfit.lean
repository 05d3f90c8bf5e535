import StreamCodec.ChunkSize
import StreamCodec.Config.Path
import StreamCodec.Config.Setting
import StreamCodec.Double.Text
import StreamCodec.Quoted

/-!
Settings of the wrong type or out of bounds: what is wrong, at which path, and where it
came from.
-/

namespace StreamCodec.Config

inductive Problem where
  | wrongType (found expected : String)
  | chunkSize (e : ChunkSizeError)
  | unknownLevel (name : String)
  | levelShape
deriving DecidableEq, Repr

structure Misfit where
  problem : Problem
  path : List Step := []
  origin : Origin := none
deriving DecidableEq, Repr

def Scalar.described : Scalar → String
  | .null => "unit value"
  | .bool b => "boolean `" ++ (if b then "true" else "false") ++ "`"
  | .int i => s!"64-bit integer `{i}`"
  | .real x => s!"floating point `{x.text}`"
  | .text s => "string " ++ Quoted.quote s

def Scalar.kind : Scalar → String
  | .int i => s!"integer `{i}`"
  | .real x => s!"floating point `{x.pointed}`"
  | s => s.described

namespace Misfit

def message (m : Misfit) : String :=
  let what := match m.problem with
    | .wrongType found expected => s!"invalid type: {found}, expected {expected}"
    | .chunkSize e => e.message
    | .unknownLevel name => s!"enum Level does not have variant constructor {name}"
    | .levelShape =>
      "value of enum Level should be represented by either string or table with exactly one key"
  let place := if m.path.isEmpty then "" else s!" for key `{Path.text m.path}`"
  what ++ place ++ (m.origin.map (" in " ++ ·)).getD ""

/-- The misfit as seen from one step further out. -/
def under (step : Step) (m : Misfit) : Misfit := { m with path := step :: m.path }

end Misfit

end StreamCodec.Config
