import StreamCodec.Config.Value
import StreamCodec.Lowercase

/-!
Settings from environment variables. A name gives a setting if the name of the program and a
separator stand in front of it, in capitals or not; further separators divide the path.
-/

namespace StreamCodec.Config

abbrev Variables := List (String × String)

namespace Variables

/-- A text with `new` wherever `old` stood; `skip` letters belong to what was replaced. -/
def replaceAll (old new : List Char) : (skip : Nat) → List Char → List Char
  | _, [] => []
  | n + 1, _ :: r => replaceAll old new n r
  | 0, c :: r =>
    if old.isPrefixOf (c :: r) then new ++ replaceAll old new (old.length - 1) r
    else c :: replaceAll old new 0 r

/-- The path that a variable sets, if it is one of the program's. -/
def path? (program separator name : String) : Option String :=
  let front := (Lowercase.text (program ++ separator)).toList
  let cs := (Lowercase.text name).toList
  if !front.isPrefixOf cs then none
  else
    let rest := cs.drop front.length
    some (String.ofList (if separator.isEmpty then rest
      else replaceAll separator.toList ['.'] 0 rest))

def settings (vs : Variables) (program separator : String) : List (String × Value) :=
  vs.filterMap fun (name, text) => (path? program separator name).map fun p => (p, .text text)

end Variables

end StreamCodec.Config
