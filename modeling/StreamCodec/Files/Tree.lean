import StreamCodec.Files.Location

/-!
A tree of text files. The folders above a file or a folder need no mention.
-/

namespace StreamCodec.Files

inductive Node where
  | file (text : String)
  | folder
deriving DecidableEq, Repr

inductive Refusal where
  | missing
  | notFolder
  | isFolder
deriving DecidableEq, Repr

def Refusal.message : Refusal → String
  | missing => "No such file or directory (os error 2)"
  | notFolder => "Not a directory (os error 20)"
  | isFolder => "Is a directory (os error 21)"

/-- What stands where; the first mention of a place counts. -/
structure Tree where
  entries : List (List String × Node) := []

namespace Tree

def at? (t : Tree) (place : List String) : Option Node :=
  match t.entries.lookup place with
  | some n => some n
  | none =>
    if place.isEmpty || t.entries.any fun e => place.isPrefixOf e.1 then some .folder else none

def put (t : Tree) (place : List String) (n : Node) : Tree := { entries := (place, n) :: t.entries }

def walk (t : Tree) : (here : List String) → List String → Except Refusal (List String)
  | here, [] => .ok here
  | here, p :: ps =>
    match t.at? here with
    | none => .error .missing
    | some (.file _) => .error .notFolder
    | some .folder =>
      if Location.isIdle p then walk t here ps
      else if p = ".." then walk t here.dropLast ps
      else walk t (here ++ [p]) ps

def node? (t : Tree) (path : String) : Option Node :=
  if path.isEmpty then none
  else
    match t.walk [] (Location.parts path) with
    | .ok place => t.at? place
    | .error _ => none

def has (t : Tree) (path : String) : Bool := (t.node? path).isSome

def read? (t : Tree) (path : String) : Option String :=
  match t.node? path with
  | some (.file text) => some text
  | _ => none

/-- The place for a new file: its folder is there, and no folder stands in its place. -/
def room (t : Tree) (path : String) : Except Refusal (List String) := do
  if path.isEmpty then throw .missing
  let parts := Location.parts path
  let last := parts.getLastD ""
  let folder ← t.walk [] (parts.dropLast ++ ["."])
  if Location.isIdle last || last = ".." then throw .isFolder
  let place := folder ++ [last]
  match t.at? place with
  | some .folder => throw .isFolder
  | _ => return place

def write (t : Tree) (path text : String) : Except Refusal Tree := do
  return t.put (← t.room path) (.file text)

end Tree

end StreamCodec.Files
