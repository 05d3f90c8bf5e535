import StreamCodec.Config.Path
import StreamCodec.Config.Value

/-!
Merged settings. Each value knows the layer it came from; tables belong to all layers. A
value that is set later replaces an earlier one, and tables are merged key by key.
-/

namespace StreamCodec.Config

abbrev Origin := Option String

inductive Setting where
  | scalar (origin : Origin) (s : Scalar)
  | list (origin : Origin) (items : List Setting)
  | table (origin : Origin) (entries : List (String × Setting))
deriving Inhabited

namespace Setting

def nothing : Setting := scalar none .null

mutual

def ofValue (origin : Origin) : Value → Setting
  | .scalar s => scalar origin s
  | .list items => list origin (ofValues origin items)
  | .table entries => table origin (ofEntries origin entries)

def ofValues (origin : Origin) : List Value → List Setting
  | [] => []
  | v :: vs => ofValue origin v :: ofValues origin vs

def ofEntries (origin : Origin) : List (String × Value) → List (String × Setting)
  | [] => []
  | (k, v) :: es => (k, ofValue origin v) :: ofEntries origin es

end

abbrev Entries := List (String × Setting)

/-- Sets a key, in its old place if it has one. -/
def put : Entries → String → Setting → Entries
  | [], k, s => [(k, s)]
  | (k', s') :: es, k, s => if k' = k then (k, s) :: es else (k', s') :: put es k s

def entries : Setting → Entries
  | table _ es => es
  | _ => []

/-- Where a table came from; another setting that becomes one belongs to no layer. -/
def tableOrigin : Setting → Origin
  | table o _ => o
  | _ => none

mutual

def merge (old : Setting) : (new : Setting) → Setting
  | table _ es => table old.tableOrigin (mergeEntries old.entries es)
  | new => new

def mergeEntries (old : Entries) : Entries → Entries
  | [] => old
  | (k, s) :: es => mergeEntries (put old k (merge ((old.lookup k).getD nothing) s)) es

end

/-- Changes the item at a place of a list, which grows as needed; places before the start are put in
front. -/
def alterItem (f : Setting → Setting) (items : List Setting) (i : Int) : List Setting :=
  if 0 ≤ i then
    let n := i.toNat
    let items := items ++ List.replicate (n + 1 - items.length) nothing
    items.modify n f
  else
    let back := (-i).toNat
    if back ≤ items.length then items.modify (items.length - back) f
    else (List.replicate (back - items.length) nothing ++ items).modify 0 f

/-- Changes the setting at the end of some steps; what is in the way becomes a table or a list. -/
def alter (f : Setting → Setting) : List Step → Setting → Setting
  | [], s => f s
  | .key k :: steps, s =>
    table s.tableOrigin (put s.entries k (alter f steps ((s.entries.lookup k).getD nothing)))
  | .place i :: steps, s =>
    match s with
    | list o items => list o (alterItem (alter f steps) items i)
    | _ => list none (alterItem (alter f steps) [] i)

def apply (old : Entries) (layer : Entries) : Entries :=
  layer.foldl (fun old (k, s) =>
    let p := Path.ofText k
    put old p.top (alter (merge · s) p.steps ((old.lookup p.top).getD nothing))) old

end Setting

end StreamCodec.Config
