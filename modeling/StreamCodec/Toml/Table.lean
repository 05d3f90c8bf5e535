import StreamCodec.Config.Value

/-!
A TOML document as it is put together. No key may be set twice, and no table may be opened
twice; so a table remembers whether it was only passed through, and whether by dots.
-/

namespace StreamCodec.Toml

open Config (Value)

/-- What stands at a key. A table may only have been passed through so far, and be made by dots. -/
inductive Item where
  | value (v : Value)
  | table (passed dotted : Bool) (entries : List (String × Item))
  | tables (ts : List (List (String × Item)))

abbrev Entries := List (String × Item)

namespace Entries

def get? (es : Entries) (k : String) : Option Item := es.lookup k

def put (es : Entries) (k : String) (item : Item) : Entries :=
  if es.any fun e => e.1 == k then es.map fun e =>
    if e.1 == k then (k, item) else e else es ++ [(k, item)]

/-- Changes the table at the end of a path. `here` tells whether a table was made by dots. -/
def descend (dotted : Bool) (f : (here : Bool) → Entries → Option Entries) :
    List String → (here : Bool) → Entries → Option Entries
  | [], here, es => f here es
  | k :: ks, _, es =>
    match es.get? k with
    | none => (descend dotted f ks dotted []).map fun sub => es.put k (.table true dotted sub)
    | some (.value _) => none
    | some (.tables ts) =>
      match ts.getLast? with
      | none => none
      | some last =>
        (descend dotted f ks false last).map fun sub => es.put k (.tables (ts.dropLast ++ [sub]))
    | some (.table passed d sub) =>
      if dotted && !passed then none
      else (descend dotted f ks d sub).map fun sub => es.put k (.table passed d sub)

def openTable (es : Entries) (path : List String) : Option Entries :=
  match path.getLast? with
  | none => none
  | some k =>
    descend false (fun _ es =>
      match es.get? k with
      | none => some (es.put k (.table false false []))
      | some (.table true false sub) => some (es.put k (.table false false sub))
      | _ => none) path.dropLast false es

def addTable (es : Entries) (path : List String) : Option Entries :=
  match path.getLast? with
  | none => none
  | some k =>
    descend false (fun _ es =>
      match es.get? k with
      | none => some (es.put k (.tables [[]]))
      | some (.tables ts) => some (es.put k (.tables (ts ++ [[]])))
      | _ => none) path.dropLast false es

def set (es : Entries) (path key : List String) (v : Value) : Option Entries :=
  match key.getLast? with
  | none => none
  | some k =>
    let way := key.dropLast
    let place (here : Bool) (es : Entries) : Option Entries :=
      if here = way.isEmpty then none
      else
        match es.get? k with
        | some _ => none
        | none => some (es.put k (.value v))
    descend false (fun _ es => descend true place way false es) path false es

end Entries

mutual

def Item.toValue : Item → Value
  | .value v => v
  | .table _ _ entries => .table (entriesToValue entries)
  | .tables ts => .list (tablesToValue ts)

def entriesToValue : List (String × Item) → List (String × Value)
  | [] => []
  | (k, i) :: r => (k, i.toValue) :: entriesToValue r

def tablesToValue : List (List (String × Item)) → List Value
  | [] => []
  | t :: r => .table (entriesToValue t) :: tablesToValue r

end

end StreamCodec.Toml
