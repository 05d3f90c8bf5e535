import StreamCodec.Yaml.Scalar

/-!
YAML nodes as they are written, with anchors and aliases, and the values that they make.
-/

namespace StreamCodec.Yaml

open Config (Value)

inductive Node where
  | plain (s : String)
  | quoted (s : String)
  | list (items : List Node)
  | table (entries : List (Node × Node))
  | tagged (tag : String) (n : Node)
  | anchored (name : String) (n : Node)
  | reference (name : String)
deriving Inhabited

namespace Node

def nothing : Node := plain "~"

abbrev Anchors := List (String × Value)

/-- The text of a value that stands as a key. -/
def keyOf : Value → Option String
  | .scalar (.text s) => some s
  | .scalar (.int i) => some (toString i)
  | .scalar (.bool b) => some (if b then "true" else "false")
  | _ => none

mutual

def toValue? (anchors : Anchors) : Node → Option (Value × Anchors)
  | plain s => (plain? s).map fun x => (.scalar x, anchors)
  | quoted s => some (.text s, anchors)
  | list items => (itemsToValue? anchors items).map fun (vs, anchors) => (.list vs, anchors)
  | table entries => do
    let (es, anchors) ← entriesToValue? anchors entries []
    return (.table es, anchors)
  | tagged tag (plain s) => (tagged? tag s).map fun x => (.scalar x, anchors)
  | tagged _ n => toValue? anchors n
  | anchored name n => do
    let (v, anchors) ← toValue? anchors n
    return (v, (name, v) :: anchors)
  | reference name => (anchors.lookup name).map fun v => (v, anchors)

def itemsToValue? (anchors : Anchors) : List Node → Option (List Value × Anchors)
  | [] => some ([], anchors)
  | n :: ns => do
    let (v, anchors) ← toValue? anchors n
    let (vs, anchors) ← itemsToValue? anchors ns
    return (v :: vs, anchors)

def entriesToValue? (anchors : Anchors) :
    List (Node × Node) → List (String × Value) → Option (List (String × Value) × Anchors)
  | [], acc => some (acc.reverse, anchors)
  | (k, n) :: es, acc => do
    let (kv, anchors) ← toValue? anchors k
    let key ← keyOf kv
    if acc.any fun e => e.1 == key then none
    else
      let (v, anchors) ← toValue? anchors n
      entriesToValue? anchors es ((key, v) :: acc)

end

end Node

end StreamCodec.Yaml
