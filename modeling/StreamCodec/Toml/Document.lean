import StreamCodec.Toml.Number
import StreamCodec.Toml.Table
import StreamCodec.Toml.Text

/-!
Reading a TOML document, one statement a line.
-/

namespace StreamCodec.Toml

open Config (Value)

mutual

def value : (fuel : Nat) → List Char → Option (Value × List Char)
  | 0, _ => none
  | fuel + 1, cs =>
    match cs with
    | '[' :: r => (items fuel (dropSpace r.length r) []).map fun (vs, r) => (.list vs, r)
    | '{' :: r =>
      match dropBlanks r with
      | '}' :: r => some (.table [], r)
      | r => (pairs fuel r []).map fun (es, r) => (.table (entriesToValue es), r)
    | '"' :: _ | '\'' :: _ => (string cs).map fun (s, r) => (.text s, r)
    | _ =>
      let (l, r) := takeWord cs
      (word l).map fun s => (.scalar s, r)

def items : (fuel : Nat) → List Char → List Value → Option (List Value × List Char)
  | 0, _, _ => none
  | fuel + 1, cs, acc =>
    match cs with
    | ']' :: r => some (acc.reverse, r)
    | _ => do
      let (v, r) ← value fuel cs
      match dropSpace r.length r with
      | ',' :: r => items fuel (dropSpace r.length r) (v :: acc)
      | ']' :: r => return ((v :: acc).reverse, r)
      | _ => none

def pairs : (fuel : Nat) → List Char → Entries → Option (Entries × List Char)
  | 0, _, _ => none
  | fuel + 1, cs, es => do
    let (k, v, r) ← pair fuel cs
    let es ← es.set [] k v
    match dropBlanks r with
    | ',' :: r => pairs fuel r es
    | '}' :: r => return (es, r)
    | _ => none

def pair : (fuel : Nat) → List Char → Option (List String × Value × List Char)
  | 0, _ => none
  | fuel + 1, cs => do
    let (k, r) ← key (cs.length + 1) cs
    let '=' :: r := r | none
    let (v, r) ← value fuel (dropBlanks r)
    return (k, v, r)

end

def header (ending : List Char) (cs : List Char) : Option (List String × List Char) := do
  let (k, r) ← key (cs.length + 1) cs
  if ending.isPrefixOf r then some (k, r.drop ending.length) else none

/-- The statements of a document; `path` is that of the last header. -/
def statements : (fuel : Nat) → List Char → (path : List String) → Entries → Option Entries
  | 0, _, _, _ => none
  | fuel + 1, cs, path, es => do
    match dropSpace (cs.length + 1) cs with
    | [] => return es
    | '[' :: '[' :: r => do
      let (path, r) ← header [']', ']'] r
      statements fuel (← endStatement r) path (← es.addTable path)
    | '[' :: r => do
      let (path, r) ← header [']'] r
      statements fuel (← endStatement r) path (← es.openTable path)
    | cs => do
      let (k, v, r) ← pair (2 * cs.length + 2) cs
      statements fuel (← endStatement r) path (← es.set path k v)

def parse? (s : String) : Option Value :=
  let cs := s.toList
  (statements (cs.length + 1) cs [] []).map fun es => .table (entriesToValue es)

end StreamCodec.Toml
