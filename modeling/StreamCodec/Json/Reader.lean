import StreamCodec.Double.Text
import StreamCodec.Json.Draft
import StreamCodec.Quoted

/-!
Reading values of given types out of a JSON tree. A reader goes through the tree from front
to back and stops at what is wrong first, be it a value of another type or a break.
-/

namespace StreamCodec.Json

inductive Fault where
  | broken
  | data (message : String)
deriving DecidableEq, Repr

abbrev Reader (α : Type) := Draft → Except Fault α

namespace Reader

/-- What a value is, for a message; `none` when it cannot be read at all. -/
def describe : Draft → Option String
  | .null => some "null"
  | .bool b => some ("boolean `" ++ (if b then "true" else "false") ++ "`")
  | .number (.nat n) => some s!"integer `{n}`"
  | .number (.negative n) => some s!"integer `-{n}`"
  | .number (.real x) => some s!"floating point `{x.pointed}`"
  | .text s => some ("string " ++ Quoted.quote s)
  | .list .. => some "sequence"
  | .object .. => some "map"
  | .spoilt | .broken => none

def wrongType {α : Type} (expected : String) : Reader α := fun d =>
  match describe d with
  | some what => .error (.data s!"invalid type: {what}, expected {expected}")
  | none => .error .broken

def nat (limit : Nat) (expected : String) : Reader Nat
  | .number (.nat n) =>
    if n < limit then .ok n
    else .error (.data s!"invalid value: integer `{n}`, expected {expected}")
  | .number (.negative n) => .error (.data s!"invalid value: integer `-{n}`, expected {expected}")
  | d => wrongType expected d

def bool : Reader Bool
  | .bool b => .ok b
  | d => wrongType "a boolean" d

def text : Reader String
  | .text s => .ok s
  | d => wrongType "a string" d

def named {α : Type} (options : List (String × α)) (s : String) : Except Fault α :=
  match options.find? fun o => o.1 == s with
  | some o => .ok o.2
  | none =>
    let names := String.intercalate ", " (options.map fun o => "`" ++ o.1 ++ "`")
    .error (.data s!"unknown variant `{s}`, expected one of {names}")

/-- One of some values, by its name: alone, or as the only key of an object, with nothing behind
it. -/
def choice {α : Type} (options : List (String × α)) : Reader α
  | .text s => named options s
  | .object [] (some d) => wrongType "variant identifier" d
  | .object ((k, d) :: rest) wrong => do
    let a ← named options k
    match d, rest, wrong with
    | .null, [], none => .ok a
    | .null, _, _ => .error .broken
    | d, _, _ => wrongType "unit" d
  | _ => .error .broken

/-- How a record is read: its fields in order, and how one is taken in. -/
structure Shape (α : Type) where
  name : String
  fields : List String
  take : (field : String) → Draft → α → Except Fault α
  strict : Bool := false

namespace Shape

variable {α : Type} (s : Shape α)

/-- The fields by position. A break counts when the next field is asked for. -/
def takeItems : (fields : List String) → List Draft → (complete : Bool) → α → Except Fault α
  | [], [], true, a => .ok a
  | [], _, _, _ => .error .broken
  | fields, [], true, a =>
    if s.strict then
      let count := s.fields.length
      .error (.data
        s!"invalid length {count - fields.length}, expected struct {s.name} with {count} elements")
    else .ok a
  | _, [], false, _ => .error .broken
  | f :: fields, d :: ds, complete, a => do takeItems fields ds complete (← s.take f d a)

def takeEntries : (seen : List String) → List (String × Draft) → α → Except Fault (List String × α)
  | seen, [], a => .ok (seen, a)
  | seen, (k, d) :: es, a =>
    if !s.fields.contains k then takeEntries seen es a
    else if seen.contains k then .error (.data s!"duplicate field `{k}`")
    else do takeEntries (k :: seen) es (← s.take k d a)

def read (start : α) : Reader α
  | .list ds complete => s.takeItems s.fields ds complete start
  | .object es wrong => do
    let (seen, a) ← s.takeEntries [] es start
    if wrong.isSome then .error .broken
    else
      match s.fields.find? fun f => !seen.contains f with
      | some f => if s.strict then .error (.data s!"missing field `{f}`") else .ok a
      | none => .ok a
  | d => wrongType s!"struct {s.name}" d

end Shape

/-- Reads a whole text. What follows the value counts only when the value can be read. -/
def run {α : Type} (r : Reader α) (s : String) : Except Fault α := do
  let (d, whole) := Draft.ofText s
  let a ← r d
  if whole then .ok a else .error .broken

end Reader

end StreamCodec.Json
