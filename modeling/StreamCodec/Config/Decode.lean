import StreamCodec.Config.Misfit
import StreamCodec.Config.Settings

/-!
Reading settings out of what was merged. Truth values, numbers and texts are taken for one
another where that makes sense; the fields of a table may also stand in a list, in order.
-/

namespace StreamCodec.Config

abbrev Decode (α : Type) := Setting → Except Misfit α

namespace Decode

/-- The setting is not of the type that is expected. A table belongs to no layer. -/
def wrongType {α : Type} (expected : String) : Decode α
  | .scalar o s => .error { problem := .wrongType s.described expected, origin := o }
  | .list o _ => .error { problem := .wrongType "sequence" expected, origin := o }
  | .table o _ => .error { problem := .wrongType "map" expected, origin := o }

def bool : Decode Bool := fun s =>
  match s with
  | .scalar _ (.bool b) => .ok b
  | .scalar _ (.int i) => .ok (i ≠ 0)
  | .scalar _ (.real x) => .ok (!x.isZero)
  | .scalar o (.text t) =>
    let t := t.toLower
    if ["1", "true", "on", "yes"].contains t then .ok true
    else if ["0", "false", "off", "no"].contains t then .ok false
    else wrongType "a boolean" (.scalar o (.text t))
  | _ => wrongType "a boolean" s

def digits? (t : String) : Option Nat :=
  let l := match t.toList with
    | '+' :: r => r
    | l => l
  if l.isEmpty || !l.all Char.isDigit then none
  else
    let n := l.foldl (fun n c => 10 * n + (c.toNat - 48)) 0
    if n < 0x10000000000000000 then some n else none

def word : Decode Nat := fun s =>
  match s with
  | .scalar o (.int i) =>
    if 0 ≤ i then .ok i.toNat
    else
      let expected := "an unsigned 64 bit or less integer"
      .error { problem := .wrongType (Scalar.int i).described expected, origin := o }
  | .scalar _ (.text t) =>
    let lower := t.toLower
    if ["true", "on", "yes"].contains lower then .ok 1
    else if ["false", "off", "no"].contains lower then .ok 0
    else
      match digits? t with
      | some n => .ok n
      | none => wrongType "an integer" s
  | .scalar _ (.bool b) => .ok b.toNat
  | .scalar _ (.real x) => .ok x.toWord
  | _ => wrongType "an integer" s

def text : Decode String := fun s =>
  match s with
  | .scalar _ (.text t) => .ok t
  | .scalar _ (.bool b) => .ok (boolText b)
  | .scalar _ (.int i) => .ok (toString i)
  | .scalar _ (.real x) => .ok x.text
  | _ => wrongType "a string" s

def levelNamed (name : String) : Except Misfit Level :=
  match Level.ofName? name with
  | some l => .ok l
  | none => .error { problem := .unknownLevel name }

/-- A level by its name, as a text or as the only key of a table. -/
def level : Decode Level
  | .scalar _ (.text t) => levelNamed t
  | .table _ [(k, _)] => levelNamed k
  | _ => .error { problem := .levelShape }

def chunkSize : Decode ChunkSize := fun s => do
  match ChunkSize.ofNat (← word s) with
  | .ok c => return c
  | .error e => .error { problem := .chunkSize e }

/-- How a table of known fields is read. -/
structure Shape (α : Type) where
  name : String
  fields : List String
  take : (field : String) → Setting → α → Except Misfit α

namespace Shape

variable {α : Type} (s : Shape α)

def takeFields (es : Setting.Entries) : List String → α → Except Misfit α
  | [], a => .ok a
  | f :: fs, a => do
    let a ← match es.lookup f with
      | some x => (s.take f x a).mapError (·.under (.key f))
      | none => .ok a
    takeFields es fs a

def takeItems : (i : Nat) → List String → List Setting → α → Except Misfit α
  | i, f :: fs, x :: xs, a => do
    takeItems (i + 1) fs xs (← (s.take f x a).mapError (·.under (.place i)))
  | _, _, _, a => .ok a

def read (start : α) : Decode α
  | .table _ es => s.takeFields es s.fields start
  | .list _ items => s.takeItems 0 s.fields items start
  | .scalar _ x => .error { problem := .wrongType x.kind s!"struct {s.name}" }

end Shape

def codecShape : Shape CodecSettings where
  name := "CodecConfig"
  fields := ["default_codec", "level", "chunk_size", "output_chunk_size"]
  take := fun field x s => do
    match field with
    | "default_codec" => return { s with codec := ← text x }
    | "level" => return { s with level := ← level x }
    | "chunk_size" => return { s with chunk := ← chunkSize x }
    | _ => return { s with outputChunk := ← chunkSize x }

def loggingShape : Shape LoggingSettings where
  name := "LoggingConfig"
  fields := ["level", "colored_output"]
  take := fun field x s => do
    match field with
    | "level" => return { s with level := ← text x }
    | _ => return { s with colored := ← bool x }

def settingsShape : Shape Settings where
  name := "Config"
  fields := ["codec", "logging"]
  take := fun field x s => do
    match field with
    | "codec" => return { s with codec := ← codecShape.read {} x }
    | _ => return { s with logging := ← loggingShape.read {} x }

/-- Settings; what is missing is as it is without settings. -/
def settings (es : Setting.Entries) : Except Misfit Settings :=
  settingsShape.read {} (.table none es)

end Decode

end StreamCodec.Config
