import StreamCodec.Config.Value
import StreamCodec.Double.Text

/-!
Writing JSON, on one line or with one entry a line.
-/

namespace StreamCodec.Json

open Config (Scalar Value)

def escape (c : Char) : String :=
  if c = '"' then "\\\""
  else if c = '\\' then "\\\\"
  else if c = '\x08' then "\\b"
  else if c = '\x0c' then "\\f"
  else if c = '\n' then "\\n"
  else if c = '\r' then "\\r"
  else if c = '\t' then "\\t"
  else if c.toNat < 0x20 then "\\u00" ++ String.ofList ((Nat.toDigits 16 (256 + c.toNat)).drop 1)
  else c.toString

def quote (s : String) : String := "\"" ++ String.join (s.toList.map escape) ++ "\""

def scalar : Scalar → String
  | .null => "null"
  | .bool b => if b then "true" else "false"
  | .int i => toString i
  | .real x => if x.isFinite then x.pointed else "null"
  | .text s => quote s

mutual

def compact : Value → String
  | .list items => "[" ++ compactItems items "" ++ "]"
  | .table entries => "\x7b" ++ compactEntries entries "" ++ "\x7d"
  | .scalar s => scalar s

/-- The items, each with the separator in front; the first one has `gap` there. -/
def compactItems : List Value → (gap : String) → String
  | [], _ => ""
  | v :: r, gap => gap ++ compact v ++ compactItems r ","

def compactEntries : List (String × Value) → (gap : String) → String
  | [], _ => ""
  | (k, v) :: r, gap => gap ++ quote k ++ ":" ++ compact v ++ compactEntries r ","

end

def newLine (depth : Nat) : String := "\n" ++ String.ofList (List.replicate (2 * depth) ' ')

mutual

def prettyAt (depth : Nat) : Value → String
  | .list [] => "[]"
  | .table [] => "\x7b\x7d"
  | .list items => "[" ++ prettyItems (depth + 1) items "" ++ newLine depth ++ "]"
  | .table entries => "\x7b" ++ prettyEntries (depth + 1) entries "" ++ newLine depth ++ "\x7d"
  | .scalar s => scalar s

def prettyItems (depth : Nat) : List Value → (gap : String) → String
  | [], _ => ""
  | v :: r, gap => gap ++ newLine depth ++ prettyAt depth v ++ prettyItems depth r ","

def prettyEntries (depth : Nat) : List (String × Value) → (gap : String) → String
  | [], _ => ""
  | (k, v) :: r, gap =>
    gap ++ newLine depth ++ quote k ++ ": " ++ prettyAt depth v ++ prettyEntries depth r ","

end

def pretty (v : Value) : String := prettyAt 0 v

end StreamCodec.Json
