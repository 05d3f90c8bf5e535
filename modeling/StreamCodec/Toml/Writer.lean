import StreamCodec.Config.Settings

/-!
Writing settings as TOML, a table under each heading.
-/

namespace StreamCodec.Toml

open Config (Field Section boolText)

/-- What decides how a text is quoted. -/
structure Traits where
  single : Nat := 0
  double : Nat := 0
  backslash : Bool := false
  control : Bool := false
  lines : Bool := false

def longestRun (c : Char) : List Char → (run best : Nat) → Nat
  | [], _, best => best
  | x :: r, run, best =>
    if x = c then longestRun c r (run + 1) (max best (run + 1)) else longestRun c r 0 best

def Traits.of (cs : List Char) : Traits where
  single := longestRun '\'' cs 0 0
  double := longestRun '"' cs 0 0
  backslash := cs.contains '\\'
  control := cs.any fun c => c ≠ '\t' && c ≠ '\n' && (c.toNat < 0x20 || c.toNat = 0x7f)
  lines := cs.contains '\n'

/-- Text in double quotes; `long` text keeps its line ends, and up to two quotes in a row. -/
def escape (long : Bool) : List Char → (run : Nat) → List Char
  | [], _ => []
  | c :: r, run =>
    if c = '"' then if long && run < 2 then '"' :: escape long r (run + 1)
    else '\\' :: '"' :: escape long r 0
    else
      let shown : List Char :=
        if c = '\x08' then ['\\', 'b']
        else if c = '\t' then ['\\', 't']
        else if c = '\n' then if long then ['\n'] else ['\\', 'n']
        else if c = '\x0c' then ['\\', 'f']
        else if c = '\r' then ['\\', 'r']
        else if c = '\\' then ['\\', '\\']
        else if c.toNat < 0x20 ∨ c.toNat = 0x7f then
          "\\u00".toList ++ ((Nat.toDigits 16 (256 + c.toNat)).drop 1).map Char.toUpper
        else [c]
      shown ++ escape long r 0

/-- A text in the first kind of quotes that needs no escapes. -/
def quote (s : String) : String :=
  let cs := s.toList
  let t := Traits.of cs
  let start := if t.lines then "\n" else ""
  let short := "\"" ++ String.ofList (escape false cs 0) ++ "\""
  let long := "\"\"\"" ++ start ++ String.ofList (escape true cs 0) ++ "\"\"\""
  if !t.control && !t.backslash && t.double = 0 && !t.lines then short
  else if !t.control && t.single = 0 && !t.lines then "'" ++ s ++ "'"
  else if !t.control && !t.backslash && t.double ≤ 2 then long
  else if !t.control && t.single ≤ 2 then "'''" ++ start ++ s ++ "'''"
  else if t.lines then long
  else short

def writeField : Field → String
  | .text s => quote s
  | .size n => toString n
  | .flag b => boolText b

def writeSection (s : Section) : String :=
  "[" ++ s.1 ++ "]\n" ++ String.join (s.2.map fun (k, f) => k ++ " = " ++ writeField f ++ "\n")

def write (sections : List Section) : String := String.intercalate "\n" (sections.map writeSection)

end StreamCodec.Toml
