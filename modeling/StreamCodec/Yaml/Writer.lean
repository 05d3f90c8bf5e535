import StreamCodec.Config.Settings

/-!
Writing settings as YAML, a table under each heading. Text stands without quotes unless it
would be read as something else.
-/

namespace StreamCodec.Yaml

open Config (Field Section boolText)

def truthWords : List String :=
  ["y", "Y", "yes", "Yes", "YES", "n", "N", "no", "No", "NO", "true", "True", "TRUE", "false",
    "False", "FALSE", "on", "On", "ON", "off", "Off", "OFF"]

/-- Whether a text could be taken for a value of another type. -/
def isAmbiguous (s : String) : Bool :=
  truthWords.contains s || ["true", "false", "null", "~", ""].contains s.toLower
    || s.toList.head?.any fun c => c.isDigit || c = '-' || c = '.' || c = '+'

def isPrintable (c : Char) : Bool :=
  c = '\n' || (0x20 ≤ c.toNat && c.toNat ≤ 0x7e)
    || (0xa0 ≤ c.toNat && c.toNat ≠ 0xfeff && c.toNat ≠ 0xfffe && c.toNat ≠ 0xffff)

def isBreak (c : Char) : Bool :=
  c = '\n' || c = '\r' || c.toNat = 0x85 || c.toNat = 0x2028 || c.toNat = 0x2029

def hasPair (p : Char → Char → Bool) : List Char → Bool
  | a :: b :: r => p a b || hasPair p (b :: r)
  | _ => false

def isGap : Option Char → Bool
  | none => true
  | some c => c = ' ' || c = '\t' || isBreak c

def hasMark (cs : List Char) : Bool :=
  let inner : Bool := hasPair (fun a b => a = ':' && isGap (some b)) cs ||
    hasPair (fun a b => isGap (some a) && b = '#') cs
    || cs.getLast? = some ':'
  let first : Bool := match cs with
    | [] => false
    | c :: r =>
      "#,[]\x7b\x7d&*!|>'\"%@\x60".toList.contains c
        || ((c = '?' || c = '-' || c = ':') && isGap r.head?)
  inner || first || ['-', '-', '-'].isPrefixOf cs || ['.', '.', '.'].isPrefixOf cs

/-- How a text can be written. -/
structure Allowed where
  plain : Bool
  single : Bool
  block : Bool

def Allowed.of (cs : List Char) : Allowed :=
  let special : Bool :=
    cs.any (fun c => !isPrintable c) || hasPair (fun a b => a = ' ' && isBreak b) cs
  let breakSpace : Bool := hasPair (fun a b => isBreak a && b = ' ') cs
  let edge (c : Option Char) : Bool := c.any fun c => c = ' ' || isBreak c
  { plain := !(special || breakSpace || edge cs.head? || edge cs.getLast? || cs.any isBreak ||
    hasMark cs)
    single := !(special || breakSpace)
    block := !(special || cs.getLast? = some ' ') && !cs.isEmpty }

def hexOf (width n : Nat) : List Char :=
  ((Nat.toDigits 16 (1 <<< (4 * width) + n)).drop 1).map Char.toUpper

def escapeLetters : List (Nat × Char) :=
  [(0, '0'), (7, 'a'), (8, 'b'), (9, 't'), (10, 'n'), (11, 'v'), (12, 'f'), (13, 'r'), (27, 'e'),
    (34, '"'), (92, '\\'), (0x85, 'N'), (0xa0, '_'), (0x2028, 'L'), (0x2029, 'P')]

def escape (c : Char) : List Char :=
  if isPrintable c && !isBreak c && c ≠ '"' && c ≠ '\\' then [c]
  else
    match escapeLetters.lookup c.toNat with
    | some l => ['\\', l]
    | none =>
      if c.toNat < 0x100 then '\\' :: 'x' :: hexOf 2 c.toNat
      else if c.toNat < 0x10000 then '\\' :: 'u' :: hexOf 4 c.toNat
      else '\\' :: 'U' :: hexOf 8 c.toNat

def indented (width : Nat) : (fresh : Bool) → List Char → List Char
  | _, [] => []
  | fresh, c :: r =>
    if isBreak c then c :: indented width true r
    else (if fresh then List.replicate width ' ' else []) ++ c :: indented width false r

/-- The marks of a text block: the indentation if the text starts with space, and what is done with
the line ends at its end. -/
def marksOf (cs : List Char) : List Char :=
  let start := if cs.head?.any fun c => c = ' ' || isBreak c then ['2'] else []
  let ending := match cs.reverse with
    | [] => ['-']
    | [c] => if isBreak c then ['+'] else ['-']
    | c :: d :: _ => if !isBreak c then ['-'] else if isBreak d then ['+'] else []
  start ++ ending

def quote (width : Nat) (s : String) : String :=
  let cs := s.toList
  let a := Allowed.of cs
  let double := "\"" ++ String.ofList (cs.flatMap escape) ++ "\""
  let single := "'" ++ String.ofList
    (indented width false (cs.flatMap fun c => if c = '\'' then [c, c] else [c])) ++ "'"
  if truthWords.contains s then single
  else if cs.contains '\n' then
    if a.block then String.ofList ('|' :: marksOf cs ++ '\n' :: indented width true cs) else double
  else if a.plain && !isAmbiguous s then s
  else if a.single then single
  else double

def writeField (width : Nat) : Field → String
  | .text s => quote width s
  | .size n => toString n
  | .flag b => boolText b

/-- One entry of a table under a heading. A text block ends with a line end of its own. -/
def writeEntry (k : String) (f : Field) : String :=
  let shown := writeField 4 f
  "  " ++ k ++ ": " ++ shown ++ if shown.toList.getLast? = some '\n' then "" else "\n"

def writeSection (s : Section) : String :=
  s.1 ++ ":\n" ++ String.join (s.2.map fun (k, f) => writeEntry k f)

def write (sections : List Section) : String := String.join (sections.map writeSection)

end StreamCodec.Yaml
