import StreamCodec.Yaml.Line
import StreamCodec.Yaml.Node

/-!
YAML in one line or in brackets: text in quotes, text without, lists and tables. Line ends
within such text are folded: one of them is a blank, and more are one less.
-/

namespace StreamCodec.Yaml

open Line (isBlank dropBlanks)

def isSpace (c : Char) : Bool := isBlank c || c = '\n'

def trim (acc : List Char) : List Char := acc.dropWhile isBlank

/-- What the line ends in some space come to. -/
def fold (space : List Char) : List Char :=
  match (space.filter (· = '\n')).length with
  | 0 => space
  | 1 => [' ']
  | n + 2 => List.replicate (n + 1) '\n'

def hexDigit? (c : Char) : Option Nat :=
  let d := digitValue c
  if d < 16 then some d else none

def codeOf (n : Nat) (cs : List Char) : Option (Char × List Char) := do
  let digits := cs.take n
  if digits.length < n then none
  else
    let code ← digits.foldlM (fun acc c => (hexDigit? c).map fun d => 16 * acc + d) 0
    if code < 0xd800 ∨ (0xe000 ≤ code ∧ code < 0x110000) then some (Char.ofNat code, cs.drop n)
    else none

def letters : List (Char × Nat) :=
  [('0', 0), ('a', 7), ('b', 8), ('t', 9), ('\t', 9), ('n', 10), ('v', 11), ('f', 12), ('r', 13),
    ('e', 27), (' ', 32),
    ('"', 34), ('/', 47), ('\\', 92), ('N', 0x85), ('_', 0xa0), ('L', 0x2028), ('P', 0x2029)]

def escaped (cs : List Char) : Option (Char × List Char) :=
  match cs with
  | 'x' :: r => codeOf 2 r
  | 'u' :: r => codeOf 4 r
  | 'U' :: r => codeOf 8 r
  | c :: r => (letters.lookup c).map fun n => (Char.ofNat n, r)
  | [] => none

/-- The rest of a text in double quotes, what has been read in reverse. Blanks in front of a line
end count only when they were escaped: `kept` is what must stay. -/
def double :
    (fuel : Nat) → List Char → (acc : List Char) → (kept : Nat) → Option (List Char × List Char)
  | 0, _, _, _ => none
  | fuel + 1, cs, acc, kept =>
    match cs with
    | [] => none
    | '"' :: r => some (acc.reverse, r)
    | '\\' :: '\n' :: r =>
      let breaks := ((r.takeWhile isSpace).filter (· = '\n')).length
      let acc := List.replicate breaks '\n' ++ acc
      double fuel (r.dropWhile isSpace) acc acc.length
    | '\\' :: r => do
      let (c, r) ← escaped r
      double fuel r (c :: acc) (acc.length + 1)
    | '\n' :: r =>
      let space := '\n' :: r.takeWhile isSpace
      let acc := fold space ++ (acc.take (acc.length - kept)).dropWhile isBlank ++
        acc.drop (acc.length - kept)
      double fuel (r.dropWhile isSpace) acc acc.length
    | c :: r => double fuel r (c :: acc) kept

def single : (fuel : Nat) → List Char → List Char → Option (List Char × List Char)
  | 0, _, _ => none
  | fuel + 1, cs, acc =>
    match cs with
    | [] => none
    | '\'' :: '\'' :: r => single fuel r ('\'' :: acc)
    | '\'' :: r => some (acc.reverse, r)
    | '\n' :: r =>
      single fuel (r.dropWhile isSpace) (fold ('\n' :: r.takeWhile isSpace) ++ trim acc)
    | c :: r => single fuel r (c :: acc)

def quotedText (cs : List Char) : Option (Node × List Char) :=
  let made := match cs with
    | '"' :: r => double (cs.length + 1) r [] 0
    | '\'' :: r => single (cs.length + 1) r []
    | _ => none
  made.map fun (l, r) => (.quoted (String.ofList l), r)

def isFlowMark (c : Char) : Bool := c = ',' || c = '[' || c = ']' || c = '\x7b' || c = '\x7d'

def isIndicator (c : Char) : Bool := ",[]\x7b\x7d#&*!|>'\"%@\x60".toList.contains c

/-- What may follow a colon that ends a key, or another mark. -/
def endsMark (flow : Bool) (cs : List Char) : Bool :=
  match cs with
  | [] => true
  | c :: _ => isSpace c || (flow && isFlowMark c)

def startsPlain (flow : Bool) (cs : List Char) : Bool :=
  match cs with
  | [] => false
  | c :: r =>
    if c = '-' || c = '?' || c = ':' then !endsMark flow r
    else !isSpace c && !(isIndicator c && !(flow && (c = '|' || c = '>')))

def plainLine (flow : Bool) : (acc : List Char) → List Char → List Char × List Char
  | acc, [] => (acc, [])
  | acc, c :: r =>
    if c = '\n' then (acc, c :: r)
    else if c = ':' ∧ endsMark flow r then (acc, c :: r)
    else if c = '#' ∧ (acc.head?.any isBlank) then (acc, c :: r)
    else if flow && isFlowMark c then (acc, c :: r)
    else plainLine flow (c :: acc) r

def plainFlow : (fuel : Nat) → (acc : List Char) → List Char → List Char × List Char
  | 0, acc, cs => (acc, cs)
  | fuel + 1, acc, cs =>
    let (line, r) := plainLine true [] cs
    let acc := trim line ++ acc
    match r with
    | '\n' :: _ =>
      let next := r.dropWhile isSpace
      match next with
      | [] => (acc, r)
      | c :: _ =>
        if c = '#' || isFlowMark c || (c = ':' && endsMark true (next.drop 1)) then (acc, r)
        else plainFlow fuel (fold (r.takeWhile isSpace) ++ acc) next
    | _ => (acc, r)

/-- Drops space and comments. A comment has a blank in front. -/
def dropSpace : (fuel : Nat) → List Char → List Char
  | 0, cs => cs
  | fuel + 1, cs =>
    match cs with
    | c :: r =>
      if isSpace c then
        match r with
        | '#' :: r => dropSpace fuel (r.dropWhile (· ≠ '\n'))
        | _ => dropSpace fuel r
      else cs
    | [] => []

def takeName (cs : List Char) : List Char × List Char :=
  (cs.takeWhile fun c => !isSpace c && !isFlowMark c, cs.dropWhile fun c => !isSpace c &&
    !isFlowMark c)

mutual

def flow : (fuel : Nat) → List Char → Option (Node × List Char)
  | 0, _ => none
  | fuel + 1, cs =>
    match cs with
    | '[' :: r => (flowItems fuel (dropSpace (r.length + 1) r) []).map fun (ns, r) => (.list ns, r)
    | '{' :: r =>
      (flowEntries fuel (dropSpace (r.length + 1) r) []).map fun (es, r) => (.table es, r)
    | '"' :: _ => quotedText cs
    | '\'' :: _ => quotedText cs
    | '*' :: r =>
      let (name, r) := takeName r
      if name.isEmpty then none else some (.reference (String.ofList name), r)
    | '&' :: r =>
      let (name, r) := takeName r
      if name.isEmpty then none
      else (flowOrNothing fuel (dropSpace (r.length + 1) r)).map fun (n, r) =>
        (.anchored (String.ofList name) n, r)
    | '!' :: r =>
      let (name, r) := takeName r
      (flowOrNothing fuel (dropSpace (r.length + 1) r)).map fun (n, r) =>
        (.tagged (String.ofList ('!' :: name)) n, r)
    | _ =>
      if startsPlain true cs then
        let (l, r) := plainFlow (cs.length + 1) [] cs
        some (.plain (String.ofList l.reverse), r)
      else none

def flowOrNothing : (fuel : Nat) → List Char → Option (Node × List Char)
  | 0, _ => none
  | fuel + 1, cs =>
    match cs with
    | [] => none
    | c :: r =>
      if c = ',' || c = ']' || c = '\x7d' || (c = ':' && endsMark true r) then some (.nothing, cs)
      else flow fuel cs

/-- An entry of a table or a list: a node, and another one behind a colon if there is one. -/
def flowEntry : (fuel : Nat) → List Char → Option (Node × Option Node × List Char)
  | 0, _ => none
  | fuel + 1, cs => do
    let cs := match cs with
      | '?' :: r => if endsMark true r then dropSpace (r.length + 1) r else cs
      | _ => cs
    let (k, r) ← flowOrNothing fuel cs
    let close : Bool := match k with
      | .plain _ => false
      | _ => true
    match dropSpace (r.length + 1) r with
    | ':' :: r =>
      if close || endsMark true r then
        let (v, r) ← flowOrNothing fuel (dropSpace (r.length + 1) r)
        return (k, some v, dropSpace (r.length + 1) r)
      else none
    | r => return (k, none, r)

def flowItems : (fuel : Nat) → List Char → List Node → Option (List Node × List Char)
  | 0, _, _ => none
  | fuel + 1, cs, acc =>
    match cs with
    | ']' :: r => some (acc.reverse, r)
    | ',' :: _ => none
    | _ => do
      let (k, v, r) ← flowEntry fuel cs
      let item := match v with
        | none => k
        | some v => .table [(k, v)]
      match r with
      | ',' :: r => flowItems fuel (dropSpace (r.length + 1) r) (item :: acc)
      | ']' :: r => return ((item :: acc).reverse, r)
      | _ => none

def flowEntries :
    (fuel : Nat) → List Char → List (Node × Node) → Option (List (Node × Node) × List Char)
  | 0, _, _ => none
  | fuel + 1, cs, acc =>
    match cs with
    | '}' :: r => some (acc.reverse, r)
    | ',' :: _ => none
    | _ => do
      let (k, v, r) ← flowEntry fuel cs
      let entry := (k, v.getD .nothing)
      match r with
      | ',' :: r => flowEntries fuel (dropSpace (r.length + 1) r) (entry :: acc)
      | '}' :: r => return ((entry :: acc).reverse, r)
      | _ => none

end

end StreamCodec.Yaml
