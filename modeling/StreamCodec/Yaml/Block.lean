import StreamCodec.Yaml.Flow

/-!
YAML over lines: lists and tables by indentation, text blocks, and text without quotes that
goes on over further lines. A reader takes lines off the front and leaves those that do not
belong to its node.
-/

namespace StreamCodec.Yaml

open Line (isBlank dropBlanks isVoid isTail dropVoid)

/-- A mark that stands alone or has a blank behind it; answers with what follows. -/
def behind? (mark : Char) (cs : List Char) : Option (List Char) :=
  match cs with
  | c :: r => if c = mark && endsMark false r then some r else none
  | [] => none

def key? (cs : List Char) : Option (Node × List Char) := do
  let (k, r) ← match cs with
    | '"' :: _ => quotedText cs
    | '\'' :: _ => quotedText cs
    | '*' :: r => some (Node.reference (String.ofList (takeName r).1), (takeName r).2)
    | _ =>
      if startsPlain false cs then
        let (l, r) := plainLine false [] cs
        some (.plain (String.ofList (trim l).reverse), r)
      else none
  let r ← behind? ':' (dropBlanks r)
  return (k, r)

/-! Text blocks. -/

inductive Chomp where
  | strip | clip | keep
deriving DecidableEq, Repr

def blockMarks (cs : List Char) : Option (Option Nat × Chomp) :=
  let step (acc : Option (Option Nat × Chomp)) (c : Char) : Option (Option Nat × Chomp) :=
    match acc with
    | none => none
    | some (d, ch) =>
      if c = '-' ∧ ch = .clip then some (d, .strip)
      else if c = '+' ∧ ch = .clip then some (d, .keep)
      else if '1' ≤ c ∧ c ≤ '9' ∧ d.isNone then some (some (c.toNat - 48), ch)
      else none
  if isTail (cs.dropWhile fun c => !isBlank c) then
    (cs.takeWhile fun c => !isBlank c).foldl step (some (none, .clip))
  else none

def Line.within (column : Nat) (l : Line) : List Char :=
  List.replicate (l.indent - column) ' ' ++ l.text

def blockLines (column : Nat) (ls : List Line) : List (List Char) × List Line :=
  let inside (l : Line) : Bool := l.text.isEmpty || column ≤ l.indent
  ((ls.takeWhile inside).map (Line.within column), ls.dropWhile inside)

def literalText (ls : List (List Char)) : List Char := ls.flatMap fun l => l ++ ['\n']

/-- Lines folded: one line end is a blank, and more are one less, except next to lines that start
with a blank. `gap` counts the line ends that are owed. -/
def foldedText : (ls : List (List Char)) → (gap : Nat) → (first spaced : Bool) → List Char
  | [], gap, _, _ => List.replicate gap '\n'
  | [] :: ls, gap, first, spaced => foldedText ls (gap + 1) first spaced
  | (c :: l) :: ls, gap, first, spaced =>
    let space :=
      if first || spaced || isBlank c then List.replicate gap '\n'
      else if gap = 1 then [' '] else List.replicate (gap - 1) '\n'
    space ++ (c :: l) ++ foldedText ls 1 false (isBlank c)

def chomped (chomp : Chomp) (cs : List Char) : List Char :=
  let bare := (cs.reverse.dropWhile (· = '\n')).reverse
  match chomp with
  | .strip => bare
  | .clip => if bare.isEmpty then [] else if bare.length < cs.length then bare ++ ['\n'] else bare
  | .keep => cs

def textBlock (least : Nat) (folded : Bool) (marks : List Char) (ls : List Line) :
    Option (Node × List Line) := do
  let (told, chomp) ← blockMarks marks
  let column := match told with
    | some d => (least - 1) + d
    | none => max least ((ls.find? fun l => !l.text.isEmpty).elim 0 Line.indent)
  let (body, rest) := blockLines column ls
  let text := if folded then foldedText body 0 true false else literalText body
  return (.quoted (String.ofList (chomped chomp text)), rest)

/-! Text without quotes. -/

/-- The lines on which text without quotes goes on, the text so far in reverse. `gap` counts the
line ends since. -/
def plainMore (least : Nat) :
    (ls : List Line) → (acc : List Char) → (gap : Nat) → Option (List Char × List Line)
  | [], acc, _ => some (acc, [])
  | l :: ls, acc, gap =>
    let text := dropBlanks l.text
    match text with
    | [] => (plainMore least ls acc (gap + 1)).map fun (r, rest) =>
      if r = acc then (acc, l :: ls) else (r, rest)
    | c :: _ =>
      if l.indent < least || c = '#' then some (acc, l :: ls)
      else
        let (line, r) := plainLine false [] text
        let acc := trim line ++ fold (List.replicate gap '\n') ++ acc
        match r with
        | [] => plainMore least ls acc 1
        | '#' :: _ => some (acc, ls)
        | _ => none

def plainText (least : Nat) (cs : List Char) (ls : List Line) : Option (Node × List Line) :=
  let (line, r) := plainLine false [] cs
  let node (l : List Char) : Node := .plain (String.ofList l.reverse)
  match r with
  | [] => (plainMore least ls (trim line) 1).map fun (l, rest) => (node l, rest)
  | '#' :: _ => some (node (trim line), ls)
  | _ => none

def flowText (cs : List Char) (ls : List Line) : Option (Node × List Line) := do
  let all := cs ++ '\n' :: Line.join ls
  let (n, r) ← flow (2 * all.length + 2) all
  if isTail (r.takeWhile (· ≠ '\n')) then some (n, Line.ofText ((r.dropWhile (· ≠ '\n')).drop 1))
  else none

/-! Nodes. -/

mutual

def block : (fuel least : Nat) → List Line → Option (Node × List Line)
  | 0, _, _ => none
  | fuel + 1, least, ls =>
    match dropVoid ls with
    | [] => some (.nothing, [])
    | l :: rest =>
      if l.indent < least then some (.nothing, l :: rest)
      else if l.text.head? = some '\t' then none
      else node fuel least l.indent l.text rest

def node : (fuel least column : Nat) → List Char → List Line → Option (Node × List Line)
  | 0, _, _, _, _ => none
  | fuel + 1, least, column, cs, ls =>
    if (behind? '-' cs).isSome then do
      let (ns, rest) ← items fuel column cs ls []
      return (.list ns, rest)
    else if (behind? '?' cs).isSome || (key? cs).isSome then do
      let (es, rest) ← entries fuel column cs ls []
      return (.table es, rest)
    else content fuel least cs ls

/-- A node that is no list and no table by indentation, unless that starts on a further line. -/
def content : (fuel least : Nat) → List Char → List Line → Option (Node × List Line)
  | 0, _, _, _ => none
  | fuel + 1, least, cs, ls =>
    let further (r : List Char) : Option (Node × List Line) :=
      let r := dropBlanks r
      if isVoid r then block fuel least ls else content fuel least r ls
    match cs with
    | '&' :: r =>
      let (name, r) := takeName r
      if name.isEmpty then none else (further r).map fun (n, rest) =>
        (.anchored (String.ofList name) n, rest)
    | '!' :: r =>
      let (name, r) := takeName r
      (further r).map fun (n, rest) => (.tagged (String.ofList ('!' :: name)) n, rest)
    | '|' :: r => textBlock least false r ls
    | '>' :: r => textBlock least true r ls
    | c :: _ =>
      if c = '"' || c = '\'' || c = '[' || c = '\x7b' || c = '*' then flowText cs ls
      else if startsPlain false cs then plainText least cs ls
      else none
    | [] => none

def items : (fuel column : Nat) → List Char → List Line → List Node → Option (List Node × List Line)
  | 0, _, _, _, _ => none
  | fuel + 1, column, cs, ls, acc =>
    match behind? '-' cs with
    | none => none
    | some r => do
      let inner := dropBlanks r
      let (n, rest) ←
        if isVoid r then block fuel (column + 1) ls
        else node fuel (column + 1) (column + 1 + (r.length - inner.length)) inner ls
      match dropVoid rest with
      | l :: more =>
        if l.indent = column && (behind? '-' l.text).isSome then
          items fuel column l.text more (n :: acc)
        else return ((n :: acc).reverse, l :: more)
      | [] => return ((n :: acc).reverse, [])

/-- The value behind a key of a table at a column. A list may stand at the column of the table. -/
def entryValue : (fuel column : Nat) → List Char → List Line → Option (Node × List Line)
  | 0, _, _, _ => none
  | fuel + 1, column, cs, ls =>
    if isVoid cs then
      match dropVoid ls with
      | l :: rest =>
        if l.indent = column && (behind? '-' l.text).isSome then do
          let (ns, rest) ← items fuel column l.text rest []
          return (.list ns, rest)
        else block fuel (column + 1) (l :: rest)
      | [] => some (.nothing, [])
    else content fuel (column + 1) (dropBlanks cs) ls

def entry : (fuel column : Nat) → List Char → List Line → Option ((Node × Node) × List Line)
  | 0, _, _, _ => none
  | fuel + 1, column, cs, ls =>
    match behind? '?' cs with
    | some r => do
      let inner := dropBlanks r
      let (k, rest) ←
        if isVoid r then block fuel (column + 1) ls
        else node fuel (column + 1) (column + 1 + (r.length - inner.length)) inner ls
      match dropVoid rest with
      | l :: more =>
        match if l.indent = column then behind? ':' l.text else none with
        | some r => do
          let inner := dropBlanks r
          let (v, rest) ←
            if isVoid r then block fuel (column + 1) more
            else node fuel (column + 1) (column + 1 + (r.length - inner.length)) inner more
          return ((k, v), rest)
        | none => return ((k, .nothing), l :: more)
      | [] => return ((k, .nothing), [])
    | none => do
      let (k, r) ← key? cs
      let (v, rest) ← entryValue fuel column r ls
      return ((k, v), rest)

def entries : (fuel column : Nat) → List Char → List Line → List (Node × Node) →
    Option (List (Node × Node) × List Line)
  | 0, _, _, _, _ => none
  | fuel + 1, column, cs, ls, acc => do
    let (e, rest) ← entry fuel column cs ls
    match dropVoid rest with
    | l :: more =>
      if l.indent = column && l.text.head? ≠ some '\t' && (behind? '-' l.text).isNone then
        entries fuel column l.text more (e :: acc)
      else return ((e :: acc).reverse, l :: more)
    | [] => return ((e :: acc).reverse, [])

end

end StreamCodec.Yaml
