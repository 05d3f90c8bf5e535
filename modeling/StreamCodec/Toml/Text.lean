/-!
The strings of TOML and its other small words: blanks, line ends, comments and keys. Each
reader takes its word off the front of the text.
-/

namespace StreamCodec.Toml

abbrev Read (α : Type) := List Char → Option (α × List Char)

def isBlank (c : Char) : Bool := c = ' ' || c = '\t'

def dropBlanks (cs : List Char) : List Char := cs.dropWhile isBlank

def isPlain (c : Char) : Bool := c = '\t' || (0x20 ≤ c.toNat && c.toNat ≠ 0x7f)

def lineEnd? : List Char → Option (List Char)
  | '\n' :: r => some r
  | '\r' :: '\n' :: r => some r
  | _ => none

def dropComment (cs : List Char) : List Char :=
  match cs with
  | '#' :: r => r.dropWhile isPlain
  | _ => cs

def dropSpace : (fuel : Nat) → List Char → List Char
  | 0, cs => cs
  | fuel + 1, cs =>
    let cs := dropComment (dropBlanks cs)
    match lineEnd? cs with
    | some r => dropSpace fuel r
    | none => cs

/-- What must follow a statement: nothing more on its line. -/
def endStatement (cs : List Char) : Option (List Char) :=
  match dropComment (dropBlanks cs) with
  | [] => some []
  | cs => lineEnd? cs

def hexDigit? (c : Char) : Option Nat :=
  if c.isDigit then some (c.toNat - 48)
  else if 'a' ≤ c ∧ c ≤ 'f' then some (c.toNat - 87)
  else if 'A' ≤ c ∧ c ≤ 'F' then some (c.toNat - 55)
  else none

def hexValue? (cs : List Char) : Option Nat :=
  cs.foldlM (fun n c => (hexDigit? c).map fun d => 16 * n + d) 0

def codeOf (n : Nat) : Read Char := fun cs => do
  let digits := cs.take n
  if digits.length < n then none
  else
    let code ← hexValue? digits
    if code < 0xd800 ∨ (0xe000 ≤ code ∧ code < 0x110000) then some (Char.ofNat code, cs.drop n)
    else none

def escaped : Read Char
  | 'b' :: r => some ('\x08', r)
  | 't' :: r => some ('\t', r)
  | 'n' :: r => some ('\n', r)
  | 'f' :: r => some ('\x0c', r)
  | 'r' :: r => some ('\r', r)
  | '"' :: r => some ('"', r)
  | '\\' :: r => some ('\\', r)
  | 'u' :: r => codeOf 4 r
  | 'U' :: r => codeOf 8 r
  | _ => none

def basic : (fuel : Nat) → List Char → List Char → Option (List Char × List Char)
  | 0, _, _ => none
  | fuel + 1, cs, acc =>
    match cs with
    | '"' :: r => some (acc.reverse, r)
    | '\\' :: r => do
      let (c, r) ← escaped r
      basic fuel r (c :: acc)
    | c :: r => if isPlain c then basic fuel r (c :: acc) else none
    | [] => none

def literal : List Char → List Char → Option (List Char × List Char)
  | '\'' :: r, acc => some (acc.reverse, r)
  | c :: r, acc => if isPlain c then literal r (c :: acc) else none
  | [], _ => none

/-- Three quotes end a long string; up to two more belong to it. -/
def closing? (quote : Char) (cs : List Char) : Option (List Char × List Char) :=
  let n := (cs.takeWhile (· = quote)).length
  if n < 3 then none
  else
    let extra := min (n - 3) 2
    some (List.replicate extra quote, cs.drop (3 + extra))

/-- Drops blanks and line ends behind a backslash at the end of a line; `none` when the line goes
on. -/
def continued? (cs : List Char) : Option (List Char) :=
  (lineEnd? (dropBlanks cs)).map fun r => r.dropWhile fun c => isBlank c || c = '\n' || c = '\r'

def longBasic : (fuel : Nat) → List Char → List Char → Option (List Char × List Char)
  | 0, _, _ => none
  | fuel + 1, cs, acc =>
    match closing? '"' cs with
    | some (extra, r) => some (acc.reverse ++ extra, r)
    | none =>
      match lineEnd? cs with
      | some r => longBasic fuel r ('\n' :: acc)
      | none =>
        match cs with
        | '\\' :: r =>
          match continued? r with
          | some r => longBasic fuel r acc
          | none => do
            let (c, r) ← escaped r
            longBasic fuel r (c :: acc)
        | c :: r => if isPlain c then longBasic fuel r (c :: acc) else none
        | [] => none

def longLiteral : (fuel : Nat) → List Char → List Char → Option (List Char × List Char)
  | 0, _, _ => none
  | fuel + 1, cs, acc =>
    match closing? '\'' cs with
    | some (extra, r) => some (acc.reverse ++ extra, r)
    | none =>
      match lineEnd? cs with
      | some r => longLiteral fuel r ('\n' :: acc)
      | none =>
        match cs with
        | c :: r => if isPlain c then longLiteral fuel r (c :: acc) else none
        | [] => none

/-- The line end right behind the quotes of a long string does not belong to it. -/
def opened (cs : List Char) : List Char := (lineEnd? cs).getD cs

def string : Read String := fun cs =>
  let fuel := cs.length + 1
  let made := match cs with
    | '"' :: '"' :: '"' :: r => longBasic fuel (opened r) []
    | '\'' :: '\'' :: '\'' :: r => longLiteral fuel (opened r) []
    | '"' :: r => basic fuel r []
    | '\'' :: r => literal r []
    | _ => none
  made.map fun (l, r) => (String.ofList l, r)

def isBare (c : Char) : Bool := c.isAlphanum || c = '_' || c = '-'

def simpleKey : Read String := fun cs =>
  match cs with
  | '"' :: r => (basic (cs.length + 1) r []).map fun (l, r) => (String.ofList l, r)
  | '\'' :: r => (literal r []).map fun (l, r) => (String.ofList l, r)
  | _ =>
    let l := cs.takeWhile isBare
    if l.isEmpty then none else some (String.ofList l, cs.dropWhile isBare)

def key : (fuel : Nat) → Read (List String)
  | 0, _ => none
  | fuel + 1, cs => do
    let (k, r) ← simpleKey (dropBlanks cs)
    match dropBlanks r with
    | '.' :: r => do
      let (ks, r) ← key fuel r
      return (k :: ks, r)
    | r => return ([k], r)

end StreamCodec.Toml
