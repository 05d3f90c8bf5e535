/-!
The lines of a YAML text, each with its indentation. Only blanks indent.
-/

namespace StreamCodec.Yaml

structure Line where
  indent : Nat
  text : List Char
deriving DecidableEq, Repr

namespace Line

def split : List Char → List (List Char)
  | [] => []
  | '\n' :: r => [] :: split r
  | c :: r =>
    match split r with
    | [] => [[c]]
    | l :: ls => (c :: l) :: ls

def ofChars (l : List Char) : Line where
  indent := (l.takeWhile (· = ' ')).length
  text := l.dropWhile (· = ' ')

def chars (l : Line) : List Char := List.replicate l.indent ' ' ++ l.text

def unify : List Char → List Char
  | '\r' :: '\n' :: r => '\n' :: unify r
  | '\r' :: r => '\n' :: unify r
  | c :: r => c :: unify r
  | [] => []

def ofText (cs : List Char) : List Line := (split cs).map ofChars

def join : List Line → List Char
  | [] => []
  | l :: ls => l.chars ++ '\n' :: join ls

def isBlank (c : Char) : Bool := c = ' ' || c = '\t'

def dropBlanks (cs : List Char) : List Char := cs.dropWhile isBlank

def isVoid (cs : List Char) : Bool :=
  match dropBlanks cs with
  | [] => true
  | c :: _ => c = '#'

def isTail (cs : List Char) : Bool :=
  match cs with
  | [] => true
  | c :: _ => isBlank c && isVoid cs

def dropVoid (ls : List Line) : List Line := ls.dropWhile fun l => isVoid l.text

/-- A mark of three characters at the start of a line, with a blank or nothing behind it. -/
def isTriple (mark : Char) (l : Line) : Bool :=
  l.indent = 0 && (match l.text with
    | a :: b :: c :: r =>
      a = mark && b = mark && c = mark && (match r with | [] => true | d :: _ => isBlank d)
    | _ => false)

end Line

end StreamCodec.Yaml
