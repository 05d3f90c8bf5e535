import StreamCodec.Yaml.Block

/-!
Reading a YAML text with one document at most. A text without a document is an empty table.
-/

namespace StreamCodec.Yaml

open Config (Value)
open Line (dropBlanks isVoid dropVoid isTriple)

/-- How a document starts. -/
inductive Opening where
  | missing
  | bare (ls : List Line)
  | marked (first : List Char) (ls : List Line)

def isDirective (l : Line) : Bool := l.indent = 0 && l.text.head? = some '%'

def opening (ls : List Line) : Option Opening :=
  let front (l : Line) : Bool := isVoid l.text || isTriple '.' l || isDirective l
  match ls.dropWhile front with
  | [] => some .missing
  | l :: rest =>
    if isTriple '-' l then some (.marked (l.text.drop 3) rest)
    else if (ls.takeWhile front).any isDirective then none
    else some (.bare (l :: rest))

def isEdge (l : Line) : Bool := isTriple '-' l || isTriple '.' l

def isLast (ls : List Line) : Bool := ls.all fun l =>
    isVoid l.text || (isTriple '.' l && isVoid (l.text.drop 3))

def parse? (s : String) : Option Value := do
  let cs := s.toList
  let fuel := 4 * cs.length + 8
  let finish (ls : List Line) (read : List Line → Option (Node × List Line)) : Option Value := do
    let (n, rest) ← read (ls.takeWhile fun l => !isEdge l)
    let (v, _) ← n.toValue? []
    if (dropVoid rest).isEmpty && isLast (ls.dropWhile fun l => !isEdge l) then some v else none
  match ← opening (Line.ofText (Line.unify cs)) with
  | .missing => return .table []
  | .bare ls => finish ls (block fuel 0)
  | .marked first ls =>
    finish ls fun ls =>
      if isVoid first then block fuel 0 ls else content fuel 0 (dropBlanks first) ls

end StreamCodec.Yaml
