/-!
Where a setting stands: a key at the top, then keys of tables and places in lists. A text
that is no path stands for itself, as a key.
-/

namespace StreamCodec.Config

inductive Step where
  | key (k : String)
  | place (i : Int)
deriving DecidableEq, Repr

structure Path where
  top : String
  steps : List Step := []
deriving DecidableEq, Repr

namespace Path

def isKeyChar (c : Char) : Bool := c.isAlphanum || c = '_' || c = '-'

def readKey (cs : List Char) : Option (String × List Char) :=
  let l := cs.takeWhile isKeyChar
  if l.isEmpty then none else some (String.ofList l, cs.dropWhile isKeyChar)

def isBlank (c : Char) : Bool := c = ' ' || c = '\t'

def readPlace (cs : List Char) : Option (Int × List Char) :=
  let cs := cs.dropWhile isBlank
  let (negative, cs) := match cs with
    | '-' :: r => (true, r)
    | _ => (false, cs)
  let digits := cs.takeWhile Char.isDigit
  let n : Nat := digits.foldl (fun n c => 10 * n + (c.toNat - 48)) 0
  match (cs.dropWhile Char.isDigit).dropWhile isBlank with
  | ']' :: r =>
    if digits.isEmpty || 0x8000000000000000 ≤ n then none
    else some (if negative then -(n : Int) else n, r)
  | _ => none

def readSteps : (fuel : Nat) → List Char → Option (List Step)
  | _, [] => some []
  | 0, _ => none
  | fuel + 1, '.' :: r => do
    let (k, r) ← readKey r
    return .key k :: (← readSteps fuel r)
  | fuel + 1, '[' :: r => do
    let (i, r) ← readPlace r
    return .place i :: (← readSteps fuel r)
  | _, _ => none

def ofText (s : String) : Path :=
  let read : Option Path := do
    let (top, r) ← readKey s.toList
    return { top, steps := ← readSteps (r.length + 1) r }
  read.getD { top := s }

def text (steps : List Step) : String :=
  steps.foldl (fun acc s =>
    match s with
    | .key k => if acc.isEmpty then k else acc ++ "." ++ k
    | .place i => acc ++ s!"[{i}]") ""

end Path

end StreamCodec.Config
