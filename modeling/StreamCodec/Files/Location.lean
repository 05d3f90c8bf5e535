/-!
Where a file stands, as a text: names with slashes between them.
-/

namespace StreamCodec.Files

def split : List Char → List (List Char)
  | [] => [[]]
  | c :: r =>
    if c = '/' then [] :: split r
    else
      match split r with
      | [] => [[c]]
      | w :: ws => (c :: w) :: ws

namespace Location

def parts (path : String) : List String := (split path.toList).map String.ofList

def isIdle (part : String) : Bool := part.isEmpty || part = "."

def names (path : String) : List String := (parts path).filter fun p => !isIdle p

def plain (path : String) : String := String.intercalate "/" (names path)

def name? (path : String) : Option String :=
  match (names path).getLast? with
  | some n => if n = ".." then none else some n
  | none => none

/-- What follows the last dot of the name. A dot in front of everything is part of the name. -/
def extension? (path : String) : Option String := do
  let cs := (← name? path).toList.reverse
  match cs.dropWhile (· ≠ '.') with
  | _ :: _ :: _ => some (String.ofList (cs.takeWhile (· ≠ '.')).reverse)
  | _ => none

def join (folder name : String) : String :=
  if folder.isEmpty then name
  else if folder.toList.getLast? = some '/' then folder ++ name
  else folder ++ "/" ++ name

end Location

end StreamCodec.Files
