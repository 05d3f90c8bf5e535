import StreamCodec.Double

/-!
Reading decimal numbers: digits with or without a point, and an exponent.
-/

namespace StreamCodec.Double

def digitsFrom (n : Nat) (cs : List Char) : Nat := cs.foldl (fun n c => 10 * n + (c.toNat - 48)) n

def signed (cs : List Char) : Bool × List Char :=
  match cs with
  | '-' :: r => (true, r)
  | '+' :: r => (false, r)
  | _ => (false, cs)

def withSign (negative : Bool) (x : Double) : Double := if negative then x.neg else x

def exponent? (cs : List Char) : Option Int :=
  let (negative, r) := signed cs
  if r.isEmpty || !r.all Char.isDigit then none
  else
    let e := digitsFrom 0 r
    some (if negative then -(e : Int) else e)

/-- A decimal number that takes up all of a text, a digit at least. -/
def ofText? (cs : List Char) : Option Double :=
  let (negative, cs) := signed cs
  let whole := cs.takeWhile Char.isDigit
  let r := cs.dropWhile Char.isDigit
  let (part, r) := match r with
    | '.' :: r => (r.takeWhile Char.isDigit, r.dropWhile Char.isDigit)
    | _ => ([], r)
  if whole.isEmpty && part.isEmpty then none
  else
    let number (e : Int) : Double :=
      withSign negative (ofDecimal (digitsFrom (digitsFrom 0 whole) part) (e - part.length))
    match r with
    | [] => some (number 0)
    | 'e' :: r => (exponent? r).map number
    | 'E' :: r => (exponent? r).map number
    | _ => none

end StreamCodec.Double
