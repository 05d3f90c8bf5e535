import StreamCodec.Config.Value
import StreamCodec.Double.OfText

/-!
The numbers, the truth values and the times of TOML: words without quotes. A time is kept
as its text.
-/

namespace StreamCodec.Toml

open Config (Scalar)

def digits (accept : Char → Bool) : (fuel : Nat) → List Char → Option (List Char × List Char)
  | 0, _ => none
  | fuel + 1, cs =>
    let l := cs.takeWhile accept
    if l.isEmpty then none
    else
      match cs.dropWhile accept with
      | '_' :: r => (digits accept fuel r).map fun (more, r) => (l ++ more, r)
      | r => some (l, r)

def digitValue (c : Char) : Nat :=
  if c.isDigit then c.toNat - 48 else if 'a' ≤ c then c.toNat - 87 else c.toNat - 55

def valueIn (base : Nat) (l : List Char) : Nat := l.foldl (fun n c => base * n + digitValue c) 0

def integer (i : Int) : Option Scalar :=
  if -0x8000000000000000 ≤ i ∧ i < 0x8000000000000000 then some (.int i) else none

def based (base : Nat) (accept : Char → Bool) (cs : List Char) : Option Scalar :=
  match digits accept (cs.length + 1) cs with
  | some (l, []) => integer (valueIn base l)
  | _ => none

def isHex (c : Char) : Bool := c.isDigit || ('a' ≤ c && c ≤ 'f') || ('A' ≤ c && c ≤ 'F')

/-- A decimal number without its sign. No number that is too large is a real one, a negative one
apart. -/
def decimal (negative : Bool) (cs : List Char) : Option Scalar := do
  let fuel := cs.length + 1
  let (whole, r) ← digits Char.isDigit fuel cs
  if whole.head? = some '0' && 1 < whole.length then none
  else
    let (part, r) ← match r with
      | '.' :: r => digits Char.isDigit fuel r
      | _ => some ([], r)
    let exponent (r : List Char) : Option Int :=
      let (negative, r) := Double.signed r
      match digits Char.isDigit fuel r with
      | some (l, []) => some (if negative then -(valueIn 10 l : Int) else valueIn 10 l)
      | _ => none
    let real (e : Int) : Option Scalar :=
      let x :=
        Double.withSign negative (Double.ofDecimal (valueIn 10 (whole ++ part)) (e - part.length))
      if x = Double.infinity then none else some (.real x)
    match r with
    | [] =>
      if part.isEmpty then integer (if negative then -(valueIn 10 whole : Int)
      else valueIn 10 whole) else real 0
    | 'e' :: r => (exponent r).bind real
    | 'E' :: r => (exponent r).bind real
    | _ => none

def fixed (n : Nat) (cs : List Char) : Option (Nat × List Char) :=
  let l := cs.take n
  if l.length = n && l.all Char.isDigit then some (valueIn 10 l, cs.drop n) else none

def isLeap (year : Nat) : Bool := year % 4 = 0 && (year % 100 ≠ 0 || year % 400 = 0)

def daysIn (year month : Nat) : Nat :=
  if month = 2 then if isLeap year then 29 else 28 else if [4, 6, 9, 11].contains month then 30
  else 31

/-- A date, and its length in characters is ten. -/
def isDate (cs : List Char) : Bool :=
  match fixed 4 cs with
  | some (year, '-' :: r) =>
    match fixed 2 r with
    | some (month, '-' :: r) =>
      match fixed 2 r with
      | some (day, _) => 1 ≤ month && month ≤ 12 && 1 ≤ day && day ≤ daysIn year month
      | none => false
    | _ => false
  | _ => false

/-- The text of a fraction of a second: nine digits at most, no zeros at the end. -/
def fractionText (l : List Char) : List Char :=
  let l := ((l.take 9).reverse.dropWhile (· = '0')).reverse
  if l.isEmpty then [] else '.' :: l

def time (cs : List Char) : Option (List Char × List Char) := do
  let (hour, r) ← fixed 2 cs
  let ':' :: r := r | none
  let (minute, r) ← fixed 2 r
  let ':' :: r := r | none
  let (second, r) ← fixed 2 r
  if 23 < hour ∨ 59 < minute ∨ 60 < second then none
  else
    let shown := cs.take 8
    match r with
    | '.' :: r =>
      let l := r.takeWhile Char.isDigit
      if l.isEmpty then none else some (shown ++ fractionText l, r.dropWhile Char.isDigit)
    | _ => some (shown, r)

def offset (cs : List Char) : Option (List Char) :=
  match cs with
  | [] => some []
  | ['Z'] => some ['Z']
  | ['z'] => some ['Z']
  | sign :: r =>
    if sign = '+' ∨ sign = '-' then
      match fixed 2 r with
      | some (hour, ':' :: m) =>
        match fixed 2 m with
        | some (minute, []) => if hour ≤ 23 ∧ minute ≤ 59 then some (sign :: r) else none
        | _ => none
      | _ => none
    else none

def moment (cs : List Char) : Option Scalar :=
  if isDate cs then
    let date := cs.take 10
    match cs.drop 10 with
    | [] => some (.text (String.ofList date))
    | sep :: r =>
      if sep = 'T' ∨ sep = 't' ∨ sep = ' ' then do
        let (t, r) ← time r
        let o ← offset r
        return .text (String.ofList (date ++ 'T' :: t ++ o))
      else none
  else
    match time cs with
    | some (t, []) => some (.text (String.ofList t))
    | _ => none

def word (cs : List Char) : Option Scalar :=
  let (negative, r) := Double.signed cs
  match cs with
  | ['t', 'r', 'u', 'e'] => some (.bool true)
  | ['f', 'a', 'l', 's', 'e'] => some (.bool false)
  | '0' :: 'x' :: r => based 16 isHex r
  | '0' :: 'o' :: r => based 8 (fun c => '0' ≤ c && c ≤ '7') r
  | '0' :: 'b' :: r => based 2 (fun c => c = '0' || c = '1') r
  | _ =>
    match r with
    | ['i', 'n', 'f'] => some (.real (Double.withSign negative Double.infinity))
    | ['n', 'a', 'n'] => some (.real (Double.withSign negative Double.nan))
    | _ => (moment cs).or (decimal negative r)

def isWordChar (c : Char) : Bool :=
  c.isAlphanum || c = '_' || c = '+' || c = '-' || c = '.' || c = ':'

/-- The word at the front. A date may go on behind a blank. -/
def takeWord (cs : List Char) : List Char × List Char :=
  let l := cs.takeWhile isWordChar
  let r := cs.dropWhile isWordChar
  match r with
  | ' ' :: r' =>
    if l.length = 10 && isDate l && (fixed 2 r').any (fun p => p.2.head? = some ':') then
      (l ++ ' ' :: r'.takeWhile isWordChar, r'.dropWhile isWordChar)
    else (l, r)
  | _ => (l, r)

end StreamCodec.Toml
