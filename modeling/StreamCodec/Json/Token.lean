import StreamCodec.Double

/-!
The words of JSON text. Where no word can be read the list of words ends with a mark, so
that a reader which has seen enough before does not notice.
-/

namespace StreamCodec.Json

inductive Number where
  | nat (n : Nat)
  | negative (n : Nat)
  | real (x : Double)
deriving DecidableEq, Repr

inductive Token where
  | leftBrace
  | rightBrace
  | leftBracket
  | rightBracket
  | comma
  | colon
  | null
  | bool (b : Bool)
  | number (n : Number)
  | text (s : String)
  | spoilt
  | broken
deriving DecidableEq, Repr

namespace Token

/-! Numbers. -/

def wordLimit : Nat := 0x10000000000000000

/-- Appends digits as long as the number stays below the limit; answers also how many more there
were. -/
def gather : List Char → (n more : Nat) → Nat × Nat
  | [], n, more => (n, more)
  | c :: cs, n, more =>
    let next := 10 * n + (c.toNat - 48)
    if more = 0 ∧ next < wordLimit then gather cs next 0 else gather cs n (more + 1)

/-- The number `n * 10 ^ e`: the power is multiplied in, or divided out, in one or more roundings.
It is `none` when it is too large. -/
def scale : (fuel : Nat) → Double → (e : Int) → Option Double
  | 0, x, _ => some x
  | fuel + 1, x, e =>
    if 308 < e then if x.isZero then some x else none
    else if 0 ≤ e then
      let y := x.times (Double.ofDecimal 1 e) false
      if y.isFinite then some y else none
    else if -308 ≤ e then some (x.times (Double.ofDecimal 1 (-e)) true)
    else if x.isZero then some x
    else scale fuel (x.times (Double.ofDecimal 1 308) true) (e + 308)

def scaled (n : Nat) (e : Int) : Option Double :=
  if e < -100000 then some ⟨0⟩ else scale 400 (Double.ofNat n) e

/-- The fraction of a number, without its point: `none` when a point stands without digits. -/
def fraction (cs : List Char) : Option (List Char × List Char) :=
  match cs with
  | '.' :: r =>
    let digits := r.takeWhile Char.isDigit
    if digits.isEmpty then none else some (digits, r.dropWhile Char.isDigit)
  | _ => some ([], cs)

def exponent (cs : List Char) : Option (Option Int × List Char) :=
  let signed (negative : Bool) (r : List Char) : Option (Option Int × List Char) :=
    let digits := r.takeWhile Char.isDigit
    if digits.isEmpty then none
    else
      let e := (String.ofList digits).toNat!
      some (some (if negative then -(e : Int) else e), r.dropWhile Char.isDigit)
  let started (r : List Char) : Option (Option Int × List Char) :=
    match r with
    | '+' :: r => signed false r
    | '-' :: r => signed true r
    | _ => signed false r
  match cs with
  | 'e' :: r => started r
  | 'E' :: r => started r
  | _ => some (none, cs)

def numberOf (negative : Bool) (whole fraction : List Char) (exponent : Option Int) : Token :=
  let (n, more) := gather whole 0 0
  let signed (x : Double) : Token := number (.real (if negative then x.neg else x))
  if fraction.isEmpty && exponent.isNone && more = 0 then
    if !negative then number (.nat n)
    else if n = 0 ∨ 0x8000000000000000 < n then signed (Double.ofNat n)
    else number (.negative n)
  else
    let (n, spare) := if more = 0 then gather fraction n 0 else (n, fraction.length)
    let places : Int := fraction.length - spare
    match scaled n (more - places + exponent.getD 0) with
    | some x => signed x
    | none => spoilt

def readNumber (cs : List Char) : Option (Token × List Char) := do
  let (negative, cs) := match cs with
    | '-' :: r => (true, r)
    | _ => (false, cs)
  let whole := cs.takeWhile Char.isDigit
  match whole with
  | [] => none
  | '0' :: _ :: _ => none
  | _ =>
    let (part, cs) ← fraction (cs.dropWhile Char.isDigit)
    let (e, cs) ← exponent cs
    return (numberOf negative whole part e, cs)

/-! Strings. -/

inductive Piece where
  | char (c : Char)
  | half (n : Nat)

def hexDigit? (c : Char) : Option Nat :=
  if c.isDigit then some (c.toNat - 48)
  else if 'a' ≤ c ∧ c ≤ 'f' then some (c.toNat - 87)
  else if 'A' ≤ c ∧ c ≤ 'F' then some (c.toNat - 55)
  else none

def hex4? (a b c d : Char) : Option Nat := do
  return 4096 * (← hexDigit? a) + 256 * (← hexDigit? b) + 16 * (← hexDigit? c) + (← hexDigit? d)

def Piece.ofNat (n : Nat) : Piece := if 0xd800 ≤ n ∧ n < 0xe000 then half n else char (Char.ofNat n)

def escaped? : Char → Option Char
  | '"' => some '"'
  | '\\' => some '\\'
  | '/' => some '/'
  | 'b' => some '\x08'
  | 'f' => some '\x0c'
  | 'n' => some '\n'
  | 'r' => some '\r'
  | 't' => some '\t'
  | _ => none

def pieces : List Char → List Piece → Option (List Piece × List Char)
  | [], _ => none
  | '"' :: r, acc => some (acc, r)
  | '\\' :: 'u' :: a :: b :: c :: d :: r, acc =>
    match hex4? a b c d with
    | some n => pieces r (.ofNat n :: acc)
    | none => none
  | '\\' :: c :: r, acc =>
    match escaped? c with
    | some x => pieces r (.char x :: acc)
    | none => none
  | c :: r, acc => if c.toNat < 0x20 ∨ c = '\\' then none else pieces r (.char c :: acc)

/-- The characters of pieces in reverse; `none` when a half stands alone. -/
def assemble : List Piece → List Char → Option (List Char)
  | [], acc => some acc
  | .char c :: r, acc => assemble r (c :: acc)
  | .half low :: .half high :: r, acc =>
    if 0xdc00 ≤ low ∧ high < 0xdc00 then
      assemble r (Char.ofNat (0x10000 + (high - 0xd800) * 1024 + (low - 0xdc00)) :: acc)
    else none
  | .half _ :: _, _ => none

def readString (cs : List Char) : Option (Token × List Char) :=
  (pieces cs []).map fun (ps, r) =>
    match assemble ps [] with
    | some l => (text (String.ofList l), r)
    | none => (spoilt, r)

/-! Words. -/

def isBlank (c : Char) : Bool := c = ' ' || c = '\n' || c = '\t' || c = '\r'

def read : List Char → Option (Token × List Char)
  | [] => none
  | '{' :: r => some (leftBrace, r)
  | '}' :: r => some (rightBrace, r)
  | '[' :: r => some (leftBracket, r)
  | ']' :: r => some (rightBracket, r)
  | ',' :: r => some (comma, r)
  | ':' :: r => some (colon, r)
  | '"' :: r => readString r
  | 'n' :: 'u' :: 'l' :: 'l' :: r => some (null, r)
  | 't' :: 'r' :: 'u' :: 'e' :: r => some (bool true, r)
  | 'f' :: 'a' :: 'l' :: 's' :: 'e' :: r => some (bool false, r)
  | cs => readNumber cs

def words : (fuel : Nat) → List Char → List Token
  | 0, _ => []
  | fuel + 1, cs =>
    match cs.dropWhile isBlank with
    | [] => []
    | cs =>
      match read cs with
      | none => [broken]
      | some (t, r) => t :: words fuel r

def ofText (s : String) : List Token := words (s.length + 1) s.toList

end Token

end StreamCodec.Json
