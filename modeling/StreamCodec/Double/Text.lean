import StreamCodec.Double

/-!
The text of a floating point number: the fewest digits that read back as the same number,
of those the nearest, without an exponent.
-/

namespace StreamCodec.Double

/-- A positive number between the ends of what is rounded to it, all over the same denominator; the
ends belong to that when `closed`. -/
structure Span where
  low : Nat
  here : Nat
  high : Nat
  den : Nat
  closed : Bool

def Span.of (m : Nat) (q : Int) : Span :=
  let (a, b) := powers (q - 2)
  let narrow : Bool := m = 0x10000000000000 && -1074 < q
  { low := (4 * m - if narrow then 1 else 2) * a, here := 4 * m * a, high := (4 * m + 2) * a,
    den := b
    closed := m % 2 = 0 }

def Span.has (s : Span) (t : Nat) (k : Int) : Bool :=
  let x := t * s.den * Nat.pow 10 k.toNat
  let w := Nat.pow 10 (-k).toNat
  if s.closed then s.low * w ≤ x && x ≤ s.high * w else s.low * w < x && x < s.high * w

def Span.exponent (s : Span) : Int :=
  let below (e : Int) : Bool := s.here * Nat.pow 10 (-e).toNat < s.den * Nat.pow 10 e.toNat
  let guess : Int := ((s.here.log2 : Int) - s.den.log2 - 1) * 30103 / 100000 - 1
  (((List.range 5).map fun (i : Nat) => guess + i).find? below).getD (guess + 5)

/-- The nearest of at most two multiples of `10 ^ k` that are rounded to the number. -/
def Span.nearest? (s : Span) (k : Int) : Option Nat :=
  let w := Nat.pow 10 (-k).toNat
  let unit := s.den * Nat.pow 10 k.toNat
  let t := s.here * w / unit
  let up : Bool := unit ≤ 2 * (s.here * w % unit)
  match s.has t k, s.has (t + 1) k with
  | true, true => some (if up then t + 1 else t)
  | true, false => some t
  | false, true => some (t + 1)
  | false, false => none

def shortest (m : Nat) (q : Int) : Nat × Int :=
  let s := Span.of m q
  let e := s.exponent
  let hit := ((List.range 17).map fun (n : Nat) => e - 1 - n).findSome? fun k =>
    (s.nearest? k).map fun t => (t, k)
  match hit with
  | some (t, k) => if t % 10 = 0 then (t / 10, k + 1) else (t, k)
  | none => (0, 0)

def positional (t : Nat) (k : Int) : String :=
  let digits := Nat.toDigits 10 t
  if 0 ≤ k then String.ofList (digits ++ List.replicate k.toNat '0')
  else
    let places := (-k).toNat
    let digits := List.replicate (places + 1 - digits.length) '0' ++ digits
    let whole := digits.length - places
    String.ofList (digits.take whole ++ '.' :: digits.drop whole)

def text (x : Double) : String :=
  let sign := if x.negative then "-" else ""
  match x.reading with
  | .nan => "NaN"
  | .infinite => sign ++ "inf"
  | .finite 0 _ => sign ++ "0"
  | .finite m q =>
    let (t, k) := shortest m q
    sign ++ positional t k

def pointed (x : Double) : String :=
  match x.reading with
  | .finite .. => if x.text.contains '.' then x.text else x.text ++ ".0"
  | _ => x.text

end StreamCodec.Double
