/-!
Floating point numbers of 64 bits, handled exactly. A number is its bits; a finite one is a
whole number times a power of two.
-/

namespace StreamCodec

structure Double where
  bits : UInt64
deriving DecidableEq, Repr, Inhabited

namespace Double

/-- What the bits stand for; `finite m q` is `m * 2 ^ q`. -/
inductive Reading where
  | nan
  | infinite
  | finite (m : Nat) (q : Int)
deriving DecidableEq, Repr

def negative (x : Double) : Bool := x.bits >>> 63 = 1

def magnitude (x : Double) : Nat := x.bits.toNat % 0x8000000000000000

def reading (x : Double) : Reading :=
  let e : Nat := x.magnitude >>> 52
  let m := x.magnitude % 0x10000000000000
  if e = 0x7ff then if m = 0 then .infinite else .nan
  else if e = 0 then .finite m (-1074)
  else .finite (m + 0x10000000000000) ((e : Int) - 1075)

def infinity : Double := ⟨0x7ff0000000000000⟩

def nan : Double := ⟨0x7ff8000000000000⟩

def neg (x : Double) : Double := ⟨x.bits ^^^ 0x8000000000000000⟩

/-- The quotient, rounded to the nearest whole number; a tie goes to the even one. -/
def roundEven (num den : Nat) : Nat :=
  let t := num / den
  let r := 2 * (num % den)
  if r < den ∨ (r = den ∧ t % 2 = 0) then t else t + 1

def powers (e : Int) : Nat × Nat := if 0 ≤ e then (1 <<< e.toNat, 1) else (1, 1 <<< (-e).toNat)

def ofRatio (num den : Nat) : Double :=
  if num = 0 then ⟨0⟩
  else
    let e : Int := (num.log2 : Int) - den.log2
    let (a, b) := powers e
    let e := if num * b < den * a then e - 1 else e
    let q := max (e - 52) (-1074)
    let (a, b) := powers q
    let bits := (q + 1074).toNat <<< 52 + roundEven (num * b) (den * a)
    if 0x7ff0000000000000 ≤ bits then infinity else ⟨bits.toUInt64⟩

def ofNat (n : Nat) : Double := ofRatio n 1

def ofDecimal (m : Nat) (e : Int) : Double :=
  if m = 0 then ⟨0⟩
  else if 400 < e then infinity
  else if e + (m.log2 : Int) < -1200 then ⟨0⟩
  else if 0 ≤ e then ofRatio (m * Nat.pow 10 e.toNat) 1
  else ofRatio m (Nat.pow 10 (-e).toNat)

def times (x y : Double) (inverse : Bool) : Double :=
  match x.reading, y.reading with
  | .finite m q, .finite n r =>
    let (a, b) := powers (if inverse then q - r else q + r)
    if inverse then ofRatio (m * a) (n * b) else ofRatio (m * n * a) b
  | _, _ => nan

def isFinite (x : Double) : Bool := x.magnitude < 0x7ff0000000000000

def isZero (x : Double) : Bool := x.magnitude = 0

/-- The nearest whole number, a half going up, if it is less than `2 ^ 64`; numbers below zero count
as zero, and numbers that are too large as `2 ^ 64 - 1`. -/
def toWord (x : Double) : Nat :=
  match x.reading with
  | .nan => 0
  | .infinite => if x.negative then 0 else 0xffffffffffffffff
  | .finite m q =>
    if x.negative then 0
    else
      let (a, b) := powers q
      min ((2 * m * a + b) / (2 * b)) 0xffffffffffffffff

end Double

end StreamCodec
