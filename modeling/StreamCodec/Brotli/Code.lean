import StreamCodec.Huffman

/-!
The prefix codes of Brotli and how a stream spells them out: up to four symbols by name,
or the lengths of all words, themselves coded.
-/

namespace StreamCodec.Brotli

inductive Fault where
  | window | length | padding | code | map | distance | dictionary
deriving DecidableEq, Repr

inductive Code where
  | lone (symbol : Nat)
  | words (code : Huffman)

namespace Code

def decode : Code → Scan Fault Nat
  | lone s => pure s
  | words h => h.decode Scan.bit .code

def widthOf (n : Nat) : Nat := if n ≤ 1 then 0 else (n - 1).log2 + 1

def ordered (a b : Nat) : List Nat := if a ≤ b then [a, b] else [b, a]

/-- The code for up to four named symbols; `deep` tells two shapes for four of them apart. -/
def ofSymbols (symbols : List Nat) (deep : Bool) : Code :=
  match symbols with
  | [a] => lone a
  | [a, b] => words { counts := #[0, 2], symbols := (ordered a b).toArray }
  | [a, b, c] => words { counts := #[0, 1, 2], symbols := (a :: ordered b c).toArray }
  | [a, b, c, d] =>
    if deep then words { counts := #[0, 1, 1, 2], symbols := (a :: b :: ordered c d).toArray }
    else words { counts := #[0, 0, 4], symbols := ([a, b, c, d].mergeSort).toArray }
  | _ => lone 0

def readSimple (nameable alphabet : Nat) : Scan Fault Code := do
  let count := (← Scan.bits 2) + 1
  let symbols := (← Scan.times (Scan.bits (widthOf nameable)) count #[]).toList
  Scan.guard (symbols.all (· < alphabet) && symbols.Nodup) .code
  let deep ← Scan.bits (if count = 4 then 1 else 0)
  return ofSymbols symbols (deep = 1)

def lengthOrder : Array Nat := #[1, 2, 3, 4, 0, 5, 17, 6, 16, 7, 8, 9, 10, 11, 12, 13, 14, 15]

def lengthLength : Scan Fault Nat := do
  match ← Scan.bits 2 with
  | 0 => return 0
  | 1 => return 4
  | 2 => return 3
  | _ =>
    match ← Scan.bits 1 with
    | 0 => return 2
    | _ =>
      match ← Scan.bits 1 with
      | 0 => return 1
      | _ => return 5

/-- Reads lengths of the code-length code from the `i`th place on until the space is used up. -/
def readLengthLengths : (left i : Nat) → (space : Int) → Array Nat → Scan Fault (Array Nat × Int)
  | 0, _, space, acc => pure (acc, space)
  | left + 1, i, space, acc => do
    if space ≤ 0 then return (acc, space)
    else
      let n ← lengthLength
      let acc := acc.setIfInBounds (lengthOrder.getD i 0) n
      readLengthLengths left (i + 1) (if n = 0 then space else space - 1 <<< (5 - n)) acc

/-- The code for the words of given lengths; a single word takes no bits. -/
def ofLengths (maxLength : Nat) (lengths : Array Nat) : Code :=
  let h := Huffman.ofLengths maxLength lengths
  if h.used = 1 then lone (h.symbols.getD 0 0) else words h

structure Lengths where
  acc : Array Nat := #[]
  last : Nat := 8
  run : Nat := 0
  repeated : Nat := 0
  space : Int := 32768

namespace Lengths

def push (l : Lengths) (n : Nat) : Lengths where
  acc := l.acc.push n
  last := if n = 0 then l.last else n
  run := 0
  repeated := l.repeated
  space := if n = 0 then l.space else l.space - 1 <<< (15 - n)

def more (l : Lengths) (n extra width : Nat) : Lengths :=
  let old := if l.repeated = n then l.run else 0
  let run := (if old = 0 then 0 else (old - 2) <<< width) + extra + 3
  let delta := run - old
  { acc := l.acc ++ Array.replicate delta n
    last := l.last
    run
    repeated := n
    space := if n = 0 then l.space else l.space - delta <<< (15 - n) }

def readFrom (code : Code) (alphabet : Nat) : (left : Nat) → Lengths → Scan Fault Lengths
  | 0, l => pure l
  | left + 1, l => do
    if alphabet ≤ l.acc.size ∨ l.space = 0 then return l
    else
      let s ← code.decode
      if s < 16 then readFrom code alphabet left (l.push s)
      else if s = 16 then readFrom code alphabet left (l.more l.last (← Scan.bits 2) 2)
      else readFrom code alphabet left (l.more 0 (← Scan.bits 3) 3)

end Lengths

def readComplex (alphabet skipped : Nat) : Scan Fault Code := do
  let (lengths, space) ← readLengthLengths (18 - skipped) skipped 32 (Array.replicate 18 0)
  let used := lengths.foldl (fun n l => if l = 0 then n else n + 1) 0
  Scan.guard (used = 1 || space = 0) .code
  let l ← Lengths.readFrom (ofLengths 5 lengths) alphabet alphabet {}
  Scan.guard (l.acc.size ≤ alphabet && l.space = 0) .code
  return ofLengths 15 l.acc

/-- Reads the description of a code for symbols below `alphabet`, whose names have the width of
numbers below `nameable`. -/
def readWithin (nameable alphabet : Nat) : Scan Fault Code := do
  match ← Scan.bits 2 with
  | 1 => readSimple nameable alphabet
  | skipped => readComplex alphabet skipped

def read (alphabet : Nat) : Scan Fault Code := readWithin alphabet alphabet

end Code

end StreamCodec.Brotli
