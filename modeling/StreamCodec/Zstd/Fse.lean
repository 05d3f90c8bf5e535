import StreamCodec.Zstd.BackBits

/-!
Finite-state entropy tables. A table has a power of two of cells; a cell stands for a
symbol and says how the next state follows from the next bits. The counts of the symbols
add up to the number of cells, where a count of minus one takes one cell.
-/

namespace StreamCodec.Zstd

/-- A table of `2 ^ log` cells: for each the symbol, how many bits the next state takes, and what
they are added to. -/
structure Fse where
  log : Nat
  symbols : Array Nat
  bits : Array Nat
  bases : Array Nat

namespace Fse

def single (symbol : Nat) : Fse := { log := 0, symbols := #[symbol], bits := #[0], bases := #[0] }

/-- Puts the symbols with count minus one into the last cells; `high` cells stay free. -/
def placeRare (counts : Array Int) (cells : Array Nat) : Array Nat × Nat :=
  (counts.foldl (fun ((cells, high), s) c =>
    (if c = -1 then (cells.setIfInBounds (high - 1) s, high - 1) else (cells, high), s + 1))
    ((cells, cells.size), 0)).1

def nextFree (size high : Nat) : (fuel pos : Nat) → Nat
  | 0, pos => pos
  | fuel + 1, pos =>
    let pos := (pos + size / 2 + size / 8 + 3) % size
    if high ≤ pos then nextFree size high fuel pos else pos

def placeCopies (high s : Nat) : (n : Nat) → Array Nat → (pos : Nat) → Array Nat × Nat
  | 0, cells, pos => (cells, pos)
  | n + 1, cells, pos =>
    placeCopies high s n (cells.setIfInBounds pos s) (nextFree cells.size high cells.size pos)

def spread (counts : Array Int) (log : Nat) : Array Nat :=
  let (cells, high) := placeRare counts (Array.replicate (1 <<< log) 0)
  (counts.foldl (fun ((cells, pos), s) c => (placeCopies high s c.toNat cells pos, s + 1))
    ((cells, 0), 0)).1.1

def build (counts : Array Int) (log : Nat) : Fse :=
  let symbols := spread counts log
  let next := counts.map fun c => if c = -1 then 1 else c.toNat
  let (bits, bases, _) := symbols.foldl (fun (bits, bases, next) s =>
    let x := next.getD s 1
    let n := log - x.log2
    (bits.push n, bases.push (x <<< n - 1 <<< log), next.setIfInBounds s (x + 1)))
    ((#[] : Array Nat), (#[] : Array Nat), next)
  { log, symbols, bits, bases }

/-- The `n` bits from position `p` on; bits behind the end are zero. -/
def padded (b : ByteArray) (p n : Nat) : Nat :=
  ((Bits.littleWord b (p / 8) ((p % 8 + n + 7) / 8) >>> (p % 8).toUInt64) &&& Bits.mask n).toNat

/-- Reads how many zero counts follow a zero count: groups of three, and a rest. -/
def zeros (b : ByteArray) : (fuel p : Nat) → Array Int → Nat × Array Int
  | 0, p, counts => (p, counts)
  | fuel + 1, p, counts =>
    let k := padded b p 2
    let counts := counts ++ Array.replicate k 0
    if k = 3 then zeros b fuel (p + 2) counts else (p + 2, counts)

/-- Reads counts until they add up or there are `limit` of them. `remaining` is one more than what
is missing, and `width` bits are enough for it. -/
def readFrom (b : ByteArray) (limit : Nat) :
    (fuel p remaining width : Nat) → Array Int → (zero : Bool) → Nat × Nat × Array Int
  | 0, p, remaining, _, counts, _ => (p, remaining, counts)
  | fuel + 1, p, remaining, width, counts, zero =>
    let (p, counts) := if zero then zeros b limit p counts else (p, counts)
    if limit ≤ counts.size then (p, remaining, counts)
    else
      let threshold := 1 <<< (width - 1)
      let spare := 2 * threshold - 1 - remaining
      let low := padded b p (width - 1)
      let full := padded b p width
      let (value, used) :=
        if low < spare then (low, width - 1)
        else (if threshold ≤ full then full - spare else full, width)
      let remaining := remaining - (if value = 0 then 1 else value - 1)
      let counts := counts.push (value - 1 : Int)
      let width := if remaining < threshold then remaining.log2 + 1 else width
      if remaining ≤ 1 ∨ limit ≤ counts.size then (p + used, remaining, counts)
      else readFrom b limit fuel (p + used) remaining width counts (value = 1)

def read? (b : ByteArray) (limit maxLog : Nat) : Option (Fse × Nat) :=
  let log := padded b 0 4 + 5
  if b.size = 0 ∨ maxLog < log then none
  else
    let (p, remaining, counts) := readFrom b limit limit 4 (1 <<< log + 1) (log + 1) #[] false
    let used := (p + 7) / 8
    if remaining = 1 ∧ counts.size ≤ limit ∧ used ≤ b.size then some (build counts log, used)
    else none

def start? (t : Fse) (r : BackBits) : Option (Nat × BackBits) := r.read? t.log

def symbol (t : Fse) (state : Nat) : Nat := t.symbols.getD state 0

def next? (t : Fse) (state : Nat) (r : BackBits) : Option (Nat × BackBits) :=
  match r.read? (t.bits.getD state 0) with
  | some (x, r) => some (t.bases.getD state 0 + x, r)
  | none => none

end Fse

end StreamCodec.Zstd
