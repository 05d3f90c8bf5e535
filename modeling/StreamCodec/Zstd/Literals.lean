import StreamCodec.Bytes
import StreamCodec.Zstd.Fse

/-!
The literals of a compressed block: raw bytes, one byte repeated, or bytes coded with a
Huffman table in one or four bit strings. The table is spelled out by weights or is the
one used before.
-/

namespace StreamCodec.Zstd

inductive Fault where
  | unknownFrame | unsupported | windowTooLarge | dictionary | checksum | sourceSize | corrupt
deriving DecidableEq, Repr

def Fault.message : Fault → String
  | unknownFrame => "Unknown frame descriptor"
  | unsupported => "Unsupported frame parameter"
  | windowTooLarge => "Frame requires too much memory for decoding"
  | dictionary => "Dictionary mismatch"
  | checksum => "Restored data doesn't match checksum"
  | sourceSize => "Src size is incorrect"
  | corrupt => "Data corruption detected"

def orCorrupt {α : Type} : Option α → Except Fault α
  | some a => .ok a
  | none => .error .corrupt

/-- A table over all strings of `log` bits: the symbol that such a string starts with, and the
length of its word. -/
structure HuffmanTable where
  log : Nat
  symbols : Array Nat
  lengths : Array Nat

namespace HuffmanTable

def share (weight : Nat) : Nat := if weight = 0 then 0 else 1 <<< (weight - 1)

def build (weights : Array Nat) (log : Nat) : HuffmanTable :=
  let (symbols, lengths) := (List.range log).foldl (fun acc w =>
    (weights.foldl (fun ((symbols, lengths), s) v =>
      (if v = w + 1 then
          (symbols ++ Array.replicate (share v) s, lengths ++ Array.replicate (share v) (log - w))
        else (symbols, lengths), s + 1)) (acc, 0)).1) ((#[] : Array Nat), (#[] : Array Nat))
  { log, symbols, lengths }

/-- The table for the weights of all symbols but the last, whose weight completes the sum. -/
def ofWeights? (weights : Array Nat) : Option HuffmanTable :=
  let total := weights.foldl (fun t w => t + share w) 0
  let log := total.log2 + 1
  let rest := 1 <<< log - total
  let weights := weights.push (rest.log2 + 1)
  let ones := weights.foldl (fun n w => if w = 1 then n + 1 else n) 0
  if total = 0 ∨ 12 < log ∨ weights.any (12 < ·) ∨ rest ≠ 1 <<< rest.log2 ∨ ones < 2 ∨
    ones % 2 = 1 then none
  else some (build weights log)

def plainWeights (b : ByteArray) (start count : Nat) : Array Nat :=
  (Array.range count).map fun i =>
    let x := (b[start + i / 2]?.getD 0).toNat
    if i % 2 = 0 then x / 16 else x % 16

/-- Weights from two states that take turns, until the bits run out. -/
def codedFrom (t : Fse) : (fuel : Nat) → (a b : Nat) → BackBits → Array Nat → Option (Array Nat)
  | 0, _, _, _, _ => none
  | fuel + 1, a, b, r, acc =>
    let acc := acc.push (t.symbol a)
    match t.next? a r with
    | some (a, r) => codedFrom t fuel b a r acc
    | none => some (acc.push (t.symbol b))

def codedWeights? (b : ByteArray) : Option (Array Nat) := do
  let (t, used) ← Fse.read? b 256 6
  let r ← BackBits.ofBytes? (b.extract used b.size)
  let (first, r) ← t.start? r
  let (second, r) ← t.start? r
  codedFrom t 254 first second r #[]

def read? (b : ByteArray) : Option (HuffmanTable × Nat) := do
  let head := (← b[0]?).toNat
  if 128 ≤ head then
    let count := head - 127
    let size := (count + 1) / 2
    if b.size < size + 1 then none
    else return (← ofWeights? (plainWeights b 1 count), size + 1)
  else if b.size < head + 1 then none
  else return (← ofWeights? (← codedWeights? (b.extract 1 (head + 1))), head + 1)

def decodeFrom (t : HuffmanTable) : (n : Nat) → BackBits → ByteArray → Option (BackBits × ByteArray)
  | 0, r, out => some (r, out)
  | n + 1, r, out =>
    let i := r.peek t.log
    match r.skip? (t.lengths.getD i 0) with
    | some r => decodeFrom t n r (out.push (t.symbols.getD i 0).toUInt8)
    | none => none

def decode? (t : HuffmanTable) (b : ByteArray) (n : Nat) (out : ByteArray) : Option ByteArray := do
  let (r, out) ← decodeFrom t n (← BackBits.ofBytes? b) out
  if r.left = 0 then some out else none

def decodeFour? (t : HuffmanTable) (b : ByteArray) (n : Nat) : Option ByteArray := do
  let a₁ := Bytes.le b 0 2
  let a₂ := Bytes.le b 2 2
  let a₃ := Bytes.le b 4 2
  let part := (n + 3) / 4
  if b.size < 10 ∨ b.size < 6 + a₁ + a₂ + a₃ ∨ n < 3 * part then none
  else
    let out ← t.decode? (b.extract 6 (6 + a₁)) part ByteArray.empty
    let out ← t.decode? (b.extract (6 + a₁) (6 + a₁ + a₂)) part out
    let out ← t.decode? (b.extract (6 + a₁ + a₂) (6 + a₁ + a₂ + a₃)) part out
    t.decode? (b.extract (6 + a₁ + a₂ + a₃) b.size) (n - 3 * part) out

end HuffmanTable

structure Literals where
  bytes : ByteArray
  used : Nat
  table : Option HuffmanTable

namespace Literals

def plainSizes (b : ByteArray) (kind : Nat) : Nat × Nat :=
  match kind with
  | 1 => (2, Bytes.le b 0 2 / 16)
  | 3 => (3, Bytes.le b 0 3 / 16)
  | _ => (1, Bytes.le b 0 1 / 8)

def codedSizes (b : ByteArray) (kind : Nat) : Nat × Nat × Nat :=
  match kind with
  | 2 => (4, Bytes.le b 0 4 / 16 % 0x4000, Bytes.le b 0 4 >>> 18)
  | 3 => (5, Bytes.le b 0 5 / 16 % 0x40000, Bytes.le b 0 5 >>> 22)
  | _ => (3, Bytes.le b 0 3 / 16 % 0x400, Bytes.le b 0 3 >>> 14)

def readRaw (b : ByteArray) (limit : Nat) (table : Option HuffmanTable) (kind : Nat) :
    Option Literals :=
  let (head, size) := plainSizes b kind
  if b.size < head ∨ limit < size ∨ b.size < head + size then none
  else some { bytes := b.extract head (head + size), used := head + size, table }

def readRepeated (b : ByteArray) (limit : Nat) (table : Option HuffmanTable) (kind : Nat) :
    Option Literals :=
  let (head, size) := plainSizes b kind
  if b.size < head + 1 ∨ limit < size then none
  else some { bytes := Bytes.replicate size (b[head]?.getD 0), used := head + 1, table }

/-- Coded literals; `known` is the table to use when none is spelled out. -/
def readCoded (b : ByteArray) (limit : Nat) (known : Option HuffmanTable) (kind : Nat) :
    Option Literals := do
  let (head, size, coded) := codedSizes b kind
  if b.size < 5 ∨ limit < size ∨ b.size < head + coded ∨ (kind ≠ 0 ∧ size < 6) then none
  else
    let body := b.extract head (head + coded)
    let (table, used) ← match known with
      | some t => some (t, 0)
      | none => HuffmanTable.read? body
    let body := body.extract used body.size
    let bytes ← if kind = 0 then table.decode? body size ByteArray.empty
      else table.decodeFour? body size
    return { bytes, used := head + coded, table := some table }

def read (b : ByteArray) (limit : Nat) (table : Option HuffmanTable) : Except Fault Literals :=
  let head := (b[0]?.getD 0).toNat
  let kind := head / 4 % 4
  if b.size < 2 then .error .corrupt
  else
    orCorrupt <| match head % 4 with
      | 0 => readRaw b limit table kind
      | 1 => readRepeated b limit table kind
      | 2 => readCoded b limit none kind
      | _ => if table.isNone then none else readCoded b limit table kind

end Literals

end StreamCodec.Zstd
