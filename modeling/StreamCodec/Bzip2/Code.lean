import StreamCodec.Huffman

/-!
The prefix codes of bzip2, with words of at most twenty bits. A code need not use up the
space of words: a word that belongs to no symbol is told only by its length.
-/

namespace StreamCodec.Bzip2

inductive Fault where
  | magic
  | data
deriving DecidableEq, Repr

def maxLength : Nat := 20

namespace Code

def walk (h : Huffman) : (left len code first index : Nat) → Scan Fault Nat
  | 0, _, _, _, _ => fun b p =>
    match Scan.highBit (ε := Fault) b p with
    | .short => .short
    | _ => .bad .data
  | left + 1, len, code, first, index => fun b p =>
    match Scan.highBit b p with
    | .short => .short
    | .bad e => .bad e
    | .value x q =>
      let code := code + x
      let count := h.counts.getD len 0
      if code < first + count then .value (h.symbols.getD (index + (code - first)) 0) q
      else walk h left (len + 1) (2 * code) (2 * (first + count)) (index + count) b q

def decode (h : Huffman) : Scan Fault Nat := walk h maxLength 1 0 0 0

/-- Steps up and down from one length to the next until a zero bit. The length stays in range at all
times. -/
def walkLength : (fuel : Nat) → (length : Nat) → Scan Fault Nat
  | 0, _ => fun _ _ => .short
  | fuel + 1, length => do
    Scan.guard (1 ≤ length && length ≤ maxLength) .data
    match ← Scan.highBit with
    | 0 => return length
    | _ =>
      match ← Scan.highBit with
      | 0 => walkLength fuel (length + 1)
      | _ => walkLength fuel (length - 1)

def readLength (length : Nat) : Scan Fault Nat := fun b p => walkLength (8 * b.size + 1) length b p

def readLengths : (n : Nat) → (length : Nat) → Array Nat → Scan Fault (Array Nat)
  | 0, _, acc => pure acc
  | n + 1, length, acc => do
    let length ← readLength length
    readLengths n length (acc.push length)

def read (alphabet : Nat) : Scan Fault Huffman := do
  let length ← Scan.highBits 5
  return Huffman.ofLengths maxLength (← readLengths alphabet length #[])

end Code

end StreamCodec.Bzip2
