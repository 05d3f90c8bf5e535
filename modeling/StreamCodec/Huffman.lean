import StreamCodec.Scan

/-!
Canonical prefix codes. The code words of one length are consecutive numbers in the
order of the symbols, and they follow the shorter words; so the number of words of
each length and the list of symbols in code order say everything.
-/

namespace StreamCodec

/-- How many words there are of each length, from zero on, and the symbols in the order of words. -/
structure Huffman where
  counts : Array Nat
  symbols : Array Nat

namespace Huffman

def countOf (lengths : Array Nat) (n : Nat) : Nat :=
  lengths.foldl (fun k l => if l = n then k + 1 else k) 0

def symbolsOf (lengths : Array Nat) (n : Nat) : Array Nat :=
  (Array.range lengths.size).filter fun s => lengths.getD s 0 = n

/-- The code whose word for symbol `s` has `lengths[s]` bits, or none when that is zero. -/
def ofLengths (maxLength : Nat) (lengths : Array Nat) : Huffman where
  counts := (Array.range (maxLength + 1)).map fun n => if n = 0 then 0 else countOf lengths n
  symbols := (Array.range maxLength).foldl (fun acc n => acc ++ symbolsOf lengths (n + 1)) #[]

def used (h : Huffman) : Nat := h.symbols.size

def weight (h : Huffman) : Nat := h.counts.foldl (fun w c => 2 * w + c) 0

/-- Every bit string starts with exactly one word. -/
def complete (h : Huffman) : Bool := h.weight = 1 <<< (h.counts.size - 1)

/-- No longer word can match: all words were shorter, or the only word is ruled out by a set bit. -/
def settled (h : Huffman) (index count code : Nat) : Bool :=
  index + count = h.used || (h.used = 1 && code != 0)

/-- Reads one symbol: `left` more lengths to try from `len` on; `code` is the word so far, `first`
the first word of this length and `index` the place of its symbol. -/
def walk {ε : Type} (h : Huffman) (next : Scan ε Nat) (e : ε) :
    (left len code first index : Nat) → Scan ε Nat
  | 0, _, _, _, _ => Scan.fail e
  | left + 1, len, code, first, index => fun b p =>
    match next b p with
    | .short => .short
    | .bad e => .bad e
    | .value x q =>
      let code := code + x
      let count := h.counts.getD len 0
      if code < first + count then .value (h.symbols.getD (index + (code - first)) 0) q
      else if h.settled index count code then .bad e
      else walk h next e left (len + 1) (2 * code) (2 * (first + count)) (index + count) b q

@[inline] def decode {ε : Type} (h : Huffman) (next : Scan ε Nat) (e : ε) : Scan ε Nat :=
  walk h next e (h.counts.size - 1) 1 0 0 0

def firstWords (maxLength : Nat) (lengths : Array Nat) : Array Nat :=
  (Array.range maxLength).foldl
    (fun acc n => acc.push (2 * (acc.getD n 0 + if n = 0 then 0 else countOf lengths n))) #[0]

def words (maxLength : Nat) (lengths : Array Nat) : Array Nat :=
  (lengths.foldl (fun (acc, next) l =>
    (acc.push (next.getD l 0), next.modify l (· + 1))) (#[], firstWords maxLength lengths)).1

def reverseBits : (n x : Nat) → Nat
  | 0, _ => 0
  | n + 1, x => (x % 2) <<< n + reverseBits n (x / 2)

def reversedWords (maxLength : Nat) (lengths : Array Nat) : Array Nat :=
  ((words maxLength lengths).zip lengths).map fun (w, l) => reverseBits l w

end Huffman

end StreamCodec
