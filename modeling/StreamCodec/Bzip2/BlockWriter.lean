import StreamCodec.Bzip2.Block
import StreamCodec.Bzip2.CodeLengths
import StreamCodec.Bzip2.Rotations
import StreamCodec.BitWriter

/-!
Writing a block: its rotations are sorted, the last bytes become places in a list of
recent bytes and counts of the front one, and two to six codes take turns over them. The
codes are found by trying: each fifty symbols go to the code that suits them best, and
each code is fitted to the symbols it got.
-/

namespace StreamCodec.Bzip2.BlockWriter

def bytesOf (b : ByteArray) : List UInt8 :=
  let counts := Rotations.counts b
  ((List.range 256).filter fun x => counts.getD x 0 ≠ 0).map (·.toUInt8)

/-- A positive count in digits 1 and 2 of base two, the lowest first; the symbols are one less. -/
def runSymbols (n : Nat) : List Nat :=
  if n = 0 then []
  else if n % 2 = 1 then 0 :: runSymbols ((n - 1) / 2)
  else 1 :: runSymbols ((n - 2) / 2)
termination_by n

def symbolsOf (column : ByteArray) (bytes : List UInt8) : Array Nat :=
  let (symbols, _, run) :=
    column.data.foldl (fun ((acc : Array Nat), (recent : List UInt8), (run : Nat)) x =>
    if recent.head? = some x then (acc, recent, run + 1)
    else
      let i := recent.idxOf x
      ((acc ++ runSymbols run).push (i + 1), x :: recent.eraseIdx i, 0)) (#[], bytes, 0)
  (symbols ++ runSymbols run).push (bytes.length + 1)

def codeCount (symbols : Nat) : Nat :=
  if symbols < 200 then 2 else if symbols < 600 then 3 else if symbols < 1200 then 4
  else if symbols < 2400 then 5 else 6

def countSymbols (alphabet : Nat) (symbols : Array Nat) : Array Nat :=
  symbols.foldl (fun acc s => acc.modify s (· + 1)) (Array.replicate alphabet 0)

/-- Goes on from symbol `i` until the symbols passed occur `wanted` times, `n` symbols at most. -/
def reach (counts : Array Nat) (wanted : Nat) : (n i sum : Nat) → Nat × Nat
  | 0, i, sum => (i, sum)
  | n + 1, i, sum =>
    if sum < wanted then reach counts wanted n (i + 1) (sum + counts.getD i 0) else (i, sum)

/-- The first lengths for codes: each favours a stretch of symbols, and the stretches are about
equally frequent. The last code comes first; `left` occurrences are to be shared. -/
def firstLengths (counts : Array Nat) (codes : Nat) : (n start left : Nat) → List (Array Nat)
  | 0, _, _ => []
  | n + 1, start, left =>
    let (stop, sum) := reach counts (left / (n + 1)) (counts.size - start) start 0
    let (stop, sum) :=
      if start + 1 < stop ∧ n + 1 ≠ codes ∧ n ≠ 0 ∧ (codes - (n + 1)) % 2 = 1 then
        (stop - 1, sum - counts.getD (stop - 1) 0)
      else (stop, sum)
    (Array.range counts.size).map (fun s => if start ≤ s ∧ s < stop then 0 else 15)
      :: firstLengths counts codes n stop (left - sum)

def groups (symbols : Array Nat) : (n i : Nat) → List (Array Nat)
  | 0, _ => []
  | n + 1, i => symbols.extract i (i + 50) :: groups symbols n (i + 50)

def cost (lengths group : Array Nat) : Nat := group.foldl (fun sum s => sum + lengths.getD s 0) 0

def choose (codes : List (Array Nat)) (group : Array Nat) : Nat :=
  (codes.foldl (fun (best, least, i) lengths =>
    let c := cost lengths group
    if c < least then (i, c, i + 1) else (best, least, i + 1)) (0, 999999999, 0)).1

def share (alphabet codes : Nat) (groups : List (Array Nat)) (choices : List Nat) :
    Array (Array Nat) :=
  (groups.zip choices).foldl (fun acc (group, c) =>
    acc.modify c fun counts => group.foldl (fun counts s => counts.modify s (· + 1)) counts)
    (Array.replicate codes (Array.replicate alphabet 0))

/-- Chooses codes for the groups and fits the codes, `n` times; the last choice and the last
codes. -/
def fit (alphabet : Nat) (groups : List (Array Nat)) :
    (n : Nat) → List (Array Nat) → List Nat → List (Array Nat) × List Nat
  | 0, codes, choices => (codes, choices)
  | n + 1, codes, _ =>
    let choices := groups.map (choose codes)
    let codes := (share alphabet codes.length groups choices).toList.map CodeLengths.ofCounts
    fit alphabet groups n codes choices

def bitmap (p : Nat → Bool) : Nat := (List.range 16).foldl (fun acc i => 2 * acc + (p i).toNat) 0

def putBytes (w : HighBitWriter) (bytes : List UInt8) : HighBitWriter :=
  let inRange (r : Nat) : Bool := bytes.any fun x => x.toNat / 16 = r
  let w := w.push (bitmap inRange) 16
  (List.range 16).foldl (fun w r =>
    if inRange r then w.push (bitmap fun i => bytes.contains (16 * r + i).toUInt8) 16 else w) w

def putUnary (w : HighBitWriter) (n : Nat) : HighBitWriter :=
  (Nat.repeat (fun w => w.push 1 1) n w).push 0 1

def putChoices (w : HighBitWriter) (codes : Nat) (choices : List Nat) : HighBitWriter :=
  let w := (w.push codes 3).push choices.length 15
  (choices.foldl (fun (w, recent) c =>
    let i := recent.idxOf c
    (putUnary w i, c :: recent.eraseIdx i)) (w, List.range codes)).1

def putLength (w : HighBitWriter) (before length : Nat) : HighBitWriter :=
  let w := Nat.repeat (fun w => w.push 2 2) (length - before) w
  (Nat.repeat (fun w => w.push 3 2) (before - length) w).push 0 1

def putLengths (w : HighBitWriter) (lengths : Array Nat) : HighBitWriter :=
  let first := lengths.getD 0 0
  (lengths.foldl (fun (w, before) l => (putLength w before l, l)) (w.push first 5, first)).1

def putSymbols (w : HighBitWriter) (codes : List (Array Nat)) (groups : List (Array Nat))
    (choices : List Nat) : HighBitWriter :=
  let tables := (codes.map fun lengths => (Huffman.words maxLength lengths, lengths)).toArray
  (groups.zip choices).foldl (fun w (group, c) =>
    let (words, lengths) := tables.getD c (#[], #[])
    group.foldl (fun w s => w.push (words.getD s 0) (lengths.getD s 0)) w) w

def putBlock (w : HighBitWriter) (block : ByteArray) (crc : UInt32) : HighBitWriter :=
  let sorted := Rotations.sorted block
  let w := ((w.push 0x314159265359 48).push crc.toNat 32).push 0 1
  let w := w.push (Rotations.origin sorted) 24
  let bytes := bytesOf block
  let symbols := symbolsOf (Rotations.lastColumn block sorted) bytes
  let alphabet := bytes.length + 2
  let codes := codeCount symbols.size
  let groups := groups symbols ((symbols.size + 49) / 50) 0
  let first := (firstLengths (countSymbols alphabet symbols) codes codes 0 symbols.size).reverse
  let (lengths, choices) := fit alphabet groups 4 first []
  let w := putChoices (putBytes w bytes) codes choices
  putSymbols (lengths.foldl putLengths w) lengths groups choices

end StreamCodec.Bzip2.BlockWriter
