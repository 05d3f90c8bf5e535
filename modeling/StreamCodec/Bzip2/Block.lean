import StreamCodec.Bzip2.Code

/-!
What a block says before its bytes can be handed out: its head, the codes that take turns
every fifty symbols, and the symbols, which are places in a list of recent bytes and
counts of the front one.
-/

namespace StreamCodec.Bzip2

def expect (e : Fault) : List UInt8 → Scan Fault Unit
  | [] => pure ()
  | x :: rest => do
    Scan.guard ((← Scan.highBits 8) = x.toNat) e
    expect e rest

def readStart : Scan Fault Nat := do
  expect .magic [0x42, 0x5a, 0x68]
  let c ← Scan.highBits 8
  Scan.guard (0x31 ≤ c && c ≤ 0x39) .magic
  return c - 0x30

structure Head where
  crc : UInt32
  disturbed : Bool
  origin : Nat
  bytes : Array UInt8
  codes : Nat
  choices : Nat

namespace Head

/-- The numbers of the set bits among the `n` low bits of `x`, counted from the top, above
`base`. -/
def members (base x n : Nat) : List UInt8 :=
  ((List.range n).filter fun i => x >>> (n - 1 - i) % 2 = 1).map fun i => (base + i).toUInt8

def readRanges : List UInt8 → Array UInt8 → Scan Fault (Array UInt8)
  | [], acc => pure acc
  | r :: rest, acc => do
    let x ← Scan.highBits 16
    readRanges rest (acc ++ (members (16 * r.toNat) x 16).toArray)

def read (limit : Nat) : Scan Fault Head := do
  let crc ← Scan.highBits 32
  let disturbed ← Scan.highBit
  let origin ← Scan.highBits 24
  Scan.guard (origin ≤ 10 + limit) .data
  let ranges ← Scan.highBits 16
  let bytes ← readRanges (members 0 ranges 16) #[]
  Scan.guard (0 < bytes.size) .data
  let codes ← Scan.highBits 3
  Scan.guard (2 ≤ codes && codes ≤ 6) .data
  let choices ← Scan.highBits 15
  Scan.guard (1 ≤ choices) .data
  return { crc := crc.toUInt32, disturbed := disturbed = 1, origin, bytes, codes, choices }

def alphabet (h : Head) : Nat := h.bytes.size + 2

def ending (h : Head) : Nat := h.bytes.size + 1

end Head

inductive Opening where
  | block (h : Head)
  | footer (crc : UInt32)

def readOpening (limit : Nat) : Scan Fault Opening := do
  match ← Scan.highBits 8 with
  | 0x31 =>
    expect .data [0x41, 0x59, 0x26, 0x53, 0x59]
    return .block (← Head.read limit)
  | 0x17 =>
    expect .data [0x72, 0x45, 0x38, 0x50, 0x90]
    return .footer (← Scan.highBits 32).toUInt32
  | _ => Scan.fail .data

/-- More choices of codes than a block has use for are read and dropped. -/
def maxChoices : Nat := 18002

def readUnary : (n j : Nat) → Scan Fault Nat
  | 0, _ => Scan.fail .data
  | n + 1, j => do
    match ← Scan.highBit with
    | 0 => return j
    | _ => readUnary n (j + 1)

def moveToFront {α : Type} (l : List α) (i : Nat) (dflt : α) : α × List α :=
  let x := l.getD i dflt
  (x, x :: l.eraseIdx i)

/-- The symbols of a block as they are read; `owed` copies of the front byte are due, and the next
count symbol weighs `weight`. -/
structure Symbols where
  column : ByteArray := ByteArray.empty
  recent : List UInt8
  choice : Nat := 0
  left : Nat := 0
  owed : Nat := 0
  weight : Nat := 1

namespace Symbols

inductive Next where
  | more (s : Symbols)
  | complete (column : ByteArray)
  | bad

/-- The longest run that the counts may spell. -/
def maxWeight : Nat := 2 * 1024 * 1024

def settle (s : Symbols) : Symbols :=
  let ⟨column, recent, choice, left, owed, _⟩ := s
  let x := recent.headD 0
  { column := Nat.repeat (fun b => b.push x) owed column, recent, choice, left }

/-- Takes one symbol of a block of at most `limit` bytes. -/
def apply (s : Symbols) (limit ending symbol : Nat) : Next :=
  if symbol ≤ 1 then
    if maxWeight ≤ s.weight then .bad
    else .more { s with owed := s.owed + (symbol + 1) * s.weight, weight := 2 * s.weight }
  else if limit < s.column.size + s.owed then .bad
  else
    let s := s.settle
    if symbol = ending then .complete s.column
    else if limit ≤ s.column.size then .bad
    else
      let ⟨column, recent, choice, left, owed, weight⟩ := s
      let (x, recent) := moveToFront recent (symbol - 1) 0
      .more { column := column.push x, recent, choice, left, owed, weight }

end Symbols

structure Codes where
  codes : Array Huffman
  choices : Array Nat

inductive SymbolsEnd where
  | short (s : Symbols)
  | complete (column : ByteArray)
  | bad

namespace Symbols

def read (c : Codes) (limit ending : Nat) (input : ByteArray) :
    (fuel : Nat) → Symbols → (pos : Nat) → SymbolsEnd × Nat
  | 0, s, pos => (.short s, pos)
  | fuel + 1, s, pos =>
    if s.left = 0 then
      if c.choices.size ≤ s.choice then (.bad, pos)
      else read c limit ending input fuel { s with choice := s.choice + 1, left := 50 } pos
    else
      let h := c.codes.getD (c.choices.getD (s.choice - 1) 0) { counts := #[], symbols := #[] }
      match Code.decode h input pos with
      | .short => (.short s, pos)
      | .bad _ => (.bad, pos)
      | .value symbol q =>
        match ({ s with left := s.left - 1 } : Symbols).apply limit ending symbol with
        | .more s => read c limit ending input fuel s q
        | .complete column => (.complete column, q)
        | .bad => (.bad, q)

end Symbols

end StreamCodec.Bzip2
