import StreamCodec.Lzma.Chunks
import StreamCodec.Scan
import StreamCodec.Xz.Check
import StreamCodec.Xz.Filter

/-!
The parts of an xz stream that frame its blocks: the header and footer of the stream, the
header of a block, and the index, which repeats the sizes of all blocks.
-/

namespace StreamCodec.Xz

inductive Fault where
  | format
  | options
  | data
deriving DecidableEq, Repr

def magic : List UInt8 := [0xfd, 0x37, 0x7a, 0x58, 0x5a, 0x00]

def byte : Scan Fault Nat := Scan.bits 8

def zeros (e : Fault) : (n : Nat) → Scan Fault Unit
  | 0 => pure ()
  | n + 1 => do
    Scan.guard ((← byte) = 0) e
    zeros e n

/-- The rest of a number in groups of seven bits, lowest first, of at most `left` groups. The last
group is not zero unless it is the only one. -/
def numberFrom : (left weight acc : Nat) → Scan Fault Nat
  | 0, _, _ => Scan.fail .data
  | left + 1, weight, acc => do
    let b ← byte
    let acc := acc + b % 128 * weight
    if b < 128 then
      Scan.guard (b ≠ 0 || weight = 1) .data
      return acc
    else numberFrom left (128 * weight) acc

def number : Scan Fault Nat := numberFrom 9 1 0

def numberSize (n : Nat) : Nat := n.log2 / 7 + 1

def readFlags (b : ByteArray) (i : Nat) : Except Fault Nat :=
  let id := Bytes.le b (i + 1) 1
  if Bytes.le b i 1 = 0 ∧ id < 16 then .ok id else .error .options

def checksum (b : ByteArray) (i n : Nat) : Nat := (Crc32.ofBytes (b.extract i (i + n))).toNat

def judged {α : Type} : Except Fault α → Scan Fault α
  | .ok a => pure a
  | .error e => Scan.fail e

def readStart : Scan Fault Nat := do
  let b ← Scan.bytes 12
  Scan.guard (Bytes.startsWith b magic) .format
  Scan.guard (Bytes.le b 8 4 = checksum b 6 2) .data
  judged (readFlags b 6)

def readFooter (id size : Nat) : Scan Fault Unit := do
  let b ← Scan.bytes 12
  Scan.guard (Bytes.le b 10 2 = 0x5a59) .data
  Scan.guard (Bytes.le b 0 4 = checksum b 4 6) .data
  let id' ← judged (readFlags b 8)
  Scan.guard (4 * (Bytes.le b 4 4 + 1) = size && id' = id) .data

inductive Entry where
  | chunks (dictionary : Nat)
  | filter (f : Filter)

def dictionaryOf (n : Nat) : Nat := if n = 40 then 0xffffffff else (2 + n % 2) <<< (n / 2 + 11)

def machineOf? : Nat → Option Machine
  | 4 => some .x86
  | 5 => some .powerPc
  | 6 => some .ia64
  | 7 => some .arm
  | 8 => some .armThumb
  | 9 => some .sparc
  | _ => none

def entryOf (id : Nat) (props : ByteArray) : Except Fault Entry :=
  let first := Bytes.le props 0 1
  match id with
  | 0x21 =>
    if props.size = 1 ∧ first ≤ 40 then .ok (.chunks (dictionaryOf first)) else .error .options
  | 0x03 =>
    if props.size = 1 then .ok (.filter (.delta (first + 1) (Bytes.blank (first + 1))))
    else .error .options
  | _ =>
    match machineOf? id with
    | none => .error .options
    | some machine =>
      let place := Bytes.le props 0 4
      if props.size = 0 ∨ props.size = 4 then
        .ok (.filter (.branch { machine, place := place.toUInt32 }))
      else .error .options

def readEntry : Scan Fault Entry := do
  let id ← number
  Scan.guard (id < 0x4000000000000000) .data
  let props ← Scan.bytes (← number)
  judged (entryOf id props)

structure BlockHeader where
  size : Nat
  compressed : Option Nat
  uncompressed : Option Nat
  dictionary : Nat
  filters : List Filter

/-- Chunks are no filter, and the place of machine code has to fit the machine. -/
def Entry.asFilter : Entry → Except Fault Filter
  | chunks _ => .error .options
  | filter (.branch b) =>
    if b.place.toNat % Branch.alignment b.machine = 0 then .ok (.branch b) else .error .options
  | filter f => .ok f

/-- The chain of filters has chunks at its end and nowhere else. -/
def chainOf : List Entry → Except Fault (Nat × List Filter)
  | [] => .error .options
  | .chunks d :: rest =>
    (rest.mapM Entry.asFilter).map fun fs => (d, fs)
  | .filter _ :: _ => .error .options

def maxBlock : Nat := 0x7ffffffffffffffc

def blockParts (size checkSize : Nat) : Scan Fault BlockHeader := do
  let _ ← byte
  let flags ← byte
  Scan.guard (flags / 4 % 16 = 0) .options
  let compressed ← if flags / 64 % 2 = 1 then
      let n ← number
      Scan.guard (0 < n && n + size + checkSize ≤ maxBlock) .data
      pure (some n)
    else pure none
  let uncompressed ← if flags / 128 = 1 then
      let n ← number
      pure (some n)
    else pure none
  let entries ← Scan.times readEntry (flags % 4 + 1) #[]
  let p ← Scan.position
  zeros .options (size - 4 - p / 8)
  let (dictionary, filters) ← judged (chainOf entries.toList.reverse)
  return { size, compressed, uncompressed, dictionary, filters }

def readBlockHeader (checkSize : Nat) : Scan Fault BlockHeader := do
  let size := 4 * ((← byte) + 1)
  let rest ← Scan.bytes (size - 1)
  let b := Bytes.ofList [(size / 4 - 1).toUInt8] ++ rest
  Scan.guard (Bytes.le b (size - 4) 4 = checksum b 0 (size - 4)) .data
  match blockParts size checkSize (b.extract 0 (size - 4)) 0 with
  | .value h _ => return h
  | .short => Scan.fail .data
  | .bad e => Scan.fail e

/-- The size of a block without its padding, and of the bytes in it. -/
abbrev Record := Nat × Nat

/-- Sums over records: padded sizes, sizes of the bytes, and how many bytes the records take. -/
def sums (records : List Record) : Nat × Nat × Nat :=
  records.foldl (fun (a, b, c) (n, m) => (a + (n + 3) / 4 * 4, b + m,
    c + numberSize n + numberSize m)) (0, 0, 0)

/-- Reads records until there are as many as there are blocks; no sum exceeds that of the blocks. -/
def readRecords (blocks : List Record) : (left : Nat) → List Record → Scan Fault (List Record)
  | 0, acc => pure acc.reverse
  | left + 1, acc => do
    let n ← number
    Scan.guard (5 ≤ n && n ≤ maxBlock) .data
    let m ← number
    let acc := (n, m) :: acc
    let (a, b, c) := sums acc
    let (a', b', c') := sums blocks
    Scan.guard (a ≤ a' && b ≤ b' && c ≤ c') .data
    readRecords blocks left acc

def expectNumber : (n value : Nat) → Scan Fault Unit
  | 0, _ => pure ()
  | n + 1, value => do
    Scan.guard ((← byte) = value % 256) .data
    expectNumber n (value / 256)

def readIndex (blocks : List Record) : Scan Fault Nat := fun b start =>
  let body : Scan Fault Nat := do
    let _ ← byte
    Scan.guard ((← number) = blocks.length) .data
    let records ← readRecords blocks blocks.length []
    let p ← Scan.position
    let n := (p - start) / 8
    let padding := (4 - n % 4) % 4
    zeros .data padding
    Scan.ahead
    Scan.guard (records == blocks) .data
    let size := n + padding
    expectNumber 4 (checksum b (start / 8) size)
    return size + 4
  body b start

end StreamCodec.Xz
