import StreamCodec.Brotli.Code
import StreamCodec.Brotli.Context

/-!
Meta-blocks: their headers and the tables that a compressed one carries. Literals,
commands and distances each have block types that take turns, and context maps choose a
code by block type and context.
-/

namespace StreamCodec.Brotli

def blockLengths : Array (Nat × Nat) :=
  #[(1, 2), (5, 2), (9, 2), (13, 2), (17, 3), (25, 3), (33, 3), (41, 3), (49, 4), (65, 4), (81, 4),
    (97, 4), (113, 5), (145, 5), (177, 5), (209, 5), (241, 6), (305, 6), (369, 7), (497, 8),
    (753, 9), (1265, 10), (2289, 11), (4337, 12), (8433, 13), (16625, 24)]

def insertLengths : Array (Nat × Nat) :=
  #[(0, 0), (1, 0), (2, 0), (3, 0), (4, 0), (5, 0), (6, 1), (8, 1), (10, 2), (14, 2), (18, 3),
    (26, 3), (34, 4), (50, 4), (66, 5), (98, 5), (130, 6), (194, 7), (322, 8), (578, 9), (1090, 10),
    (2114, 12), (6210, 14), (22594, 24)]

def copyLengths : Array (Nat × Nat) :=
  #[(2, 0), (3, 0), (4, 0), (5, 0), (6, 0), (7, 0), (8, 0), (9, 0), (10, 1), (12, 1), (14, 2),
    (18, 2), (22, 3), (30, 3), (38, 4), (54, 4), (70, 5), (102, 5), (134, 6), (198, 7), (326, 8),
    (582, 9), (1094, 10), (2118, 24)]

def ranged (codes : Array (Nat × Nat)) (symbol : Nat) : Scan Fault Nat :=
  match codes[symbol]? with
  | some (base, extra) => do return base + (← Scan.bits extra)
  | none => Scan.fail .code

def byteNumber : Scan Fault Nat := do
  match ← Scan.bits 1 with
  | 0 => return 0
  | _ =>
    let n ← Scan.bits 3
    return (1 <<< n) + (← Scan.bits n)

/-- The block types of one category, and how far the current block still goes. -/
structure Blocks where
  types : Nat := 1
  typeCode : Code := .lone 0
  lengthCode : Code := .lone 0
  current : Nat := 0
  previous : Nat := 1
  left : Nat := 0x1000000

namespace Blocks

def read : Scan Fault Blocks := do
  let types := (← byteNumber) + 1
  if types = 1 then return {}
  else
    let typeCode ← Code.read (types + 2)
    let lengthCode ← Code.read 26
    let left ← ranged blockLengths (← lengthCode.decode)
    return { types, typeCode, lengthCode, left }

/-- The type that a symbol stands for: the one before the current, the next one, or one by
number. -/
def typeOf (b : Blocks) (symbol : Nat) : Nat :=
  let t := match symbol with
    | 0 => b.previous
    | 1 => b.current + 1
    | n => n - 2
  if b.types ≤ t then t - b.types else t

def advance (b : Blocks) : Scan Fault Blocks := do
  if b.left = 0 ∧ 1 < b.types then
    let symbol ← b.typeCode.decode
    let left ← ranged blockLengths (← b.lengthCode.decode)
    return { b with current := b.typeOf symbol, previous := b.current, left := left - 1 }
  else return { b with left := b.left - 1 }

end Blocks

namespace ContextMap

/-- Reads numbers until there are `size`; those up to `longest` stand for runs of zeros. -/
def readFrom (code : Code) (longest size : Nat) : (left : Nat) → Array Nat → Scan Fault (Array Nat)
  | 0, acc => pure acc
  | left + 1, acc => do
    if size ≤ acc.size then return acc
    else
      let s ← code.decode
      if s = 0 then readFrom code longest size left (acc.push 0)
      else if s ≤ longest then
        let n := (1 <<< s) + (← Scan.bits s)
        Scan.guard (acc.size + n ≤ size) .map
        readFrom code longest size left (acc ++ Array.replicate n 0)
      else readFrom code longest size left (acc.push (s - longest))

def unmove (map : Array Nat) : Array Nat :=
  (map.foldl (fun ((acc : Array Nat), (front : List Nat)) i =>
    let x := front.getD i 0
    (acc.push x, x :: front.eraseIdx i)) (#[], List.range 256)).1

def read (size : Nat) : Scan Fault (Array Nat × Nat) := do
  let codes := (← byteNumber) + 1
  if codes = 1 then return (Array.replicate size 0, 1)
  else
    let hasRuns ← Scan.bits 1
    let longest := hasRuns + (← Scan.bits (4 * hasRuns))
    let code ← Code.read (codes + longest)
    let map ← readFrom code longest size size #[]
    match ← Scan.bits 1 with
    | 0 => return (map, codes)
    | _ => return (unmove map, codes)

end ContextMap

/-- The tables of a compressed meta-block. Symbols for distances carry `tailBits` low bits, and
`direct` distances have a symbol of their own. -/
structure Tables where
  literals : Blocks
  commands : Blocks
  distances : Blocks
  tailBits : Nat
  direct : Nat
  modes : Array ContextMode
  literalMap : Array Nat
  distanceMap : Array Nat
  literalCodes : Array Code
  commandCodes : Array Code
  distanceCodes : Array Code

def farthestLarge : Nat := 0x7FFFFFFC

def groupEnd (tailBits direct g : Nat) : Nat :=
  ((3 + g % 2) <<< (1 + g / 2) - 4) <<< tailBits + direct

def groupsWithin (tailBits direct farthest : Nat) : (left g : Nat) → Nat
  | 0, g => g
  | left + 1, g =>
    if farthest < groupEnd tailBits direct g then g
    else groupsWithin tailBits direct farthest left (g + 1)

def distanceSymbols (tailBits direct longest : Nat) : Nat :=
  16 + direct + longest <<< (tailBits + 1)

namespace Tables

def read (large : Bool) : Scan Fault Tables := do
  let literals ← Blocks.read
  let commands ← Blocks.read
  let distances ← Blocks.read
  let tailBits ← Scan.bits 2
  let direct := (← Scan.bits 4) <<< tailBits
  let modes ← Scan.times (Scan.bits 2) literals.types #[]
  let (literalMap, literalCount) ← ContextMap.read (64 * literals.types)
  let (distanceMap, distanceCount) ← ContextMap.read (4 * distances.types)
  let literalCodes ← Scan.times (Code.read 256) literalCount #[]
  let commandCodes ← Scan.times (Code.read 704) commands.types #[]
  let nameable := distanceSymbols tailBits direct (if large then 62 else 24)
  let allowed :=
    if large then 16 + direct + groupsWithin tailBits direct farthestLarge 124 0 <<< tailBits
    else nameable
  let distanceCodes ← Scan.times (Code.readWithin nameable allowed) distanceCount #[]
  return {
    literals, commands, distances, tailBits, direct, literalMap, distanceMap, literalCodes,
      commandCodes,
    distanceCodes, modes := modes.map ContextMode.ofBits }

end Tables

/-- What one command says: how many literals, then how long a copy. -/
structure Command where
  insert : Nat
  copy : Nat
  again : Bool
deriving DecidableEq, Repr

namespace Command

/-- The first insert code and copy code for each 64 command symbols. -/
def cells : Array (Nat × Nat) :=
  #[(0, 0), (0, 8), (0, 0), (0, 8), (8, 0), (8, 8), (0, 16), (16, 0), (8, 16), (16, 8), (16, 16)]

def ofSymbol (symbol : Nat) : Scan Fault Command := do
  let (i, c) := cells.getD (symbol / 64) (0, 0)
  let insert ← ranged insertLengths (i + symbol / 8 % 8)
  let copy ← ranged copyLengths (c + symbol % 8)
  return { insert, copy, again := symbol < 128 }

end Command

structure Ring where
  first : Nat := 4
  second : Nat := 11
  third : Nat := 15
  fourth : Nat := 16
deriving DecidableEq, Repr

namespace Ring

def push (r : Ring) (d : Nat) : Ring :=
  { first := d, second := r.first, third := r.second, fourth := r.third }

/-- The distance for a symbol below 16: one of the last four, or a neighbour of one of the last
two. -/
def distance (r : Ring) (symbol : Nat) : Int :=
  match symbol with
  | 0 => r.first
  | 1 => r.second
  | 2 => r.third
  | 3 => r.fourth
  | 4 => r.first - 1
  | 5 => r.first + 1
  | 6 => r.first - 2
  | 7 => r.first + 2
  | 8 => r.first - 3
  | 9 => r.first + 3
  | 10 => r.second - 1
  | 11 => r.second + 1
  | 12 => r.second - 2
  | 13 => r.second + 2
  | 14 => r.second - 3
  | _ => r.second + 3

end Ring

def distanceOf (t : Tables) (ring : Ring) (symbol : Nat) : Scan Fault Nat := do
  if symbol < 16 then
    let d := ring.distance symbol
    Scan.guard (0 < d) .distance
    return d.toNat
  else if symbol < 16 + t.direct then return symbol - 15
  else
    let x := symbol - t.direct - 16
    let width := 1 + x >>> (t.tailBits + 1)
    let high := x >>> t.tailBits
    let offset := (2 + high % 2) <<< width - 4
    return (offset + (← Scan.bits width)) <<< t.tailBits + x % (1 <<< t.tailBits) + t.direct + 1

inductive MetaBody where
  | nothing
  | metadata (length : Nat)
  | plain (length : Nat)
  | compressed (length : Nat)

structure MetaHeader where
  last : Bool
  body : MetaBody

namespace MetaHeader

/-- A length less one in parts of `width` bits each, the lowest first; the highest of more than
`least` parts is not zero. -/
def lengthIn (width parts least : Nat) : Scan Fault Nat := do
  let n ← Scan.bits (width * parts)
  Scan.guard (parts ≤ least || 1 <<< (width * (parts - 1)) ≤ n) .length
  return n + 1

def boundary : Scan Fault Unit := do
  Scan.guard ((← Scan.align) = 0) .padding

def readMetadata (last : Bool) : Scan Fault MetaHeader := do
  Scan.guard ((← Scan.bits 1) = 0) .length
  let parts ← Scan.bits 2
  let length ← if parts = 0 then pure 0 else lengthIn 8 parts 1
  boundary
  return { last, body := .metadata length }

def read : Scan Fault MetaHeader := do
  let last := (← Scan.bits 1) = 1
  let isEmpty ← Scan.bits (if last then 1 else 0)
  if isEmpty = 1 then return { last, body := .nothing }
  else
    let parts := (← Scan.bits 2) + 4
    if parts = 7 then readMetadata last
    else
      let length ← lengthIn 4 parts 4
      let isPlain ← Scan.bits (if last then 0 else 1)
      if isPlain = 1 then
        boundary
        return { last, body := .plain length }
      else return { last, body := .compressed length }

def largeWindow : Scan Fault Nat := do
  Scan.guard ((← Scan.bits 1) = 0) .window
  let n ← Scan.bits 6
  Scan.guard (10 ≤ n && n ≤ 30) .window
  return n

/-- The base-two logarithm of the window, from the start of the stream, and whether it is large. -/
def windowBits : Scan Fault (Nat × Bool) := do
  match ← Scan.bits 1 with
  | 0 => return (16, false)
  | _ =>
    match ← Scan.bits 3 with
    | 0 =>
      match ← Scan.bits 3 with
      | 0 => return (17, false)
      | 1 => return (← largeWindow, true)
      | n => return (8 + n, false)
    | n => return (17 + n, false)

end MetaHeader

end StreamCodec.Brotli
