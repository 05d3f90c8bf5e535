import StreamCodec.Brotli.Dictionary
import StreamCodec.Brotli.MetaBlock
import StreamCodec.Bytes
import StreamCodec.Stream.Native
import StreamCodec.Stream.Held

/-!
The Brotli decoder. It reads as far as the input goes, whatever the room, and hands out
what fits; only when a whole window is owed does it wait. A rejected stream stays
rejected.
-/

namespace StreamCodec.Brotli

inductive Phase where
  | start
  | header
  | metadata (left : Nat)
  | plain (left : Nat)
  | tables (left : Nat)
  | command (t : Tables) (left : Nat)
  | literals (t : Tables) (left : Nat) (n : Nat) (c : Command)
  | distance (t : Tables) (left : Nat) (c : Command)
  | copy (t : Tables) (left : Nat) (n distance : Nat)
  | ended

structure Core where
  phase : Phase := .start
  windowBits : Nat := 16
  large : Bool := false
  last : Bool := false
  ring : Ring := {}

namespace Core

def farthest (c : Core) (size : Nat) : Nat := min size (1 <<< c.windowBits - 16)

def behind (out : ByteArray) (i : Nat) : Nat :=
  if i ≤ out.size then (out[out.size - i]?.getD 0).toNat else 0

def afterBlock (c : Core) : Scan Fault Core :=
  if c.last then do
    MetaHeader.boundary
    return { c with phase := .ended }
  else return { c with phase := .header }

def onward (c : Core) (t : Tables) (left : Nat) : Scan Fault Core :=
  if left = 0 then c.afterBlock else return { c with phase := .command t left }

def readHeader (c : Core) : Scan Fault Core := do
  let h ← MetaHeader.read
  let c := { c with last := h.last }
  match h.body with
  | .nothing => c.afterBlock
  | .metadata n => return { c with phase := .metadata n }
  | .plain n => return { c with phase := .plain n }
  | .compressed n => return { c with phase := .tables n }

def readCommand (c : Core) (t : Tables) (left : Nat) : Scan Fault Core := do
  let commands ← t.commands.advance
  let command ← Command.ofSymbol (← (t.commandCodes.getD commands.current (.lone 0)).decode)
  Scan.guard (command.insert ≤ left) .length
  let t := { t with commands }
  let left := left - command.insert
  if command.insert = 0 then return { c with phase := .distance t left command }
  else return { c with phase := .literals t left command.insert command }

def readLiteral (t : Tables) (out : ByteArray) : Scan Fault (Tables × UInt8) := do
  let literals ← t.literals.advance
  let mode := t.modes.getD literals.current .low
  let context := mode.context (behind out 1) (behind out 2)
  let code := t.literalCodes.getD (t.literalMap.getD (64 * literals.current + context) 0) (.lone 0)
  return ({ t with literals }, (← code.decode).toUInt8)

def readSymbol (t : Tables) (command : Command) : Scan Fault (Tables × Nat) := do
  if command.again then return (t, 0)
  else
    let distances ← t.distances.advance
    let context := 4 * distances.current + min (command.copy - 2) 3
    let code := t.distanceCodes.getD (t.distanceMap.getD context 0) (.lone 0)
    return ({ t with distances }, ← code.decode)

/-- Reads a distance; those beyond the farthest name a word, which is appended. -/
def readDistance (c : Core) (t : Tables) (left : Nat) (command : Command) (out : ByteArray) :
    Scan Fault (Core × ByteArray) := do
  if left = 0 then return (← c.afterBlock, out)
  else
    let (t, symbol) ← readSymbol t command
    let d ← distanceOf t c.ring symbol
    let farthest := c.farthest out.size
    if d ≤ farthest then
      Scan.guard (command.copy ≤ left) .length
      let ring := if symbol = 0 then c.ring else c.ring.push d
      return ({ c with ring, phase := .copy t (left - command.copy) command.copy d }, out)
    else
      match Dictionary.lookup? command.copy (d - farthest) with
      | none => Scan.fail .dictionary
      | some word =>
        Scan.guard (word.size ≤ left) .length
        return (← c.onward t (left - word.size), out ++ word)

inductive Halt where
  | short
  | full
  | ended
  | bad
deriving DecidableEq, Repr

/-- Reads item after item until the output has `limit` bytes or more; `fuel` bounds their number. -/
def items (input : ByteArray) (limit : Nat) :
    (fuel : Nat) → Core → (pos : Nat) → ByteArray → Core × Nat × ByteArray × Halt
  | 0, c, pos, out => (c, pos, out, .short)
  | fuel + 1, c, pos, out =>
    if limit ≤ out.size then (c, pos, out, .full)
    else
      let go (r : Scanned Fault Core) (out : ByteArray) : Core × Nat × ByteArray × Halt :=
        match r with
        | .short => (c, pos, out, .short)
        | .bad _ => (c, pos, out, .bad)
        | .value c q => items input limit fuel c q out
      match c.phase with
      | .start =>
        match MetaHeader.windowBits input pos with
        | .short => (c, pos, out, .short)
        | .bad _ => (c, pos, out, .bad)
        | .value (windowBits, large) q =>
          items input limit fuel { c with windowBits, large, phase := .header } q out
      | .header => go (c.readHeader input pos) out
      | .metadata left =>
        let n := min left (input.size - pos / 8)
        if left = n then go (c.afterBlock input (pos + 8 * n)) out
        else ({ c with phase := .metadata (left - n) }, pos + 8 * n, out, .short)
      | .plain left =>
        let n := min left (min (limit - out.size) (input.size - pos / 8))
        let out := out ++ input.extract (pos / 8) (pos / 8 + n)
        if left = n then go (c.afterBlock input (pos + 8 * n)) out
        else if n = 0 then (c, pos, out, .short)
        else items input limit fuel { c with phase := .plain (left - n) } (pos + 8 * n) out
      | .tables left =>
        match Tables.read c.large input pos with
        | .short => (c, pos, out, .short)
        | .bad _ => (c, pos, out, .bad)
        | .value t q => items input limit fuel { c with phase := .command t left } q out
      | .command t left => go (c.readCommand t left input pos) out
      | .literals t left n command =>
        match readLiteral t out input pos with
        | .short => (c, pos, out, .short)
        | .bad _ => (c, pos, out, .bad)
        | .value (t, x) q =>
          let phase := if n = 1 then .distance t left command else .literals t left (n - 1) command
          items input limit fuel { c with phase } q (out.push x)
      | .distance t left command =>
        match c.readDistance t left command out input pos with
        | .short => (c, pos, out, .short)
        | .bad _ => (c, pos, out, .bad)
        | .value (c, out) q => items input limit fuel c q out
      | .copy t left n distance =>
        let k := min n (limit - out.size)
        let out := Bytes.copyBack out distance k
        if k < n then
          items input limit fuel { c with phase := .copy t left (n - k) distance } pos out
        else go (c.onward t left input pos) out
      | .ended => (c, pos, out, .ended)

end Core

structure Decoder where
  core : Core := {}
  held : Held := {}
  out : ByteArray := ByteArray.empty
  handed : Nat := 0
  failed : Bool := false

namespace Decoder

def rejection : Refusal := .data "invalid compressed data"

/-- Runs and hands out by turns: the state, the position, the output of the call, and why it
stopped. -/
def runs (input : ByteArray) :
    (fuel : Nat) → Core → (pos : Nat) → (out : ByteArray) → (handed room : Nat) →
    (written : ByteArray) →
      Core × Nat × ByteArray × Nat × ByteArray × Core.Halt
  | 0, c, pos, out, handed, _, written => (c, pos, out, handed, written, .full)
  | fuel + 1, c, pos, out, handed, room, written =>
    let window := 1 <<< c.windowBits
    let limit := (handed / window + 1) * window
    let (c, pos, out, halt) := c.items input limit (4 * (8 * input.size + window) + 64) pos out
    let n := min (out.size - handed) room
    let written := written ++ out.extract handed (handed + n)
    let handed := handed + n
    if halt = .full ∧ handed = out.size ∧ n < room then
      runs input fuel c pos out handed (room - n) written
    else (c, pos, out, handed, written, halt)

def decode (s : Decoder) (input : Slice) (room : Nat) : Answer × Decoder :=
  if s.failed then (.error rejection, s)
  else
    let ⟨core, held, out, handed, _⟩ := s
    let (joined, pos) := held.join input
    let (core, pos, out, handed, written, halt) :=
      runs joined (room + 1) core pos out handed room ByteArray.empty
    match halt with
    | .bad => (.error rejection, { failed := true })
    | .short =>
      (.ok (.progress input.size written), { core, held := Held.keepAll joined pos, out, handed })
    | .full =>
      (.ok (.progress (held.takenTo pos) written),
        { core, held := Held.keepPart joined pos, out, handed })
    | .ended =>
      (.ok { consumed := held.takenTo pos, output := written, done := handed = out.size },
        { core, held := Held.keepPart joined pos, out, handed })

def engine : NativeDecoder := { State := Decoder, fresh := {}, run := decode }

end Decoder

end StreamCodec.Brotli
