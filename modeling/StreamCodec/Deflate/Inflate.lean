import StreamCodec.Bytes
import StreamCodec.Checksum.Adler32
import StreamCodec.Deflate.Block

/-!
Inflation as a resumable machine. It reads whole items, a header or a token, from input
that grows; an item whose bytes have not all arrived is read again from its start. Output
goes to a window of 32 KiB that starts out as zeros, so a copy may reach back before the
first byte. A run stops where the output reaches a multiple of the window size.
-/

namespace StreamCodec.Deflate

def windowSize : Nat := 32768

/-- Where reading goes on. A literal or a copy that was read waits for room. -/
inductive Phase where
  | frame
  | block
  | stored (left : Nat)
  | tokens (codes : Codes)
  | literal (x : UInt8) (codes : Codes)
  | copy (length distance : Nat) (codes : Codes)
  | check
  | ended

structure Inflate where
  framed : Bool
  phase : Phase
  last : Bool := false
  recent : ByteArray := ByteArray.empty
  total : Nat := 0
  sum : Adler32 := {}

namespace Inflate

def start (framed : Bool) : Inflate := { framed, phase := if framed then .frame else .block }

inductive Pause where
  | short | bad | endOfBlock
  | literal (x : UInt8)
  | copy (length distance : Nat)

/-- Reads tokens while there is room for what they stand for; every token has at least one bit, so
`fuel` bounds their number by the bits there are. -/
def tokens (codes : Codes) (input : ByteArray) :
    (fuel pos room : Nat) → ByteArray → Nat × ByteArray × Pause
  | 0, pos, _, out => (pos, out, .short)
  | fuel + 1, pos, room, out =>
    match codes.token input pos with
    | .short => (pos, out, .short)
    | .bad _ => (pos, out, .bad)
    | .value .endOfBlock q => (q, out, .endOfBlock)
    | .value (.literal x) q =>
      if room = 0 then (q, out, .literal x) else tokens codes input fuel q (room - 1) (out.push x)
    | .value (.copy length distance) q =>
      let n := min length room
      let out := Bytes.copyBack out distance n
      if n < length then (q, out, .copy (length - n) distance)
      else tokens codes input fuel q (room - n) out

inductive Halt where
  | short
  | full
  | ended
  | bad
deriving DecidableEq, Repr

structure Run where
  phase : Phase
  last : Bool
  pos : Nat
  out : ByteArray
  halt : Halt

/-- A zlib header names method 8 and a window of at most 32 KiB, asks for no dictionary, and is a
multiple of 31. -/
def frameAccepted (cmf flags : Nat) : Bool :=
  (256 * cmf + flags) % 31 = 0 && flags / 32 % 2 = 0 && cmf % 16 = 8 && cmf / 16 ≤ 7

def afterBlock (framed last : Bool) : Phase :=
  if last then if framed then .check else .ended else .block

/-- Reads item after item; `fuel` bounds their number. `room` is what is left of the window when
`out` has `full - room` bytes, and `sum` is the checksum of the output in front of position
`base`. -/
def items (framed : Bool) (base : Nat) (sum : Adler32) (input : ByteArray) :
    (fuel : Nat) → (full : Nat) → Phase → (last : Bool) → (pos : Nat) → ByteArray → Run
  | 0, _, phase, last, pos, out => { phase, last, pos, out, halt := .short }
  | fuel + 1, full, phase, last, pos, out =>
    let go := items framed base sum input fuel full
    let stop (phase : Phase) (pos : Nat) (out : ByteArray) (halt : Halt) : Run :=
      { phase, last, pos, out, halt }
    let room := full - out.size
    match phase with
    | .frame =>
      match Bits.takeLow? input pos 8, Bits.takeLow? input (pos + 8) 8 with
      | some cmf, some flags =>
        if frameAccepted cmf flags then go .block last (pos + 16) out else stop .frame pos out .bad
      | _, _ => stop .frame pos out .short
    | .block =>
      match BlockHeader.read input pos with
      | .short => stop .block pos out .short
      | .bad _ => stop .block pos out .bad
      | .value h q =>
        match h.body with
        | .stored n => go (.stored n) h.last q out
        | .compressed codes => go (.tokens codes) h.last q out
    | .stored left =>
      if left = 0 then go (afterBlock framed last) last pos out
      else if room = 0 then stop phase pos out .full
      else
        let n := min left (min room (input.size - pos / 8))
        if n = 0 then stop phase pos out .short
        else go (.stored (left - n)) last (pos + 8 * n) (input.copySlice (pos / 8) out out.size n)
    | .tokens codes =>
      match tokens codes input (8 * input.size - pos + 1) pos room out with
      | (q, out, .short) => stop (.tokens codes) q out .short
      | (q, out, .bad) => stop (.tokens codes) q out .bad
      | (q, out, .endOfBlock) => go (afterBlock framed last) last q out
      | (q, out, .literal x) => stop (.literal x codes) q out .full
      | (q, out, .copy n d) => stop (.copy n d codes) q out .full
    | .literal x codes =>
      if room = 0 then stop phase pos out .full else go (.tokens codes) last pos (out.push x)
    | .copy length distance codes =>
      let n := min length room
      let out := Bytes.copyBack out distance n
      if n < length then stop (.copy (length - n) distance codes) pos out .full
      else go (.tokens codes) last pos out
    | .check =>
      match Bits.takeLow? input (Bits.align pos) 32 with
      | none => stop .check pos out .short
      | some stored =>
        let value := (sum.update (out.extract base out.size)).value
        let swapped := Bytes.ofLittleEndian (Bytes.bigEndian 4 value)
        if stored = swapped then go .ended last (Bits.align pos + 32) out
        else stop .check pos out .bad
    | .ended => stop .ended (Bits.align pos) out .ended

def trim (recent : ByteArray) : ByteArray :=
  if 2 * windowSize < recent.size then recent.extract (recent.size - windowSize) recent.size
  else recent

/-- Reads from bit `pos` of `input` on, to the end of the window at most. Answers with the new
state, the position reached, the new output and why it stopped. -/
def run (s : Inflate) (input : ByteArray) (pos : Nat) : Inflate × Nat × ByteArray × Halt :=
  let ⟨framed, phase, last, recent, total, sum⟩ := s
  let base := recent.size
  let full := base + (windowSize - total % windowSize)
  let r := items framed base sum input (8 * input.size + 8) full phase last pos recent
  let written := r.out.extract base r.out.size
  ({ framed, phase := r.phase, last := r.last, recent := trim r.out, total := total + written.size,
     sum := if framed then sum.update written else sum },
    r.pos, written, r.halt)

end Inflate

end StreamCodec.Deflate
