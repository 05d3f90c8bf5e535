import StreamCodec.Stream.Native
import StreamCodec.Zstd.Frame

/-!
The Zstandard decoder. It waits for each part of a frame to be complete, except that the
bytes of a raw block are passed on as they come. While output is owed nothing is read. A
frame whose content size is known, and that is offered as a whole with room for all of
it, is decoded in one go. A rejected stream stays rejected.
-/

namespace StreamCodec.Zstd

inductive Stage where
  | header (seen : ByteArray)
  | blockHeader (seen : ByteArray)
  | body (block : BlockHeader) (seen : ByteArray)
  | rawBody (last : Bool) (left : Nat)
  | checksum (seen : ByteArray)
  | skipping (left : Nat)
  | ended

/-- The state between calls; `hostage` tells that the last byte of the frame is kept back. -/
structure Decoder where
  stage : Stage := .header ByteArray.empty
  frame : FrameHeader :=
    { size := 0, window := 0, contentSize := none, dictionary := 0, checked := false }
  entropy : Entropy := {}
  content : ByteArray := ByteArray.empty
  handed : Nat := 0
  hostage : Bool := false
  fault : Option Fault := none

namespace Decoder

def owed (s : Decoder) : Nat := s.content.size - s.handed

def afterBlock (frame : FrameHeader) (last : Bool) : Stage :=
  if last then if frame.checked then .checksum ByteArray.empty else .ended
  else .blockHeader ByteArray.empty

def sizeAgrees (frame : FrameHeader) (content : ByteArray) (last : Bool) : Bool :=
  !last || !frame.contentSize.any (· ≠ content.size)

def take (input : ByteArray) (seen : ByteArray) (i n : Nat) : ByteArray × Nat :=
  let k := min (n - seen.size) (input.size - i)
  (seen ++ input.extract i (i + k), i + k)

def openFrame (s : Decoder) (h : FrameHeader) : Except Fault Decoder :=
  if h.dictionary ≠ 0 then .error .dictionary
  else if Frame.maxWindow < max h.window 1024 then .error .windowTooLarge
  else .ok { s with stage := .blockHeader ByteArray.empty, frame := h }

def enter (s : Decoder) (b : BlockHeader) : Except Fault Decoder :=
  if s.frame.blockMax < b.bodySize then .error .corrupt
  else if b.bodySize = 0 then .ok { s with stage := afterBlock s.frame b.last }
  else if b.kind = .raw then .ok { s with stage := .rawBody b.last b.size }
  else .ok { s with stage := .body b ByteArray.empty }

def close (s : Decoder) (b : BlockHeader) (body : ByteArray) : Except Fault Decoder :=
  let ⟨_, frame, entropy, content, handed, hostage, fault⟩ := s
  let most := content.size + frame.blockMax
  let decoded : Except Fault (Entropy × ByteArray) :=
    if b.kind = .compressed then Block.decompress entropy body frame.blockMax most content
    else if frame.blockMax < b.size then .error .corrupt
    else .ok (entropy, content ++ Bytes.replicate b.size (body[0]?.getD 0))
  match decoded with
  | .error f => .error f
  | .ok (entropy, content) =>
    if sizeAgrees frame content b.last then
      .ok { stage := afterBlock frame b.last, frame, entropy, content, handed, hostage, fault }
    else .error .corrupt

/-- One move with nothing owed: the state, the position in the input, and whether there is more to
do. -/
def move (s : Decoder) (input : ByteArray) (i : Nat) : Except Fault (Decoder × Nat × Bool) :=
  match s.stage with
  | .header seen => do
    match ← Frame.read seen with
    | .inl (.data h) => return (← s.openFrame h, i, true)
    | .inl (.skippable n) =>
      return ({ s with stage := if n = 0 then .ended else .skipping n }, i, true)
    | .inr n =>
      let (seen, j) := take input seen i n
      if seen.size < n then
        let _ ← Frame.read seen
        return ({ s with stage := .header seen }, j, false)
      else return ({ s with stage := .header seen }, j, true)
  | .blockHeader seen =>
    let (seen, j) := take input seen i 3
    if seen.size < 3 then .ok ({ s with stage := .blockHeader seen }, j, false)
    else do return (← s.enter (← BlockHeader.read seen), j, true)
  | .body b seen =>
    let (seen, j) := take input seen i b.bodySize
    if seen.size < b.bodySize then .ok ({ s with stage := .body b seen }, j, false)
    else do return (← s.close b seen, j, true)
  | .rawBody last left =>
    let k := min left (input.size - i)
    if k = 0 then .ok (s, i, false)
    else
      let ⟨_, frame, entropy, content, handed, hostage, fault⟩ := s
      let content := content ++ input.extract i (i + k)
      if k < left then
        .ok ({ stage := .rawBody last (left - k), frame, entropy, content, handed, hostage, fault },
          i + k, true)
      else if sizeAgrees frame content last then
        .ok ({ stage := afterBlock frame last, frame, entropy, content, handed, hostage, fault },
          i + k, true)
      else .error .corrupt
  | .checksum seen =>
    let (seen, j) := take input seen i 4
    if seen.size < 4 then .ok ({ s with stage := .checksum seen }, j, false)
    else if Bytes.le seen 0 4 = checksumOf s.content then .ok ({ s with stage := .ended }, j, true)
    else .error .checksum
  | .skipping left =>
    let k := min left (input.size - i)
    if k < left then .ok ({ s with stage := .skipping (left - k) }, i + k, false)
    else .ok ({ s with stage := .ended }, i + k, true)
  | .ended => .ok (s, i, false)

/-- Moves on until there is nothing more to do or output is owed that finds no room; `fuel` bounds
the moves. `room` is what is left of the window behind `out`. -/
def moves (input : ByteArray) :
    (fuel : Nat) → Decoder → (i room : Nat) → (out : ByteArray) →
    Except Fault (Decoder × Nat × ByteArray)
  | 0, s, i, _, out => .ok (s, i, out)
  | fuel + 1, s, i, room, out =>
    if s.handed < s.content.size then
      let n := min s.owed room
      let out := out ++ s.content.extract s.handed (s.handed + n)
      let ⟨stage, frame, entropy, content, handed, hostage, fault⟩ := s
      let s : Decoder := { stage, frame, entropy, content, handed := handed + n, hostage, fault }
      if s.handed < s.content.size then .ok (s, i, out) else moves input fuel s i (room - n) out
    else
      match move s input i with
      | .error f => .error f
      | .ok (s, i, more) => if more then moves input fuel s i room out else .ok (s, i, out)

/-- The header of a frame that is offered as a whole, with room for its content, and its length. -/
def whole? (s : Decoder) (input : ByteArray) (room : Nat) : Option (FrameHeader × Nat) :=
  match s.stage with
  | .header seen =>
    if seen.size = 0 then
      match Frame.read input with
      | .ok (.inl (.data h)) =>
        if h.contentSize.any (· ≤ room) then
          (Frame.extent? input h.checked input.size h.size).map fun n => (h, n)
        else none
      | _ => none
    else none
  | _ => none

def rejection (f : Fault) : Refusal := .data f.message

/-- The last byte of a frame without checksum counts as read only when all output is out. -/
def settle (s : Decoder) (consumed offered : Nat) (output : ByteArray) : Step × Decoder :=
  match s.stage with
  | .ended =>
    if s.owed = 0 then
      if s.hostage then
        if consumed < offered then ({ consumed := consumed + 1, output, done := true }, s)
        else ({ consumed, output, done := false }, s)
      else ({ consumed, output, done := true }, s)
    else if s.hostage then ({ consumed, output, done := false }, s)
    else ({ consumed := consumed - 1, output, done := false }, { s with hostage := true })
  | _ => ({ consumed, output, done := false }, s)

def decode (s : Decoder) (input : Slice) (room : Nat) : Answer × Decoder :=
  match s.fault with
  | some f => (.error (rejection f), s)
  | none =>
    let bytes := input.toBytes
    match whole? s bytes room with
    | some (h, n) =>
      match Frame.decodeWhole (bytes.extract 0 n) h room with
      | .error f => (.error (rejection f), { s with fault := some f })
      | .ok content =>
        (.ok (.ended n content),
          { s with stage := .ended, frame := h, handed := content.size, content })
    | none =>
      match moves bytes (2 * bytes.size + 16) s 0 room ByteArray.empty with
      | .error f => (.error (rejection f), { fault := some f })
      | .ok (s, i, out) =>
        let (step, s) := s.settle i bytes.size out
        (.ok step, s)

def engine : NativeDecoder := { State := Decoder, fresh := {}, run := decode }

end Decoder

end StreamCodec.Zstd
