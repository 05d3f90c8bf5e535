import StreamCodec.Stream.Native
import StreamCodec.Stream.Held
import StreamCodec.Xz.Header

/-!
The xz decoder. It reads on as long as there is input, whether there is room or not, up to
the point where a byte has to be written. A decoder that has rejected its input is not
called again.
-/

namespace StreamCodec.Xz

/-- A block as it is read: `read` counts the bytes behind the header, `handed` those handed out, and
`ready` is what has come out of the filters and found no room. -/
structure Block where
  header : BlockHeader
  chunks : Lzma.Chunks := {}
  raw : ByteArray := ByteArray.empty
  filters : List Filter
  ready : ByteArray := ByteArray.empty
  check : Check
  read : Nat := 0
  handed : Nat := 0

namespace Block

def start (header : BlockHeader) (id : Nat) : Block :=
  { header, filters := header.filters, check := Check.ofId id }

/-- More than all filters of a chain may keep waiting. -/
def slack (filters : List Filter) : Nat :=
  if filters.any fun f => match f with | .branch _ => true | .delta .. => false then 64 else 0

structure Passed where
  block : Block
  pos : Nat
  out : ByteArray
  halt : Lzma.Halt

def sizesAgree (h : BlockHeader) (read handed : Nat) : Bool :=
  !h.compressed.any (· ≠ read) && !h.uncompressed.any (· ≠ handed)

/-- Reads from position `pos` on and hands out `room` bytes at most. A size that the header names is
used up only when the block ends there. -/
def pass (b : Block) (input : ByteArray) (pos room : Nat) : Except Fault Passed :=
  let ⟨header, chunks, raw, filters, ready, check, read, handed⟩ := b
  let stop := match header.compressed with
    | some n => min input.size (pos + (n - read))
    | none => input.size
  let allowed := match header.uncompressed with
    | some n => min room (n - handed)
    | none => room
  let old := raw.size
  let limit := handed + allowed + slack filters
  let fuel := 3 * (limit - old) + 8 * (stop - pos) + 16
  let (chunks, pos', raw, halt) := chunks.run input stop limit header.dictionary fuel pos raw
  let more := raw.extract old raw.size
  let (filters, more) :=
    if halt = .ended then ([], Filter.flushAll filters more) else Filter.pushAll filters more
  let ready := ready ++ more
  let out := ready.extract 0 allowed
  let ready := ready.extract out.size ready.size
  let reached := if halt = .short then stop else pos'
  let complete : Bool := halt = .ended && ready.isEmpty
  let readAll : Bool := header.compressed == some (read + (reached - pos))
  let handedAll : Bool := header.uncompressed == some (handed + out.size)
  let read := read + (pos' - pos)
  let handed := handed + out.size
  if halt = .bad then .error .data
  else if complete && !sizesAgree header read handed then .error .data
  else if !complete &&
      (readAll && (handedAll || out.size < room) || handedAll && reached < input.size) then
    .error .data
  else
    .ok {
      block := { header, chunks, raw, filters, ready, check := check.update out, read, handed }
      pos := pos', out
      halt := if halt = .ended && !complete then .full else halt }

def readEnd (id read : Nat) (check : Check) : Scan Fault Unit := do
  zeros .data ((4 - read % 4) % 4)
  Scan.guard (check.agrees (← Scan.bytes (Check.size id))) .data

end Block

inductive Phase where
  | start
  | between
  | block (b : Block)
  | behind (read : Nat) (check : Check) (r : Record)
  | index
  | footer (size : Nat)
  | ended

structure Decoder where
  phase : Phase := .start
  held : Held := {}
  id : Nat := 0
  records : List Record := []
  failed : Bool := false

namespace Decoder

def rejection : Fault → Refusal
  | .format => .data "stream/file format not recognized"
  | .options => .data "invalid options"
  | .data => .data "lzma data error"

inductive Halt where
  | short
  | full
  | ended
  | bad (e : Fault)

structure Ran where
  phase : Phase
  id : Nat
  records : List Record
  pos : Nat
  out : ByteArray
  halt : Halt

/-- Reads and hands out until the input or the room runs out; `fuel` bounds the number of parts. -/
def parts (input : ByteArray) (room : Nat) :
    (fuel : Nat) → Phase → (id : Nat) → List Record → (pos : Nat) → ByteArray → Ran
  | 0, phase, id, records, pos, out => { phase, id, records, pos, out, halt := .short }
  | fuel + 1, phase, id, records, pos, out =>
    let stop (phase : Phase) (pos : Nat) (out : ByteArray) (halt : Halt) : Ran :=
      { phase, id, records, pos, out, halt }
    let bad (e : Fault) : Ran := stop .ended pos ByteArray.empty (.bad e)
    match phase with
    | .start =>
      match readStart input (8 * pos) with
      | .short => stop .start pos out .short
      | .bad e => bad e
      | .value id q => parts input room fuel .between id records (q / 8) out
    | .between =>
      match input[pos]? with
      | none => stop .between pos out .short
      | some 0 => parts input room fuel .index id records pos out
      | some _ =>
        match readBlockHeader (Check.size id) input (8 * pos) with
        | .short => stop .between pos out .short
        | .bad e => bad e
        | .value h q => parts input room fuel (.block (Block.start h id)) id records (q / 8) out
    | .block b =>
      match b.pass input pos (room - out.size) with
      | .error e => bad e
      | .ok p =>
        let ⟨b, pos, more, halt⟩ := p
        let out := out ++ more
        match halt with
        | .ended =>
          let r : Record := (b.header.size + b.read + Check.size id, b.handed)
          parts input room fuel (.behind b.read b.check r) id records pos out
        | .full => stop (.block b) pos out .full
        | _ => stop (.block b) pos out .short
    | .behind read check r =>
      match Block.readEnd id read check input (8 * pos) with
      | .short => stop phase pos out .short
      | .bad e => bad e
      | .value _ q => parts input room fuel .between id (r :: records) (q / 8) out
    | .index =>
      match readIndex records.reverse input (8 * pos) with
      | .short => stop .index pos out .short
      | .bad e => bad e
      | .value size q => parts input room fuel (.footer size) id records (q / 8) out
    | .footer size =>
      match readFooter id size input (8 * pos) with
      | .short => stop phase pos out .short
      | .bad e => bad e
      | .value _ q => stop .ended (q / 8) out .ended
    | .ended => stop .ended pos out .ended

def decode (s : Decoder) (input : Slice) (room : Nat) : Answer × Decoder :=
  if s.failed then (.error (.sequence "liblzma internal error"), s)
  else
    let ⟨phase, held, id, records, _⟩ := s
    let (joined, pos) := held.join input
    let ⟨phase, id, records, pos, out, halt⟩ :=
      parts joined room (2 * joined.size + 16) phase id records (pos / 8) ByteArray.empty
    match halt with
    | .short =>
      (.ok (.progress input.size out),
        { phase, held := Held.keepAll joined (8 * pos), id, records })
    | .full =>
      (.ok (.progress (held.takenTo (8 * pos)) out),
        { phase, held := held.keepTo joined (8 * pos), id, records })
    | .ended =>
      (.ok (.ended (held.takenTo (8 * pos)) out),
        { phase, held := held.keepTo joined (8 * pos), id, records })
    | .bad e => (.error (rejection e), { failed := true })

def engine : NativeDecoder := { State := Decoder, fresh := {}, run := decode }

end Decoder

end StreamCodec.Xz
