import StreamCodec.Bzip2.Block
import StreamCodec.Bzip2.Runs
import StreamCodec.Stream.Native
import StreamCodec.Stream.Held

/-!
The bzip2 decoder. A block is read whole before its first byte is handed out. With the
last byte of a block its checksum is judged, and reading goes on at once.
-/

namespace StreamCodec.Bzip2

inductive Phase where
  | start
  | opening
  | choices (h : Head) (left : Nat) (recent acc : List Nat)
  | codes (h : Head) (choices : Array Nat) (left : Nat) (acc : Array Huffman)
  | symbols (h : Head) (c : Codes) (s : Symbols)
  | output (crc : UInt32) (r : Runs)
  | ended

/-- What a decoder that has failed answers with: the same verdict again, or that there is nothing to
call for, since the stream had come to its end. -/
inductive Refusal where
  | verdict (e : Fault)
  | misuse

structure Decoder where
  phase : Phase := .start
  held : Held := {}
  limit : Nat := 0
  combined : UInt32 := 0
  refusal : Option Refusal := none

namespace Decoder

def rejection : Fault → StreamCodec.Refusal
  | .magic => .data "bzip2: bz2 header missing"
  | .data => .data "bzip2: invalid data"

inductive Halt where
  | short
  | full
  | ended
  | bad (refusal : Refusal) (e : Fault)

structure Ran where
  phase : Phase
  limit : Nat
  combined : UInt32
  pos : Nat
  out : ByteArray
  halt : Halt

/-- Reads and hands out until the input or the room runs out; `fuel` bounds the number of items. -/
def items (input : ByteArray) (room : Nat) :
    (fuel : Nat) → Phase → (limit : Nat) → (combined : UInt32) → (pos : Nat) → ByteArray → Ran
  | 0, phase, limit, combined, pos, out => { phase, limit, combined, pos, out, halt := .short }
  | fuel + 1, phase, limit, combined, pos, out =>
    let stop (phase : Phase) (pos : Nat) (out : ByteArray) (halt : Halt) : Ran :=
      { phase, limit, combined, pos, out, halt }
    let bad (e : Fault) : Ran := stop .ended pos ByteArray.empty (.bad (.verdict e) e)
    match phase with
    | .start =>
      match readStart input pos with
      | .short => stop .start pos out .short
      | .bad e => bad e
      | .value level q => items input room fuel .opening (100000 * level) combined q out
    | .opening =>
      match readOpening limit input pos with
      | .short => stop .opening pos out .short
      | .bad e => bad e
      | .value (.block h) q =>
        items input room fuel (.choices h h.choices (List.range h.codes) []) limit combined q out
      | .value (.footer crc) q =>
        if crc = combined then stop .ended q out .ended
        else stop .ended q ByteArray.empty (.bad .misuse .data)
    | .choices h 0 _ acc =>
      let choices := (acc.reverse.take maxChoices).toArray
      items input room fuel (.codes h choices h.codes #[]) limit combined pos out
    | .choices h (left + 1) recent acc =>
      match readUnary h.codes 0 input pos with
      | .short => stop (.choices h (left + 1) recent acc) pos out .short
      | .bad e => bad e
      | .value i q =>
        let (c, recent) := moveToFront recent i 0
        items input room fuel (.choices h left recent (c :: acc)) limit combined q out
    | .codes h choices 0 acc =>
      let s : Symbols := { recent := h.bytes.toList }
      items input room fuel (.symbols h { codes := acc, choices } s) limit combined pos out
    | .codes h choices (left + 1) acc =>
      match Code.read h.alphabet input pos with
      | .short => stop (.codes h choices (left + 1) acc) pos out .short
      | .bad e => bad e
      | .value c q =>
        items input room fuel (.codes h choices left (acc.push c)) limit combined q out
    | .symbols h c s =>
      match Symbols.read c limit h.ending input (16 * input.size + 16) s pos with
      | (.short s, q) => stop (.symbols h c s) q out .short
      | (.bad, _) => bad .data
      | (.complete column, q) =>
        if column.size ≤ h.origin then bad .data
        else
          items input room fuel (.output h.crc (Runs.start column h.origin h.disturbed)) limit
            combined q out
    | .output crc r =>
      match r.emit (room + 2) (room - out.size) out with
      | none => bad .data
      | some (r, out) =>
        if !r.done then stop (.output crc r) pos out .full
        else if r.checksum = crc then
          items input room fuel .opening limit (Crc32High.combine combined crc) pos out
        else bad .data
    | .ended => stop .ended pos out .ended

def decode (s : Decoder) (input : Slice) (room : Nat) : Answer × Decoder :=
  match s.refusal with
  | some (.verdict e) => (.error (rejection e), s)
  | some .misuse => (.error (.sequence "bzip2: sequence of operations invalid"), s)
  | none =>
    let ⟨phase, held, limit, combined, _⟩ := s
    let (joined, pos) := held.join input
    let ⟨phase, limit, combined, pos, out, halt⟩ :=
      items joined room (8 * joined.size + 16) phase limit combined pos ByteArray.empty
    match halt with
    | .short =>
      (.ok (.progress input.size out), { phase, limit, combined, held := Held.keepAll joined pos })
    | .full =>
      (.ok (.progress (held.takenTo pos) out),
        { phase, limit, combined, held := Held.keepPart joined pos })
    | .ended =>
      (.ok (.ended (held.takenTo pos) out),
        { phase, limit, combined, held := Held.keepPart joined pos })
    | .bad refusal e => (.error (rejection e), { refusal })

def engine : NativeDecoder := { State := Decoder, fresh := {}, run := decode }

end Decoder

end StreamCodec.Bzip2
