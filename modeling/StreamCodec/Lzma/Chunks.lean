import StreamCodec.Bytes
import StreamCodec.Lzma.RangeReader

/-!
LZMA data in chunks. A chunk holds bytes as they are, or symbols in a range code of its
own; its head tells both of its sizes, and may reset the model or the dictionary. Reading
goes on while there is input, also without room, up to the point where a byte has to be
written.
-/

namespace StreamCodec.Lzma

inductive Stage where
  | control
  | head (control : Nat)
  | opening (left size : Nat)
  | symbols (r : Range) (left size : Nat)
  | copying (r : Range) (left size : Nat) (n distance : Nat)
  | plain (left : Nat)
  | ended

structure Chunks where
  stage : Stage := .control
  model : Model := Model.start {}
  origin : Nat := 0
  needsDictionary : Bool := true
  needsProps : Bool := true

inductive Halt where
  | short
  | full
  | ended
  | bad
deriving DecidableEq, Repr

namespace Chunks

def dictionarySize (n : Nat) : Nat := (max n 4096 + 15) / 16 * 16

/-- Whether there is a byte at a distance, less one. -/
def reaches (c : Chunks) (dictionary : Nat) (out : ByteArray) (distance : Nat) : Bool :=
  distance < min (out.size - c.origin) (dictionarySize dictionary)

def byteAt (out : ByteArray) (origin distance : Nat) : UInt8 :=
  if distance < out.size - origin then out[out.size - 1 - distance]?.getD 0 else 0

def surroundings (c : Chunks) (out : ByteArray) : Surroundings where
  place := out.size - c.origin
  before := byteAt out c.origin 0
  facing := byteAt out c.origin c.model.rep0

/-- What the first byte of a chunk asks for: `none` when it must not stand here. A reset of the
dictionary is done at once. -/
def control (c : Chunks) (out : ByteArray) (b : Nat) : Option Chunks :=
  let resets : Bool := 0xe0 ≤ b || b = 1
  let c := if resets then { c with needsProps := true, needsDictionary := true } else c
  if c.needsDictionary && !resets then none
  else if 2 < b ∧ b < 0x80 then none
  else if 0x80 ≤ b ∧ b < 0xc0 ∧ c.needsProps then none
  else
    let c := if 0xc0 ≤ b then { c with needsProps := false } else c
    let c := if 0xa0 ≤ b ∧ b < 0xc0 then { c with model := Model.start c.model.props } else c
    let c := if resets then { c with origin := out.size, needsDictionary := false } else c
    some { c with stage := .head b }

def byte (input : ByteArray) (i : Nat) : Nat := (input[i]?.getD 0).toNat

def pair (input : ByteArray) (i : Nat) : Nat := 256 * byte input i + byte input (i + 1)

def head (c : Chunks) (b : Nat) (input : ByteArray) (pos stop : Nat) : Except Halt (Chunks × Nat) :=
  if b < 0x80 then
    if stop < pos + 2 then .error .short
    else .ok ({ c with stage := .plain (pair input pos + 1) }, 2)
  else if stop < pos + 4 then .error .short
  else
    let left := b % 32 * 65536 + pair input pos + 1
    let stage := Stage.opening left (pair input (pos + 2) + 1)
    if b < 0xc0 then .ok ({ c with stage }, 4)
    else if stop < pos + 5 then .error .short
    else
      match Props.ofByte? (byte input (pos + 4)) with
      | none => .error .bad
      | some p => .ok ({ c with stage, model := Model.start p }, 5)

def openRange (input : ByteArray) (pos stop : Nat) : Except Halt Range :=
  if stop ≤ pos then .error .short
  else if byte input pos ≠ 0 then .error .bad
  else if stop < pos + 5 then .error .short
  else
    let code := 65536 * pair input (pos + 1) + pair input (pos + 3)
    .ok { range := 0xffffffff, code := code.toUInt32, pos := pos + 5 }

/-- Ends the run short of input, unless the chunk has fewer bytes than there are. -/
def shortOf (pos stop size : Nat) : Halt := if size < stop - pos then .bad else .short

abbrev Ran := Chunks × Nat × ByteArray × Halt

/-- Reads until input or room runs out; input ends at `stop`, and the output may grow to `limit`. -/
def run (input : ByteArray) (stop limit dictionary : Nat) :
    (fuel : Nat) → Chunks → (pos : Nat) → ByteArray → Ran
  | 0, c, pos, out => (c, pos, out, .short)
  | fuel + 1, c, pos, out =>
    match c.stage with
    | .ended => (c, pos, out, .ended)
    | .control =>
      if stop ≤ pos then (c, pos, out, .short)
      else
        let b := byte input pos
        if b = 0 then ({ c with stage := .ended }, pos + 1, out, .ended)
        else
          match c.control out b with
          | none => (c, pos, out, .bad)
          | some c' =>
            let resets : Bool := 0xe0 ≤ b || b = 1
            if resets && limit ≤ out.size then (c', pos + 1, out, .full)
            else run input stop limit dictionary fuel c' (pos + 1) out
    | .head b =>
      match c.head b input pos stop with
      | .error h => (c, pos, out, h)
      | .ok (c, n) => run input stop limit dictionary fuel c (pos + n) out
    | .opening left size =>
      match openRange input pos stop with
      | .error .bad => (c, pos, out, .bad)
      | .error _ => (c, pos, out, shortOf pos stop size)
      | .ok r =>
        if size < 5 then (c, pos, out, .bad)
        else run input stop limit dictionary fuel
          { c with stage := .symbols r left (size - 5) } r.pos out
    | .symbols r left size =>
      let r := { r with pos }
      if left = 0 ∨ limit ≤ out.size then
        match r.widen input stop with
        | none => (c, pos, out, shortOf pos stop size)
        | some r' =>
          let used := r'.pos - pos
          if size < used then (c, pos, out, .bad)
          else if left ≠ 0 then
            ({ c with stage := .symbols r' left (size - used) }, r'.pos, out, .full)
          else if r'.code ≠ 0 ∨ size ≠ used then (c, pos, out, .bad)
          else run input stop limit dictionary fuel { c with stage := .control } r'.pos out
      else
        match Draw.symbol c.model (c.surroundings out) c.model.odds input stop r [] with
        | .short => (c, pos, out, shortOf pos stop size)
        | .bad => (c, pos, out, .bad)
        | .value symbol r' trail =>
          let used := r'.pos - pos
          if size < used then (c, pos, out, .bad)
          else
            let ⟨_, model, origin, needsDictionary, needsProps⟩ := c
            let model := model.after symbol trail
            let size := size - used
            let go (stage : Stage) (out : ByteArray) : Ran :=
              run input stop limit dictionary fuel
                { stage, model, origin, needsDictionary, needsProps } r'.pos out
            match symbol with
            | .literal x => go (.symbols r' (left - 1) size) (out.push x)
            | .single => go (.symbols r' (left - 1) size) (out.push (byteAt out origin model.rep0))
            | .new _ n | .again _ n => go (.copying r' left size n model.rep0) out
    | .copying r left size n distance =>
      if !c.reaches dictionary out distance then (c, pos, out, .bad)
      else
        let k := min n (min left (limit - out.size))
        let out := Bytes.copyBack out (distance + 1) k
        if k = n then
          run input stop limit dictionary fuel
            { c with stage := .symbols r (left - k) size } pos out
        else if k = left then (c, pos, out, .bad)
        else ({ c with stage := .copying r (left - k) size (n - k) distance }, pos, out, .full)
    | .plain left =>
      if stop ≤ pos then (c, pos, out, .short)
      else
        let k := min left (min (stop - pos) (limit - out.size))
        let out := out ++ input.extract pos (pos + k)
        if k = left then
          run input stop limit dictionary fuel { c with stage := .control } (pos + k) out
        else
          ({ c with stage := .plain (left - k) }, pos + k, out, if pos + k < stop then .full
            else .short)

end Chunks

end StreamCodec.Lzma
