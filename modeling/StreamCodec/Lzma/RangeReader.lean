import StreamCodec.Lzma.Model

/-!
Reading answers from a range code. A reader looks the odds up and does not change them;
the answers that it got are kept as a trail. So a symbol whose last bytes have not arrived
leaves nothing behind, and is read again when they have.
-/

namespace StreamCodec.Lzma

structure Range where
  range : UInt32
  code : UInt32
  pos : Nat

namespace Range

def least : UInt32 := 0x1000000

/-- Takes a byte if the range has become small; `none` when there is no byte before `stop`. -/
def widen (r : Range) (input : ByteArray) (stop : Nat) : Option Range :=
  if r.range < least then
    if r.pos < stop then
      some
        { range := r.range <<< 8
          code := (r.code <<< 8) ||| (input[r.pos]?.getD 0).toUInt32
          pos := r.pos + 1 }
    else none
  else some r

end Range

inductive Drawn (α : Type) where
  | value (a : α) (r : Range) (trail : Trail)
  | short
  | bad

/-- A reader of answers, from the bytes before `stop`. -/
def Draw (α : Type) :=
  (odds : Array Odds) → (input : ByteArray) → (stop : Nat) → Range → Trail → Drawn α

namespace Draw

variable {α β : Type}

@[inline] def pure (a : α) : Draw α := fun _ _ _ r t => .value a r t

@[inline] def bind (x : Draw α) (f : α → Draw β) : Draw β := fun o i s r t =>
  match x o i s r t with
  | .value a r t => f a o i s r t
  | .short => .short
  | .bad => .bad

@[inline] instance : Monad Draw where
  pure := pure
  bind := bind

def fail : Draw α := fun _ _ _ _ _ => .bad

def answer (slot : Nat) : Draw Bool := fun odds input stop r trail =>
  match r.widen input stop with
  | none => .short
  | some ⟨range, code, pos⟩ =>
    let bound := (range >>> 11) * (odds.getD slot 1024).toUInt32
    if code < bound then .value false { range := bound, code, pos } ((slot, false) :: trail)
    else .value true { range := range - bound, code := code - bound, pos } ((slot, true) :: trail)

def direct : (n acc : Nat) → Draw Nat
  | 0, acc => pure acc
  | n + 1, acc => fun odds input stop r trail =>
    match r.widen input stop with
    | none => .short
    | some ⟨range, code, pos⟩ =>
      let range := range >>> 1
      let rest := code - range
      if rest >>> 31 = 1 then direct n (2 * acc) odds input stop { range, code, pos } trail
      else direct n (2 * acc + 1) odds input stop { range, code := rest, pos } trail

/-- `n` bits, the highest first; each question depends on the bits before it, which are in
`node`. -/
def tree (base : Nat) : (n node : Nat) → Draw Nat
  | 0, node => pure node
  | n + 1, node => do
    let b ← answer (base + node)
    tree base n (2 * node + b.toNat)

def number (base n : Nat) : Draw Nat := do return (← tree base n 1) - 1 <<< n

def reversed (base : Nat) : (n node weight acc : Nat) → Draw Nat
  | 0, _, _, acc => pure acc
  | n + 1, node, weight, acc => do
    let b ← answer (base + node)
    reversed base n (2 * node + b.toNat) (2 * weight) (acc + weight * b.toNat)

def length (repeated : Bool) (place : Nat) : Draw Nat := do
  let base := Slot.length repeated
  if !(← answer base) then return 2 + (← number (base + 2 + 8 * place) 3)
  else if !(← answer (base + 1)) then return 10 + (← number (base + 130 + 8 * place) 3)
  else return 18 + (← number (base + 258) 8)

def distance (length : Nat) : Draw Nat := do
  let slot ← number (Slot.distanceSlot (lengthClass length)) 6
  if slot < 4 then return slot
  else
    let n := slot / 2 - 1
    let base := (2 + slot % 2) <<< n
    if slot < 14 then reversed (Slot.distanceLow + base - slot - 1) n 1 1 base
    else
      let high ← direct (n - 4) (2 + slot % 2)
      reversed Slot.distanceAlign 4 1 1 (16 * high)

/-- The bits of a literal, the highest first; as long as they agree with those of the byte `facing`,
questions depend on its next bit too. -/
def facingBits (base : Nat) (facing : Nat) : (n node : Nat) → (agree : Bool) → Draw Nat
  | 0, node, _ => pure node
  | n + 1, node, agree => do
    let f := facing >>> n % 2
    let b ← answer (base + node + if agree then 256 * (1 + f) else 0)
    facingBits base facing n (2 * node + b.toNat) (agree && b.toNat = f)

def symbol (m : Model) (s : Surroundings) : Draw Symbol := do
  let state := m.state
  let place := m.placeClass s
  if !(← answer (Slot.isMatch state place)) then
    let base := Slot.literal (m.literalTable s)
    let node ← facingBits base s.facing.toNat 8 1 (7 ≤ state)
    return .literal node.toUInt8
  else if !(← answer (Slot.isRep state)) then
    let n ← length false place
    return .new (← distance n) n
  else if s.place = 0 then fail
  else if !(← answer (Slot.isOlder 0 state)) then
    if !(← answer (Slot.isLong state place)) then return .single
    else return .again 0 (← length true place)
  else if !(← answer (Slot.isOlder 1 state)) then return .again 1 (← length true place)
  else if !(← answer (Slot.isOlder 2 state)) then return .again 2 (← length true place)
  else return .again 3 (← length true place)

end Draw

end StreamCodec.Lzma
