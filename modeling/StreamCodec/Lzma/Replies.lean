import StreamCodec.Lzma.Model

/-!
The answers that tell a symbol, in the order in which a reader asks for them.
-/

namespace StreamCodec.Lzma

inductive Reply where
  | asked (slot : Nat) (bit : Bool)
  | even (bit : Bool)
deriving DecidableEq, Repr

namespace Reply

def bitOf (value n : Nat) : Bool := value >>> n % 2 = 1

def direct (value : Nat) : (n : Nat) → List Reply
  | 0 => []
  | n + 1 => even (bitOf value n) :: direct value n

def tree (base value : Nat) : (n node : Nat) → List Reply
  | 0, _ => []
  | n + 1, node =>
    let b := bitOf value n
    asked (base + node) b :: tree base value n (2 * node + b.toNat)

def reversed (base : Nat) : (n node value : Nat) → List Reply
  | 0, _, _ => []
  | n + 1, node, value =>
    let b := bitOf value 0
    asked (base + node) b :: reversed base n (2 * node + b.toNat) (value / 2)

def length (repeated : Bool) (place n : Nat) : List Reply :=
  let base := Slot.length repeated
  if n < 10 then asked base false :: tree (base + 2 + 8 * place) (n - 2) 3 1
  else if n < 18 then
    asked base true :: asked (base + 1) false :: tree (base + 130 + 8 * place) (n - 10) 3 1
  else asked base true :: asked (base + 1) true :: tree (base + 258) (n - 18) 8 1

def distance (length d : Nat) : List Reply :=
  let slots (slot : Nat) := tree (Slot.distanceSlot (lengthClass length)) slot 6 1
  if d < 4 then slots d
  else
    let n := d.log2 - 1
    let slot := 2 * (n + 1) + (bitOf d n).toNat
    let base := (2 + slot % 2) <<< n
    if slot < 14 then slots slot ++ reversed (Slot.distanceLow + base - slot - 1) n 1 (d - base)
    else slots slot ++ direct ((d - base) / 16) (n - 4) ++ reversed Slot.distanceAlign 4 1 (d % 16)

def facingBits (base facing value : Nat) : (n node : Nat) → (agree : Bool) → List Reply
  | 0, _, _ => []
  | n + 1, node, agree =>
    let f := bitOf facing n
    let b := bitOf value n
    asked (base + node + if agree then 256 * (1 + f.toNat) else 0) b
      :: facingBits base facing value n (2 * node + b.toNat) (agree && b = f)

end Reply

def Symbol.replies (m : Model) (s : Surroundings) (symbol : Symbol) : List Reply :=
  let state := m.state
  let place := m.placeClass s
  let repeats (rest : List Reply) :=
    .asked (Slot.isMatch state place) true :: .asked (Slot.isRep state) true :: rest
  let older (age : Nat) (bit : Bool) := Reply.asked (Slot.isOlder age state) bit
  match symbol with
  | literal x =>
    .asked (Slot.isMatch state place) false
      :: Reply.facingBits (Slot.literal (m.literalTable s)) s.facing.toNat x.toNat 8 1 (7 ≤ state)
  | new d n =>
    .asked (Slot.isMatch state place) true :: .asked (Slot.isRep state) false
      :: (Reply.length false place n ++ Reply.distance n d)
  | single => repeats [older 0 false, .asked (Slot.isLong state place) false]
  | again 0 n =>
    repeats (older 0 false :: .asked (Slot.isLong state place) true :: Reply.length true place n)
  | again 1 n => repeats (older 0 true :: older 1 false :: Reply.length true place n)
  | again 2 n =>
    repeats (older 0 true :: older 1 true :: older 2 false :: Reply.length true place n)
  | again _ n => repeats (older 0 true :: older 1 true :: older 2 true :: Reply.length true place n)

end StreamCodec.Lzma
