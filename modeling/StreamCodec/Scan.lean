import StreamCodec.Bits

/-!
Scanners over input that may not have arrived in full. A scanner reads from a bit
position on and answers with a value and the position behind it, with `short` when
the bytes run out first, or with a verdict that no further byte can change.
-/

namespace StreamCodec

inductive Scanned (ε α : Type) where
  | value (a : α) (pos : Nat)
  | short
  | bad (e : ε)

def Scan (ε α : Type) := (bytes : ByteArray) → (pos : Nat) → Scanned ε α

namespace Scan

variable {ε α β : Type}

@[inline] def pure (a : α) : Scan ε α := fun _ p => .value a p

@[inline] def bind (x : Scan ε α) (f : α → Scan ε β) : Scan ε β := fun b p =>
  match x b p with
  | .value a q => f a b q
  | .short => .short
  | .bad e => .bad e

@[inline] instance : Monad (Scan ε) where
  pure := pure
  bind := bind

@[inline] def fail (e : ε) : Scan ε α := fun _ _ => .bad e

@[inline] def guard (c : Bool) (e : ε) : Scan ε Unit := if c then pure () else fail e

@[inline] def bit : Scan ε Nat := fun b p =>
  match Bits.low? b p with
  | some x => .value x (p + 1)
  | none => .short

@[inline] def bits (n : Nat) : Scan ε Nat := fun b p =>
  match Bits.takeLow? b p n with
  | some x => .value x (p + n)
  | none => .short

@[inline] def highBits (n : Nat) : Scan ε Nat := fun b p =>
  match Bits.takeHigh? b p n with
  | some x => .value x (p + n)
  | none => .short

@[inline] def highBit : Scan ε Nat := fun b p =>
  match Bits.high? b p with
  | some x => .value x (p + 1)
  | none => .short

@[inline] def position : Scan ε Nat := fun _ p => .value p p

/-- Skips to the next byte boundary and answers with the bits passed over. -/
def align : Scan ε Nat := fun b p => bits (Bits.align p - p) b p

def bytes (n : Nat) : Scan ε ByteArray := fun b p =>
  if p / 8 + n ≤ b.size then .value (b.extract (p / 8) (p / 8 + n)) (p + 8 * n) else .short

def times (x : Scan ε α) : Nat → Array α → Scan ε (Array α)
  | 0, acc => pure acc
  | n + 1, acc => bind x fun a => times x n (acc.push a)

def ahead : Scan ε Unit := fun b p => if p / 8 < b.size then .value () p else .short

end Scan

end StreamCodec
