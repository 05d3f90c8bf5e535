import StreamCodec.Bytes
import StreamCodec.Error

/-!
The one span of input that a session may hold. New input is accepted only once the
earlier span is used up; until then the unread rest is offered again.
-/

namespace StreamCodec

structure Pending where
  bytes : ByteArray
  used : Nat
  used_le : used ≤ bytes.size

namespace Pending

def empty : Pending := { bytes := ByteArray.empty, used := 0, used_le := Nat.zero_le _ }

instance : Inhabited Pending := ⟨empty⟩

def remaining (p : Pending) : Slice := { bytes := p.bytes, start := p.used }

def unread (p : Pending) : Nat := p.bytes.size - p.used

/-- Takes `input` as the new span; empty input changes nothing. -/
def accept (p : Pending) (codec : Codec) (input : ByteArray) : Outcome Pending :=
  if input.size = 0 then .ok p
  else if p.used = p.bytes.size then .ok { bytes := input, used := 0, used_le := Nat.zero_le _ }
  else .trap (.inputPending codec p.unread)

/-- Moves the cursor over `n` more bytes, which must have been offered. -/
def advance (p : Pending) (n : Nat) : Outcome Pending :=
  if h : n ≤ p.unread then
    .ok
      { p with
        used := p.used + n
        used_le := by have := p.used_le; simp only [unread] at h; omega }
  else .trap (.overConsumed n p.unread)

@[simp] theorem size_remaining (p : Pending) : p.remaining.size = p.unread := rfl

theorem unread_advance {p q : Pending} {n : Nat} (h : p.advance n = .ok q) :
    n ≤ p.unread ∧ q.bytes = p.bytes ∧ q.used = p.used + n := by
  unfold advance at h
  split at h
  · next hn => cases h; exact ⟨hn, rfl, rfl⟩
  · cases h

end Pending

end StreamCodec
