import StreamCodec.Bytes
import StreamCodec.Error

/-!
What a session asks of an engine. An engine is a state machine with one or two step
functions: offered some input and some room, a step says how much of the input it
took, which bytes it wrote, and whether the stream has ended.
-/

namespace StreamCodec

structure Step where
  consumed : Nat
  output : ByteArray
  done : Bool

namespace Step

def idle : Step := { consumed := 0, output := ByteArray.empty, done := false }

def progress (consumed : Nat) (output : ByteArray) : Step := { consumed, output, done := false }

def ended (consumed : Nat) (output : ByteArray) : Step := { consumed, output, done := true }

def isIdle (s : Step) : Bool := s.consumed = 0 && s.output.size = 0

theorem isIdle_iff {s : Step} : s.isIdle = true ↔ s.consumed = 0 ∧ s.output.size = 0 := by
  rw [isIdle, Bool.and_eq_true, decide_eq_true_eq, decide_eq_true_eq]

theorem isIdle_eq_false {s : Step} : s.isIdle = false ↔ 0 < s.consumed ∨ 0 < s.output.size := by
  rw [isIdle, Bool.and_eq_false_iff, decide_eq_false_iff_not, decide_eq_false_iff_not]
  omega

/-- The counts of a step stay within what was offered. -/
def Within (s : Step) (offered room : Nat) : Prop := s.consumed ≤ offered ∧ s.output.size ≤ room

end Step

/-- An encoder as a state machine over `σ`. A `finish` step takes the rest of the
input and then ends the stream; it is done once the last byte has been written. -/
structure EncodeEngine (σ : Type) where
  codec : Codec
  encode : σ → (input : Slice) → (room : Nat) → Outcome Step × σ
  finish : σ → (input : Slice) → (room : Nat) → Outcome Step × σ

/-- A decoder as a state machine over `σ`. A step is done once the end of the stream
has been read and checked. -/
structure DecodeEngine (σ : Type) where
  codec : Codec
  decode : σ → (input : Slice) → (room : Nat) → Outcome Step × σ

def EncodeEngine.StaysWithin {σ : Type} (E : EncodeEngine σ) : Prop :=
  ∀ s input room step s',
    (E.encode s input room = (.ok step, s') ∨ E.finish s input room = (.ok step, s')) →
    step.Within input.size room

def DecodeEngine.StaysWithin {σ : Type} (E : DecodeEngine σ) : Prop :=
  ∀ s input room step s', E.decode s input room = (.ok step, s') → step.Within input.size room

end StreamCodec
