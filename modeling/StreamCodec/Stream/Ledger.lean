import StreamCodec.Stream.Engine
import StreamCodec.Stream.Pending
import StreamCodec.Stats

/-!
The books of a session: the span of input that is being read, and the running totals.
Both move by the counts of each engine step, and only by those of steps that succeed.
-/

namespace StreamCodec

structure Ledger where
  pending : Pending := .empty
  stats : Stats := {}

namespace Ledger

/-- Books one engine step that was offered the unread input and `room` bytes of window. -/
def book (l : Ledger) (step : Step) (room : Nat) : Outcome Ledger :=
  if room < step.output.size then .trap (.overProduced step.output.size room)
  else
    match l.pending.advance step.consumed with
    | .ok pending => .ok { pending, stats := l.stats.record step.consumed step.output.size }
    | .error e => .error e
    | .trap t => .trap t

theorem book_eq_ok {l l' : Ledger} {step : Step} {room : Nat} (h : l.book step room = .ok l') :
    step.output.size ≤ room ∧ step.consumed ≤ l.pending.unread ∧
      l'.pending.unread = l.pending.unread - step.consumed := by
  unfold book at h
  split at h
  · cases h
  · split at h
    · next p hp =>
      cases h
      have ⟨h₁, h₂, h₃⟩ := Pending.unread_advance hp
      refine ⟨by omega, h₁, ?_⟩
      simp only [Pending.unread, h₂, h₃]
      omega
    · cases h
    · cases h

/-- A step that is not idle and is booked leaves less to read or less room. -/
theorem lt_of_book {l l' : Ledger} {step : Step} {room : Nat} (h : l.book step room = .ok l')
    (hstep : step.isIdle = false) :
    l'.pending.unread + (room - step.output.size) < l.pending.unread + room := by
  have ⟨h₁, h₂, h₃⟩ := book_eq_ok h
  simp only [Step.isIdle, Bool.and_eq_false_iff, decide_eq_false_iff_not] at hstep
  omega

end Ledger

end StreamCodec
