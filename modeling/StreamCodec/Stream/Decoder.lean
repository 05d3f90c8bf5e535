import StreamCodec.Stream.Ledger

/-!
A decompression session over an engine. A bounded call goes on stepping until the
stream ends, the window is full or the engine is idle. After the end of the stream no
further input is consumed, so the unread rest shows where the stream stopped.
-/

namespace StreamCodec

structure Decoder (σ : Type) where
  engine : σ
  ledger : Ledger := {}
  finished : Bool := false

namespace Decoder

variable {σ : Type}

/-- Steps the engine until the stream ends, the window of `room` bytes is full or a step is idle. -/
def run (E : DecodeEngine σ) (engine : σ) (l : Ledger) (room : Nat) (out : ByteArray) :
    Outcome ByteArray × Decoder σ :=
  match E.decode engine l.pending.remaining room with
  | (.error e, engine) => (.error e, { engine, ledger := l })
  | (.trap t, engine) => (.trap t, { engine, ledger := l })
  | (.ok step, engine) =>
    match _booked : l.book step room with
    | .error e => (.error e, { engine, ledger := l })
    | .trap t => (.trap t, { engine, ledger := l })
    | .ok l' =>
      if step.done then (.ok (out ++ step.output), { engine, ledger := l', finished := true })
      else if room = step.output.size then (.ok (out ++ step.output), { engine, ledger := l' })
      else if _idle : step.isIdle then (.ok (out ++ step.output), { engine, ledger := l' })
      else run E engine l' (room - step.output.size) (out ++ step.output)
termination_by l.pending.unread + room
decreasing_by exact Ledger.lt_of_book _booked (by simpa using _idle)

def decompressInto (E : DecodeEngine σ) (s : Decoder σ) (input : ByteArray) (room : Nat) :
    Outcome ByteArray × Decoder σ :=
  match s.ledger.pending.accept E.codec input with
  | .error e => (.error e, s)
  | .trap t => (.trap t, s)
  | .ok pending =>
    let ⟨engine, ledger, finished⟩ := s
    let ledger := { ledger with pending }
    if finished then (.ok ByteArray.empty, { engine, ledger, finished })
    else run E engine ledger room ByteArray.empty

def stats (s : Decoder σ) : Stats := s.ledger.stats

def bytesUsed (s : Decoder σ) : Nat := s.ledger.pending.used

end Decoder

end StreamCodec
