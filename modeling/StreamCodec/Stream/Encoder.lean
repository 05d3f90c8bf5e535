import StreamCodec.Stream.Ledger

/-!
A compression session over an engine. A bounded call feeds some input and writes at
most a window of output; it goes on stepping until the window is full or the engine is
idle. A call that returns less than its window has nothing more to say for the input so
far.
-/

namespace StreamCodec

structure Encoder (σ : Type) where
  engine : σ
  ledger : Ledger := {}
  finished : Bool := false

namespace Encoder

variable {σ : Type}

def run (E : EncodeEngine σ) (engine : σ) (l : Ledger) (room : Nat) (out : ByteArray) :
    Outcome ByteArray × Encoder σ :=
  match E.encode engine l.pending.remaining room with
  | (.error e, engine) => (.error e, { engine, ledger := l })
  | (.trap t, engine) => (.trap t, { engine, ledger := l })
  | (.ok step, engine) =>
    match _booked : l.book step room with
    | .error e => (.error e, { engine, ledger := l })
    | .trap t => (.trap t, { engine, ledger := l })
    | .ok l' =>
      if room = step.output.size then (.ok (out ++ step.output), { engine, ledger := l' })
      else if _idle : step.isIdle then (.ok (out ++ step.output), { engine, ledger := l' })
      else run E engine l' (room - step.output.size) (out ++ step.output)
termination_by l.pending.unread + room
decreasing_by exact Ledger.lt_of_book _booked (by simpa using _idle)

def compressInto (E : EncodeEngine σ) (s : Encoder σ) (input : ByteArray) (room : Nat) :
    Outcome ByteArray × Encoder σ :=
  if s.finished then
    if input.size = 0 then (.ok ByteArray.empty, s) else (.trap (.inputAfterFinish E.codec), s)
  else
    match s.ledger.pending.accept E.codec input with
    | .error e => (.error e, s)
    | .trap t => (.trap t, s)
    | .ok pending =>
      let ⟨engine, ledger, _⟩ := s
      run E engine { ledger with pending } room ByteArray.empty

/-- Finishing steps until the end of the stream is out or the window is full. An idle step with room
left is a trap. -/
def conclude (E : EncodeEngine σ) (engine : σ) (l : Ledger) (room : Nat) (out : ByteArray) :
    Outcome ByteArray × Encoder σ :=
  match E.finish engine l.pending.remaining room with
  | (.error e, engine) => (.error e, { engine, ledger := l })
  | (.trap t, engine) => (.trap t, { engine, ledger := l })
  | (.ok step, engine) =>
    match _booked : l.book step room with
    | .error e => (.error e, { engine, ledger := l })
    | .trap t => (.trap t, { engine, ledger := l })
    | .ok l' =>
      if step.done then (.ok (out ++ step.output), { engine, ledger := l', finished := true })
      else if room = step.output.size then (.ok (out ++ step.output), { engine, ledger := l' })
      else if _idle : step.isIdle then (.trap (.noProgress E.codec), { engine, ledger := l' })
      else conclude E engine l' (room - step.output.size) (out ++ step.output)
termination_by l.pending.unread + room
decreasing_by exact Ledger.lt_of_book _booked (by simpa using _idle)

/-- One bounded call that ends the stream. Once the end is out, further calls write nothing. -/
def finishInto (E : EncodeEngine σ) (s : Encoder σ) (room : Nat) : Outcome ByteArray × Encoder σ :=
  if s.finished then (.ok ByteArray.empty, s)
  else
    let ⟨engine, ledger, _⟩ := s
    conclude E engine ledger room ByteArray.empty

def stats (s : Encoder σ) : Stats := s.ledger.stats

end Encoder

end StreamCodec
