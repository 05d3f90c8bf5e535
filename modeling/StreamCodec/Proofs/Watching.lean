import StreamCodec.Proofs.Mirroring

/-!
Sessions under watch. An engine may keep a log of the calls it gets, and does what it did
without. So every bounded call of a session can be seen together with what it asked of its
engine: the input and the room of every step, and what the step came to.
-/

namespace StreamCodec

variable {σ : Type}

/-- A call that an engine got, and what it came back with. -/
structure Asked where
  input : Slice
  room : Nat
  answer : Outcome Step

namespace Asked

def Succeeds (c : Asked) : Prop := ∃ step, c.answer = .ok step

def taken (c : Asked) : ByteArray :=
  match c.answer with
  | .ok step => c.input.take step.consumed
  | .error _ | .trap _ => ByteArray.empty

def written (c : Asked) : ByteArray :=
  match c.answer with
  | .ok step => step.output
  | .error _ | .trap _ => ByteArray.empty

def allTaken (log : List Asked) : ByteArray := Schedule.joined (log.map taken)

def allWritten (log : List Asked) : ByteArray := Schedule.joined (log.map written)

@[simp] theorem allTaken_nil : allTaken [] = ByteArray.empty := rfl

@[simp] theorem allTaken_cons (c : Asked) (log : List Asked) :
    allTaken (c :: log) = c.taken ++ allTaken log := rfl

@[simp] theorem allWritten_nil : allWritten [] = ByteArray.empty := rfl

@[simp] theorem allWritten_cons (c : Asked) (log : List Asked) :
    allWritten (c :: log) = c.written ++ allWritten log := rfl

theorem allTaken_append (log more : List Asked) :
    allTaken (log ++ more) = allTaken log ++ allTaken more := by
  rw [allTaken, List.map_append, Schedule.joined_append, allTaken, allTaken]

theorem allWritten_append (log more : List Asked) :
    allWritten (log ++ more) = allWritten log ++ allWritten more := by
  rw [allWritten, List.map_append, Schedule.joined_append, allWritten, allWritten]

def noted (log : List Asked) (input : Slice) (room : Nat) :
    Outcome Step × σ → Outcome Step × (σ × List Asked)
  | (answer, s) => (answer, s, log ++ [.mk input room answer])

end Asked

/-- The same engine, keeping a log. -/
def EncodeEngine.watched (E : EncodeEngine σ) : EncodeEngine (σ × List Asked) where
  codec := E.codec
  encode t input room := Asked.noted t.2 input room (E.encode t.1 input room)
  finish t input room := Asked.noted t.2 input room (E.finish t.1 input room)

def DecodeEngine.watched (E : DecodeEngine σ) : DecodeEngine (σ × List Asked) where
  codec := E.codec
  decode t input room := Asked.noted t.2 input room (E.decode t.1 input room)

section Logs

variable {t t' : σ × List Asked} {input : Slice} {room : Nat} {answer : Outcome Step}

theorem EncodeEngine.watched_mirrors (E : EncodeEngine σ) : Mirrors Prod.fst E.watched E where
  codec := rfl
  call := by
    intro request t input room
    cases request <;> rfl

theorem EncodeEngine.watched_log {E : EncodeEngine σ} (request : Request)
    (h : E.watched.call request t input room = (answer, t')) :
    t'.2 = t.2 ++ [.mk input room answer] := by
  cases request <;>
  · cases h
    rfl

theorem DecodeEngine.watched_mirrors (E : DecodeEngine σ) : Mirrors Prod.fst E.watched E where
  codec := rfl
  decode := fun _ _ _ => rfl

theorem DecodeEngine.watched_log {E : DecodeEngine σ}
    (h : E.watched.decode t input room = (answer, t')) :
    t'.2 = t.2 ++ [.mk input room answer] := by
  cases h
  rfl

end Logs

inductive Demand where
  | feed (input : ByteArray) (room : Nat)
  | close (room : Nat)

def Demand.input : Demand → ByteArray
  | feed input _ => input
  | close _ => ByteArray.empty

/-- A bounded call from both sides: what it was given and answered, and what it asked of the
engine. -/
structure Entry where
  input : ByteArray
  answer : Outcome ByteArray
  asked : List Asked

namespace Encoder

variable {s : Encoder σ} {input : ByteArray}

def perform (E : EncodeEngine σ) (s : Encoder σ) : Demand → Outcome ByteArray × Encoder σ
  | .feed input room => s.compressInto E input room
  | .close room => s.finishInto E room

def observe (E : EncodeEngine σ) (s : Encoder σ) (d : Demand) : Entry × Encoder σ :=
  let (answer, t) := perform E.watched (s.map fun engine => (engine, [])) d
  ({ input := d.input, answer, asked := t.engine.2 }, t.map Prod.fst)

theorem observe_late (E : EncodeEngine σ) (hfinished : s.finished = true) (hinput : input.size ≠ 0)
    (room : Nat) :
    observe E s (.feed input room) =
      ({ input, answer := .trap (.inputAfterFinish E.codec), asked := [] }, s) := by
  rw [observe, perform, compressInto_late E.watched hfinished hinput]
  rfl

theorem observe_early (E : EncodeEngine σ) (hopen : s.finished = false) (hinput : input.size ≠ 0)
    (hunread : s.ledger.pending.unread ≠ 0) (room : Nat) :
    observe E s (.feed input room) =
      ({ input, answer := .trap (.inputPending E.codec s.ledger.pending.unread), asked := [] },
        s) := by
  rw [observe, perform, compressInto_early E.watched hopen hinput hunread]
  rfl

theorem observe_finished (E : EncodeEngine σ) (hfinished : s.finished = true)
    (hinput : input.size = 0) (room : Nat) :
    observe E s (.feed input room) = ({ input, answer := .ok ByteArray.empty, asked := [] },
      s) := by
  rw [observe, perform, compressInto_finished E.watched hfinished hinput]
  rfl

theorem observe_open (E : EncodeEngine σ) {engine : σ} {ledger : Ledger} {q : Pending}
    (haccept : ledger.pending.accept E.codec input = .ok q) {room : Nat}
    {answer : Outcome ByteArray} {t : Encoder (σ × List Asked)}
    (hrun : run E.watched (engine, []) { ledger with pending := q } room ByteArray.empty =
      (answer, t)) :
    observe E { engine, ledger } (.feed input room) =
      ({ input, answer, asked := t.engine.2 }, t.map Prod.fst) := by
  rw [observe, perform, map, compressInto_open E.watched (engine, []) haccept]
  simp only [hrun]
  rfl

theorem perform_map {τ : Type} {f : τ → σ} {F : EncodeEngine τ} {E : EncodeEngine σ}
    (h : EncodeEngine.Mirrors f F E) (t : Encoder τ) (d : Demand) :
    perform E (t.map f) d = ((perform F t d).1, (perform F t d).2.map f) := by
  cases d with
  | feed input room => exact compressInto_map h t input room
  | close room => exact finishInto_map h t room

/-- Watching changes nothing. -/
theorem perform_eq (E : EncodeEngine σ) (s : Encoder σ) (d : Demand) :
    perform E s d = ((observe E s d).1.answer, (observe E s d).2) :=
  perform_map E.watched_mirrors (s.map fun engine => (engine, [])) d

end Encoder

namespace Decoder

variable {s : Decoder σ} {input : ByteArray}

def perform (E : DecodeEngine σ) (s : Decoder σ) (m : ByteArray × Nat) :
    Outcome ByteArray × Decoder σ :=
  s.decompressInto E m.1 m.2

def observe (E : DecodeEngine σ) (s : Decoder σ) (m : ByteArray × Nat) : Entry × Decoder σ :=
  let (answer, t) := perform E.watched (s.map fun engine => (engine, [])) m
  ({ input := m.1, answer, asked := t.engine.2 }, t.map Prod.fst)

theorem observe_early (E : DecodeEngine σ) (hinput : input.size ≠ 0)
    (hunread : s.ledger.pending.unread ≠ 0) (room : Nat) :
    observe E s (input, room) =
      ({ input, answer := .trap (.inputPending E.codec s.ledger.pending.unread), asked := [] },
        s) := by
  rw [observe, perform, decompressInto_early E.watched hinput hunread]
  rfl

theorem observe_finished (E : DecodeEngine σ) (engine : σ) {ledger : Ledger} {q : Pending}
    (haccept : ledger.pending.accept E.codec input = .ok q) (room : Nat) :
    observe E { engine, ledger, finished := true } (input, room) =
      ({ input, answer := .ok ByteArray.empty, asked := [] },
        { engine, ledger := { ledger with pending := q }, finished := true }) := by
  rw [observe, perform, map, decompressInto_accepted E.watched (engine, []) haccept]
  rfl

theorem observe_open (E : DecodeEngine σ) {engine : σ} {ledger : Ledger} {q : Pending}
    (haccept : ledger.pending.accept E.codec input = .ok q) {room : Nat}
    {answer : Outcome ByteArray} {t : Decoder (σ × List Asked)}
    (hrun : run E.watched (engine, []) { ledger with pending := q } room ByteArray.empty =
      (answer, t)) :
    observe E { engine, ledger } (input, room) =
      ({ input, answer, asked := t.engine.2 }, t.map Prod.fst) := by
  rw [observe, perform, map, decompressInto_accepted E.watched (engine, []) haccept]
  simp only [if_neg Bool.false_ne_true, hrun]

/-- Watching changes nothing. -/
theorem perform_eq (E : DecodeEngine σ) (s : Decoder σ) (m : ByteArray × Nat) :
    perform E s m = ((observe E s m).1.answer, (observe E s m).2) :=
  decompressInto_map E.watched_mirrors (s.map fun engine => (engine, [])) m.1 m.2

end Decoder

end StreamCodec
