import StreamCodec.Proofs.Mirroring

/-!
Native encoders that keep a log of the calls they got. The log changes nothing of what they
do, and it says which bytes they were offered, which they took, and where the end was reported.
-/

namespace StreamCodec

/-- A call that a native encoder got, and what it came back with. -/
structure Call where
  request : Request
  input : ByteArray
  room : Nat
  answer : Answer

namespace Call

def taken (c : Call) : ByteArray :=
  match c.answer with
  | .ok step => c.input.extract 0 step.consumed
  | .error _ => ByteArray.empty

def written (c : Call) : ByteArray :=
  match c.answer with
  | .ok step => step.output
  | .error _ => ByteArray.empty

def ends (c : Call) : Bool :=
  match c.request, c.answer with
  | .finish, .ok step => step.done
  | _, _ => false

def allTaken (log : List Call) : ByteArray := Schedule.joined (log.map taken)

def allWritten (log : List Call) : ByteArray := Schedule.joined (log.map written)

end Call

namespace NativeEncoder

def noted {σ : Type} (request : Request) (log : List Call) (input : Slice) (room : Nat) :
    Answer × σ → Answer × (σ × List Call)
  | (answer, s) => (answer, s, log ++ [{ request, input := input.toBytes, room, answer }])

/-- The same encoder, keeping a log. -/
def recorded (N : NativeEncoder) : NativeEncoder where
  State := N.State × List Call
  fresh := (N.fresh, [])
  run t input room := noted .encode t.2 input room (N.run t.1 input room)
  finish t input room := noted .finish t.2 input room (N.finish t.1 input room)

variable {N : NativeEncoder} {codec : Codec}

open EncodeEngine

theorem recorded_mirrors (N : NativeEncoder) (codec : Codec) :
    Mirrors Prod.fst (N.recorded.engine codec) (N.engine codec) where
  codec := rfl
  call := by
    intro request t input room
    obtain ⟨s, log⟩ := t
    cases request with
    | encode =>
      simp only [EncodeEngine.call, engine, recorded]
      rcases N.run s input room with ⟨_ | _, _⟩ <;> rfl
    | finish =>
      simp only [EncodeEngine.call, engine, recorded]
      rcases N.finish s input room with ⟨_ | _, _⟩ <;> rfl

/-- The encoder takes all that it is offered before it reports the end. -/
def EndsTaken (N : NativeEncoder) (codec : Codec) : Prop :=
  (N.engine codec).EndsTaken N.fresh fun _ _ => True

theorem EndsTaken.recorded (h : N.EndsTaken codec) (Q : Request → ByteArray → Prop) :
    (N.recorded.engine codec).EndsTaken N.recorded.fresh Q := by
  intro stage taken written t input room step t' hreach hallows hcall hdone
  have hreach' : (N.engine codec).Reached N.fresh Any stage taken written t.1 :=
    (hreach.map (recorded_mirrors N codec)).mono fun _ _ _ _ _ => trivial
  exact h hreach' hallows ((recorded_mirrors N codec).call_ok hcall) hdone

theorem whileEncoding_ne_ok (codec : Codec) (r : Refusal) (step : Step) :
    r.whileEncoding codec ≠ .ok step := by
  intro h
  cases codec <;> cases r <;> cases h

theorem noted_eq_ok {σ : Type} {request : Request} {log : List Call} {input : Slice}
    {room : Nat} {step : Step} {r : Answer × σ} {t' : σ × List Call}
    (h : Answer.outcome (Refusal.whileEncoding codec) (noted request log input room r) =
      (.ok step, t')) :
    t'.2 = log ++ [{ request, input := input.toBytes, room, answer := .ok step }] := by
  obtain ⟨answer, s⟩ := r
  cases answer with
  | ok inner =>
    cases h
    rfl
  | error r => exact absurd (congrArg Prod.fst h) (whileEncoding_ne_ok codec r step)

/-- A call that succeeds is put on the log as such. -/
theorem log_of_call {request : Request} {t t' : N.State × List Call} {input : Slice}
    {room : Nat} {step : Step}
    (h : (N.recorded.engine codec).call request t input room = (.ok step, t')) :
    t'.2 = t.2 ++ [{ request, input := input.toBytes, room, answer := .ok step }] := by
  cases request with
  | encode => exact noted_eq_ok h
  | finish => exact noted_eq_ok h

end NativeEncoder

/-- A log of an encoder that was driven to `stage`. Every call was offered bytes of `data` from
where the calls before it had got to, and the end is reported by the last call only. -/
structure Logged (data : ByteArray) (stage : Stage) (taken written : ByteArray)
    (log : List Call) : Prop where
  taken : Call.allTaken log = taken
  written : Call.allWritten log = written
  offered : ∀ before call after, log = before ++ call :: after →
    ∃ later, Call.allTaken before ++ call.input ++ later = data
  opened : stage ≠ .ended → ∀ call ∈ log, call.ends = false
  ended : stage = .ended → ∃ before last, log = before ++ [last] ∧ last.ends = true ∧
    ∀ call ∈ before, call.ends = false

namespace Call

theorem allTaken_concat (log : List Call) (c : Call) :
    allTaken (log ++ [c]) = allTaken log ++ c.taken := by
  rw [allTaken, List.map_append, Schedule.joined_append, List.map_singleton, Schedule.joined_cons,
    Schedule.joined_nil, ByteArray.append_empty, allTaken]

theorem allWritten_concat (log : List Call) (c : Call) :
    allWritten (log ++ [c]) = allWritten log ++ c.written := by
  rw [allWritten, List.map_append, Schedule.joined_append, List.map_singleton, Schedule.joined_cons,
    Schedule.joined_nil, ByteArray.append_empty, allWritten]

theorem ends_iff (request : Request) (input : Slice) (room : Nat) (step : Step) :
    Call.ends { request, input := input.toBytes, room, answer := .ok step } = true ↔
      Stage.after input step request = .ended := by
  cases request with
  | encode =>
    constructor
    · intro h
      cases h
    · intro h
      cases h
  | finish =>
    show step.done = true ↔ (if step.done then Stage.ended else _) = Stage.ended
    cases step.done with
    | true => exact ⟨fun _ => rfl, fun _ => rfl⟩
    | false =>
      constructor
      · intro h
        cases h
      · intro h
        cases h

end Call

namespace Logged

variable {data taken written : ByteArray} {stage : Stage} {log : List Call}

theorem fresh (data : ByteArray) : Logged data .feeding ByteArray.empty ByteArray.empty [] where
  taken := rfl
  written := rfl
  offered := by
    intro before call after h
    cases before <;> cases h
  opened := by
    intro _ call h
    cases h
  ended := by
    intro h
    cases h

/-- A call of a log with one more call is that one, or one of those before. -/
theorem split_concat {before after : List Call} {last call : Call}
    (h : log ++ [last] = before ++ call :: after) :
    (before = log ∧ call = last) ∨ ∃ more, log = before ++ call :: more := by
  obtain ⟨more, rfl, hmore⟩ | ⟨more, hlog, hmore⟩ := List.append_eq_append_iff.mp h
  · cases more with
    | nil =>
      cases hmore
      exact .inl ⟨List.append_nil log, rfl⟩
    | cons first more => cases more <;> cases hmore
  · cases more with
    | nil =>
      cases hmore
      exact .inl ⟨(List.append_nil before).symm.trans hlog.symm, rfl⟩
    | cons first more =>
      obtain ⟨rfl, -⟩ := List.cons.inj hmore
      exact .inr ⟨more, hlog⟩

/-- One more call, which is offered bytes of `data` from where the log has got to. -/
theorem concat (h : Logged data stage taken written log) {request : Request}
    {input : Slice} {room : Nat} {step : Step} (hstage : stage ≠ .ended)
    (hoffered : ∃ later, taken ++ input.toBytes ++ later = data) :
    Logged data (Stage.after input step request) (taken ++ input.take step.consumed)
      (written ++ step.output)
      (log ++ [{ request, input := input.toBytes, room, answer := .ok step }]) where
  taken := by
    rw [Call.allTaken_concat, h.taken, Slice.take_eq_extract]
    rfl
  written := by
    rw [Call.allWritten_concat, h.written]
    rfl
  offered := by
    intro before call after hlog
    obtain ⟨rfl, rfl⟩ | ⟨more, hmore⟩ := split_concat hlog
    · rw [h.taken]
      exact hoffered
    · exact h.offered before call more hmore
  opened := by
    intro hopen call hmem
    obtain hmem | hmem := List.mem_append.mp hmem
    · exact h.opened hstage call hmem
    · rw [List.mem_singleton.mp hmem, ← Bool.not_eq_true, Call.ends_iff]
      exact hopen
  ended := fun hend =>
    ⟨log, _, rfl, (Call.ends_iff request input room step).mpr hend, h.opened hstage⟩

end Logged

open EncodeEngine

theorem logged_of_reached {N : NativeEncoder} {codec : Codec} {Q : Request → ByteArray → Prop}
    {data : ByteArray}
    (hdata : ∀ request b, Q request b → ∃ later, b ++ later = data) {stage : Stage}
    {taken written : ByteArray} {t : N.State × List Call}
    (h : (N.recorded.engine codec).Reached N.recorded.fresh (Offers Q) stage taken written t) :
    Logged data stage taken written t.2 := by
  induction h with
  | fresh => exact .fresh data
  | call before hallows hpermits hcall hwithin ih =>
    rw [NativeEncoder.log_of_call hcall]
    refine ih.concat ?_ (hdata _ _ hpermits)
    rintro rfl
    exact hallows.elim

end StreamCodec
