import StreamCodec.Proofs.Adapting
import StreamCodec.Proofs.Recording

/-!
Encoders before and behind the end of their stream. One that is fed and asked to finish in any
order carries its input when it does not report the end before it has taken all that it was
offered. An adapter that hands the calls on carries its input when the engine in it does.
-/

namespace StreamCodec

def Request.ends (step : Step) : Request → Bool
  | .encode => false
  | .finish => step.done

namespace EncodeEngine

variable {σ : Type} {E F : EncodeEngine σ} {s₀ : σ}

/-- Where an engine may stand that has not reported the end. -/
inductive Before (E : EncodeEngine σ) (s₀ : σ) : σ → Prop
  | fresh : Before E s₀ s₀
  | call {s s' : σ} {request : Request} {input : Slice} {room : Nat} {step : Step}
      (before : Before E s₀ s) (hcall : E.call request s input room = (.ok step, s'))
      (hopen : request.ends step = false) : Before E s₀ s'

/-- Where it may stand once it has reported the end. -/
inductive Behind (E : EncodeEngine σ) (s₀ : σ) : σ → Prop
  | ended {s s' : σ} {request : Request} {input : Slice} {room : Nat} {step : Step}
      (before : E.Before s₀ s) (hcall : E.call request s input room = (.ok step, s'))
      (hends : request.ends step = true) : Behind E s₀ s'
  | later {s s' : σ} {request : Request} {input : Slice} {room : Nat} {answer : Outcome Step}
      (behind : Behind E s₀ s) (hcall : E.call request s input room = (answer, s')) : Behind E s₀ s'

/-- The step that reports the end takes all that it is offered. -/
def Carries (E : EncodeEngine σ) (s₀ : σ) : Prop :=
  ∀ {s request input room step s'}, E.Before s₀ s → E.call request s input room = (.ok step, s') →
    request.ends step = true → step.consumed = input.size

/-- Once it has reported the end, the engine moves no byte and does not fail. -/
def RestsBehind (E : EncodeEngine σ) (s₀ : σ) : Prop :=
  ∀ {s}, E.Behind s₀ s → ∀ request input room, ∃ step s',
    E.call request s input room = (.ok step, s') ∧ step.isIdle = true

/-- `F` makes one call of `E` for a call that it gets, or none. -/
structure HandsOn (F E : EncodeEngine σ) : Prop where
  call : ∀ {request s input room step s'}, F.call request s input room = (.ok step, s') →
    (s' = s ∧ request.ends step = false) ∨ ∃ asked inner,
      E.call asked s input room = (.ok inner, s') ∧ asked.ends inner = request.ends step ∧
        inner.consumed = step.consumed

theorem HandsOn.before {s : σ} (hF : F.HandsOn E) (h : F.Before s₀ s) : E.Before s₀ s := by
  induction h with
  | fresh => exact .fresh
  | call _ hcall hopen ih =>
    obtain ⟨rfl, -⟩ | ⟨asked, inner, hinner, hends, -⟩ := hF.call hcall
    · exact ih
    · exact .call ih hinner (hends.trans hopen)

theorem HandsOn.carries (hF : F.HandsOn E) (h : E.Carries s₀) : F.Carries s₀ := by
  intro s request input room step s' hbefore hcall hends
  obtain ⟨-, hopen⟩ | ⟨asked, inner, hinner, hsame, hconsumed⟩ := hF.call hcall
  · cases hopen.symm.trans hends
  · exact hconsumed.symm.trans (h (hF.before hbefore) hinner (hsame.trans hends))

theorem sparing_handsOn (E : EncodeEngine σ) : E.sparing.HandsOn E where
  call := by
    intro request s input room step s' hcall
    cases request with
    | encode =>
      rw [sparing_encode] at hcall
      split at hcall
      · cases hcall
        exact .inl ⟨rfl, rfl⟩
      · exact .inr ⟨.encode, step, hcall, rfl, rfl⟩
    | finish =>
      rw [sparing_finish] at hcall
      split at hcall
      · cases hcall
        exact .inl ⟨rfl, rfl⟩
      · exact .inr ⟨.finish, step, hcall, rfl, rfl⟩

theorem openEnded_handsOn (E : EncodeEngine σ) : E.openEnded.HandsOn E where
  call := by
    intro request s input room step s' hcall
    cases request with
    | encode =>
      obtain ⟨inner, hinner, rfl⟩ := openEnded_encode_eq_ok.mp hcall
      exact .inr ⟨.encode, inner, hinner, rfl, rfl⟩
    | finish => exact .inr ⟨.finish, step, hcall, rfl, rfl⟩

/-- What is encoded first is not the end. -/
theorem inputFirst_handsOn (E : EncodeEngine σ) : E.openEnded.inputFirst.HandsOn E where
  call := by
    intro request s input room step s' hcall
    cases request with
    | encode =>
      have hencode : E.openEnded.call .encode s input room = (.ok step, s') := hcall
      exact (openEnded_handsOn E).call hencode
    | finish =>
      rw [inputFirst_finish] at hcall
      split at hcall
      · exact .inr ⟨.finish, step, hcall, rfl, rfl⟩
      · obtain ⟨inner, hinner, rfl⟩ := openEnded_encode_eq_ok.mp hcall
        exact .inr ⟨.encode, inner, hinner, rfl, rfl⟩

end EncodeEngine

namespace NativeEncoder

variable {N : NativeEncoder} {codec : Codec}

def Carries (N : NativeEncoder) (codec : Codec) : Prop := (N.engine codec).Carries N.fresh

def RestsBehind (N : NativeEncoder) (codec : Codec) : Prop := (N.engine codec).RestsBehind N.fresh

def guarding {σ : Type} (input : Slice) : Answer × σ → Answer × Option σ
  | (.error r, s) => (.error r, some s)
  | (.ok step, s) =>
    if step.done then
      if step.consumed = input.size then (.ok step, none)
      else (.error (.sequence "input is left at the end"), some s)
    else (.ok step, some s)

/-- The same encoder with a guard: it is refused an end with input left, and is not called behind
the end. -/
def guarded (N : NativeEncoder) : NativeEncoder where
  State := Option N.State
  fresh := some N.fresh
  run
    | none, _, _ => (.ok .idle, none)
    | some s, input, room => (N.run s input room).map id some
  finish
    | none, _, _ => (.ok { Step.idle with done := true }, none)
    | some s, input, room => guarding input (N.finish s input room)

theorem guarding_eq_ok {σ : Type} {input : Slice} {r : Answer × σ} {step : Step} {s' : Option σ}
    (h : Answer.outcome (Refusal.whileEncoding codec) (guarding input r) = (.ok step, s')) :
    (step.done = true ∧ s' = none ∧ step.consumed = input.size) ∨
      (step.done = false ∧ ∃ s, s' = some s) := by
  obtain ⟨answer, s⟩ := r
  cases answer with
  | error r => exact absurd (congrArg Prod.fst h) (whileEncoding_ne_ok codec r step)
  | ok inner =>
    unfold guarding at h
    simp only at h
    split at h
    · next hdone =>
      split at h
      · next hall =>
        cases h
        exact .inl ⟨hdone, rfl, hall⟩
      · exact absurd (congrArg Prod.fst h) (whileEncoding_ne_ok codec _ step)
    · next hopen =>
      cases h
      exact .inr ⟨eq_false_of_ne_true hopen, s, rfl⟩

/-- A step that succeeds is the end, behind all the input, or leaves the encoder open. -/
theorem guarded_call {request : Request} {s : N.State} {input : Slice} {room : Nat} {step : Step}
    {s' : Option N.State}
    (h : (N.guarded.engine codec).call request (some s) input room = (.ok step, s')) :
    (request.ends step = true ∧ s' = none ∧ step.consumed = input.size) ∨
      (request.ends step = false ∧ ∃ s, s' = some s) := by
  cases request with
  | finish => exact guarding_eq_ok h
  | encode =>
    simp only [EncodeEngine.call, engine, guarded] at h
    rcases hrun : N.run s input room with ⟨r | inner, s'⟩
    · rw [hrun] at h
      exact absurd (congrArg Prod.fst h) (whileEncoding_ne_ok codec r step)
    · rw [hrun] at h
      cases h
      exact .inr ⟨rfl, s', rfl⟩

theorem guarded_before {s : Option N.State}
    (h : (N.guarded.engine codec).Before N.guarded.fresh s) : ∃ inner, s = some inner := by
  induction h with
  | fresh => exact ⟨N.fresh, rfl⟩
  | call _ hcall hopen ih =>
    obtain ⟨inner, rfl⟩ := ih
    obtain ⟨hends, -⟩ | ⟨-, hsome⟩ := guarded_call hcall
    · cases hends.symm.trans hopen
    · exact hsome

theorem guarded_carries (N : NativeEncoder) (codec : Codec) : N.guarded.Carries codec := by
  intro s request input room step s' hbefore hcall hends
  obtain ⟨inner, rfl⟩ := guarded_before hbefore
  obtain ⟨-, -, hall⟩ | ⟨hopen, -⟩ := guarded_call hcall
  · exact hall
  · cases hopen.symm.trans hends

theorem guarded_behind {s : Option N.State}
    (h : (N.guarded.engine codec).Behind N.guarded.fresh s) : s = none := by
  induction h with
  | ended hbefore hcall hends =>
    obtain ⟨inner, rfl⟩ := guarded_before hbefore
    obtain ⟨-, hnone, -⟩ | ⟨hopen, -⟩ := guarded_call hcall
    · exact hnone
    · cases hopen.symm.trans hends
  | @later s s' request input room answer _ hcall ih =>
    subst ih
    cases request <;>
    · cases hcall
      rfl

theorem guarded_restsBehind (N : NativeEncoder) (codec : Codec) : N.guarded.RestsBehind codec := by
  intro s hbehind request input room
  cases guarded_behind hbehind
  cases request with
  | encode => exact ⟨.idle, none, rfl, rfl⟩
  | finish => exact ⟨{ Step.idle with done := true }, none, rfl, rfl⟩

end NativeEncoder

/-- The encoder of a format without framing carries its input when the native encoder does. -/
theorem encodeEngine_carries {codec : Codec} (hcodec : codec ≠ .gzip) {N : NativeEncoder}
    (hN : N.Carries codec) (level : Level) :
    (encodeEngine codec N).Carries (newEncoder codec N level) := by
  cases codec with
  | gzip => exact absurd rfl hcodec
  | bzip2 => exact (EncodeEngine.sparing_handsOn (N.engine .bzip2)).carries hN
  | brotli => exact (EncodeEngine.openEnded_handsOn (N.engine .brotli)).carries hN
  | zstd => exact (EncodeEngine.inputFirst_handsOn (N.engine .zstd)).carries hN
  | deflate | zlib | lzma => exact hN

end StreamCodec
