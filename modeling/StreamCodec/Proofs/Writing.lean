import StreamCodec.Proofs.Grammar
import StreamCodec.Stream.Engine

/-!
What an encoder's engine has to keep to, call by call. It is fed, then asked to finish until
it reports the end, and in between it is offered the rest of the input and nothing else. What
it has written by then is a stream of the format, and decodes to what it has taken.
-/

namespace StreamCodec

inductive Request where
  | encode | finish
deriving DecidableEq, Repr

/-- How far an encoder has been driven. One that is `closing` was asked to finish, and has not taken
`rest`. -/
inductive Stage where
  | feeding
  | closing (rest : ByteArray)
  | ended

namespace Stage

/-- The calls that may follow: once asked to finish, an encoder is asked again with the rest of
the input. -/
def Allows : Stage → Request → (input : ByteArray) → Prop
  | feeding, _, _ => True
  | closing rest, .finish, input => input = rest
  | closing _, .encode, _ => False
  | ended, _, _ => False

def after (input : Slice) (step : Step) : Request → Stage
  | .encode => feeding
  | .finish => if step.done then ended else closing (input.drop step.consumed).toBytes

/-- An engine inside another may not have been asked to finish yet, when the outer one has. -/
def Within (inner outer : Stage) : Prop :=
  inner = outer ∨ (inner = feeding ∧ ∃ rest, outer = closing rest)

theorem Within.refl (stage : Stage) : stage.Within stage := .inl rfl

/-- A call that the outer engine may get is one that the inner engine may get. -/
theorem Within.allows {inner outer : Stage} (h : inner.Within outer) {request : Request}
    {input : ByteArray} (hallows : outer.Allows request input) : inner.Allows request input := by
  obtain rfl | ⟨rfl, _⟩ := h
  · exact hallows
  · exact trivial

theorem eq_feeding {stage : Stage} {input : ByteArray} (h : stage.Allows .encode input) :
    stage = feeding := by
  cases stage with
  | feeding => rfl
  | closing rest => exact h.elim
  | ended => exact h.elim

theorem Within.eq_feeding {inner : Stage} (h : inner.Within feeding) : inner = feeding := by
  obtain h | ⟨h, _⟩ := h <;> exact h

/-- The outer engine is asked to finish, and the inner one is left as it is. -/
theorem Within.closing {inner outer : Stage} (h : inner.Within outer) {input : ByteArray}
    (hallows : outer.Allows .finish input) : inner.Within (.closing input) := by
  cases outer with
  | feeding => exact .inr ⟨h.eq_feeding, input, rfl⟩
  | closing rest =>
    cases hallows
    obtain h | ⟨h, _⟩ := h
    · exact .inl h
    · exact .inr ⟨h, _, rfl⟩
  | ended => exact hallows.elim

/-- An engine that hands out what it owes is offered what it has left behind. -/
theorem eq_of_owing {owed : Slice} {behind input : ByteArray}
    (hallows : (if owed.isEmpty then ended else closing behind).Allows .finish input) :
    owed.isEmpty = false ∧ input = behind := by
  split at hallows
  · exact hallows.elim
  · next hleft => exact ⟨Bool.not_eq_true _ ▸ hleft, hallows⟩

/-- Behind all of its input that is nothing. -/
theorem size_of_owing {owed input : Slice}
    (hallows : (if owed.isEmpty then ended else closing ByteArray.empty).Allows .finish
      input.toBytes) :
    owed.isEmpty = false ∧ input.size = 0 := by
  obtain ⟨hleft, hinput⟩ := eq_of_owing hallows
  rw [← Slice.size_toBytes, hinput, ByteArray.size_empty]
  exact ⟨hleft, rfl⟩

end Stage

/-- A step moves a byte when it could, and the end comes behind all the input. -/
def Step.Moves (input : Slice) (room : Nat) (step : Step) : Request → Prop
  | .encode => 0 < input.size → 0 < room → step.isIdle = false
  | .finish => (step.done = true → step.consumed = input.size) ∧
      (step.done = false → 0 < room → step.isIdle = false)

def Step.Advances (input : Slice) (room : Nat) (step : Step) : Request → Prop
  | .encode => 0 < input.size → 0 < room → step.isIdle = false
  | .finish => step.done = false → 0 < room → step.isIdle = false

theorem Step.Moves.advances {input : Slice} {room : Nat} {step : Step} {request : Request}
    (h : step.Moves input room request) : step.Advances input room request := by
  cases request with
  | encode => exact h
  | finish => exact h.2

namespace EncodeEngine

variable {σ : Type}

def call (E : EncodeEngine σ) : Request → σ → (input : Slice) → (room : Nat) → Outcome Step × σ
  | .encode => E.encode
  | .finish => E.finish

/-- Which calls an engine gets, by what it has taken and what it is offered. -/
abbrev Permits := Request → (taken offered : ByteArray) → (room : Nat) → Prop

/-- Calls with any room, as long as `Q` holds of what has been taken and what is offered
behind it. -/
def Offers (Q : Request → ByteArray → Prop) : Permits :=
  fun request taken offered _ => Q request (taken ++ offered)

def Any : Permits := Offers fun _ _ => True

/-- The states that good calls lead to, with what has been taken and written. -/
inductive Reached (E : EncodeEngine σ) (s₀ : σ) (P : Permits) :
    Stage → (taken written : ByteArray) → σ → Prop
  | fresh : Reached E s₀ P .feeding ByteArray.empty ByteArray.empty s₀
  | call {stage : Stage} {taken written : ByteArray} {s s' : σ} {request : Request} {input : Slice}
      {room : Nat} {step : Step} (before : Reached E s₀ P stage taken written s)
      (hallows : stage.Allows request input.toBytes) (hpermits : P request taken input.toBytes room)
      (hcall : E.call request s input room = (.ok step, s'))
      (hwithin : step.Within input.size room) :
      Reached E s₀ P (Stage.after input step request) (taken ++ input.take step.consumed)
        (written ++ step.output) s'

def Answers (E : EncodeEngine σ) (s₀ : σ) (P : Permits)
    (M : Slice → Nat → Step → Request → Prop) : Prop :=
  ∀ ⦃stage taken written s request⦄ ⦃input : Slice⦄ ⦃room⦄, E.Reached s₀ P stage taken written s →
    stage.Allows request input.toBytes → P request taken input.toBytes room →
    ∃ step s', E.call request s input room = (.ok step, s') ∧ step.Within input.size room ∧
      M input room step request

/-- The engine writes streams of a grammar: every call it may get succeeds and moves a byte where it
can, for what it has taken it owes only so much, and at the end it has written a stream of what it
has taken. -/
structure Follows (E : EncodeEngine σ) (s₀ : σ) (P : Permits) (G : Grammar) : Prop where
  answers : ∀ {stage taken written s request input room}, E.Reached s₀ P stage taken written s →
    stage.Allows request input.toBytes → P request taken input.toBytes room →
    ∃ step s', E.call request s input room = (.ok step, s') ∧ step.Within input.size room ∧
      step.Moves input room request
  bounded : ∃ bound : ByteArray → Nat, ∀ {stage taken written s},
    E.Reached s₀ P stage taken written s → written.size ≤ bound taken
  complete : ∀ {taken written s}, E.Reached s₀ P .ended taken written s →
    G.verdict written = .complete written.size ∧ G.plain written = taken

/-- Calls that are permitted one way may be permitted another way too. -/
theorem Reached.mono {E : EncodeEngine σ} {s₀ s : σ} {P P' : Permits} {stage : Stage}
    {taken written : ByteArray} (hP : ∀ request taken offered room, P request taken offered room →
      P' request taken offered room)
    (h : E.Reached s₀ P stage taken written s) : E.Reached s₀ P' stage taken written s := by
  induction h with
  | fresh => exact .fresh
  | call _ hallows hpermits hcall hwithin ih =>
    exact .call ih hallows (hP _ _ _ _ hpermits) hcall hwithin

/-- The engine takes all that it is offered before it reports the end. -/
def EndsTaken (E : EncodeEngine σ) (s₀ : σ) (Q : Request → ByteArray → Prop) : Prop :=
  ∀ {stage taken written s} {input : Slice} {room step s'},
    E.Reached s₀ (Offers Q) stage taken written s →
    stage.Allows .finish input.toBytes → E.call .finish s input room = (.ok step, s') →
      step.done = true →
    step.consumed = input.size

theorem Follows.endsTaken {E : EncodeEngine σ} {s₀ : σ} {G : Grammar} (h : E.Follows s₀ Any G) :
    E.EndsTaken s₀ fun _ _ => True := by
  intro stage taken written s input room step s' hreach hallows hcall hdone
  obtain ⟨step', s'', hcall', _, hmoves⟩ := h.answers hreach hallows trivial
  cases hcall.symm.trans hcall'
  exact hmoves.1 hdone

/-- An engine that is offered all the rest of `data` when it is asked to finish has taken `data`
at the end. -/
theorem EndsTaken.taken_eq {E : EncodeEngine σ} {s₀ s : σ} {Q : Request → ByteArray → Prop}
    {taken written data : ByteArray} (h : E.EndsTaken s₀ Q) (hdata : ∀ b, Q .finish b → b = data)
    (hreach : E.Reached s₀ (Offers Q) .ended taken written s) : taken = data := by
  generalize hstage : Stage.ended = stage at hreach
  cases hreach with
  | fresh => cases hstage
  | @call stage taken written s s' request input room step before hallows hpermits hcall hwithin =>
    cases request with
    | encode => cases hstage
    | finish =>
      cases hdone : step.done with
      | true =>
        rw [h before hallows hcall hdone, Slice.take_of_size_le (Nat.le_refl _)]
        exact hdata _ hpermits
      | false =>
        rw [Stage.after, hdone] at hstage
        cases hstage

section Answers

variable {E : EncodeEngine σ} {s₀ s : σ} {G : Grammar} {P : Permits} {stage : Stage}
  {taken written : ByteArray}

theorem Answers.imp {M M' : Slice → Nat → Step → Request → Prop} (h : E.Answers s₀ P M)
    (hM : ∀ {input room step request}, M input room step request → M' input room step request) :
    E.Answers s₀ P M' := by
  intro stage taken written s request input room hreach hallows hpermits
  obtain ⟨step, s', hcall, hwithin, hstep⟩ := h hreach hallows hpermits
  exact ⟨step, s', hcall, hwithin, hM hstep⟩

theorem Follows.moves (h : E.Follows s₀ P G) : E.Answers s₀ P Step.Moves :=
  fun _ _ _ _ _ _ _ => h.answers

theorem Follows.advances (h : E.Follows s₀ P G) : E.Answers s₀ P Step.Advances :=
  h.moves.imp Step.Moves.advances

theorem Answers.encode (h : E.Answers s₀ Any Step.Advances)
    (hreach : E.Reached s₀ Any .feeding taken written s) (input : Slice) (room : Nat) :
    ∃ step s', E.encode s input room = (.ok step, s') ∧ step.Within input.size room ∧
      (0 < input.size → 0 < room → step.isIdle = false) := by
  have hallows : Stage.feeding.Allows .encode input.toBytes := trivial
  have hpermits : Any .encode taken input.toBytes room := trivial
  exact h hreach hallows hpermits

theorem Answers.finish (h : E.Answers s₀ Any Step.Advances)
    (hreach : E.Reached s₀ Any stage taken written s) {input : Slice}
    (hallows : stage.Allows .finish input.toBytes) (room : Nat) :
    ∃ step s', E.finish s input room = (.ok step, s') ∧ step.Within input.size room ∧
      (step.done = false → 0 < room → step.isIdle = false) := by
  have hpermits : Any .finish taken input.toBytes room := trivial
  exact h hreach hallows hpermits

end Answers

end EncodeEngine

end StreamCodec
