import StreamCodec.Proofs.Buffering

/-!
Where a caller can bring a decoder's engine who may go on after errors, and what is asked of an
engine there: that its counts stay within what it is offered, and that it refuses nothing but
data. What it writes of so many bytes is limited.
-/

namespace StreamCodec

/-- A value that `P` is true of, or a verdict on the data under the name of the format. -/
def Outcome.Graceful {α : Type} (codec : Codec) (P : α → Prop) : Outcome α → Prop
  | .ok a => P a
  | .error e => e.kind = .data ∧ e.codec? = some codec
  | .trap _ => False

theorem Outcome.Graceful.imp {α : Type} {codec : Codec} {P Q : α → Prop} {r : Outcome α}
    (h : r.Graceful codec P) (hQ : ∀ a, r = .ok a → Q a) : r.Graceful codec Q := by
  cases r with
  | ok a => exact hQ a rfl
  | error e => exact h
  | trap t => exact h

namespace DecodeEngine

variable {σ : Type} {E : DecodeEngine σ} {s₀ : σ} {Fits : Nat → Prop} {Onward : Prop}

/-- The states that calls lead to. Errors are followed by further calls only where the caller goes
`Onward`, and nothing follows a step that is done. -/
inductive Visited (E : DecodeEngine σ) (s₀ : σ) (Fits : Nat → Prop) (Onward : Prop) :
    (ended : Bool) → σ → Prop
  | fresh : Visited E s₀ Fits Onward false s₀
  | step {s s' : σ} {input : Slice} {room : Nat} {step : Step}
      (before : Visited E s₀ Fits Onward false s) (hfits : Fits room)
      (call : E.decode s input room = (.ok step, s')) : Visited E s₀ Fits Onward step.done s'
  | error {s s' : σ} {input : Slice} {room : Nat} {e : Error} (onward : Onward)
      (before : Visited E s₀ Fits Onward false s) (hfits : Fits room)
      (call : E.decode s input room = (.error e, s')) : Visited E s₀ Fits Onward false s'

/-- Wherever its caller brings it, the engine stays within what it is offered, and refuses nothing
but data. -/
def Tame (E : DecodeEngine σ) (s₀ : σ) (Fits : Nat → Prop) (Onward : Prop) : Prop :=
  ∀ s input room, E.Visited s₀ Fits Onward false s → Fits room →
    (E.decode s input room).1.Graceful E.codec (·.Within input.size room)

def Bounded (E : DecodeEngine σ) (s₀ : σ) (Fits : Nat → Prop) : Prop :=
  ∀ n, ∃ most, ∀ ended read written s, E.Reached s₀ (fun _ => Fits) ended read written s →
    read.size ≤ n →
    written.size ≤ most

theorem Reached.visited {ended : Bool} {read written : ByteArray} {s : σ}
    (h : E.Reached s₀ (fun _ => Fits) ended read written s) (Onward : Prop) :
    E.Visited s₀ Fits Onward ended s := by
  induction h with
  | fresh => exact .fresh
  | step _ hfits call ih => exact .step ih hfits call

theorem visited_of_sparing {ended : Bool} {s : σ}
    (h : E.sparing.Visited s₀ (fun _ => True) Onward ended s) :
    E.Visited s₀ (0 < ·) Onward ended s := by
  induction h with
  | fresh => exact .fresh
  | step _ _ call ih =>
    obtain ⟨hidle, rfl⟩ | ⟨hroom, hcall⟩ := sparing_cases call
    · cases hidle
      exact ih
    · exact .step ih hroom hcall
  | error onward _ _ call ih =>
    obtain ⟨hidle, -⟩ | ⟨hroom, hcall⟩ := sparing_cases call
    · cases hidle
    · exact .error onward ih hroom hcall

theorem Tame.sparing (h : E.Tame s₀ (0 < ·) Onward) :
    E.sparing.Tame s₀ (fun _ => True) Onward := by
  intro s input room hs _
  rw [sparing_decode]
  by_cases hroom : room = 0
  · rw [if_pos hroom]
    exact ⟨Nat.zero_le _, Nat.zero_le _⟩
  · rw [if_neg hroom]
    exact h s input room (visited_of_sparing hs) (Nat.pos_of_ne_zero hroom)

theorem Bounded.sparing (h : E.Bounded s₀ (0 < ·)) : E.sparing.Bounded s₀ (fun _ => True) := by
  intro n
  obtain ⟨most, hmost⟩ := h n
  exact ⟨most, fun ended read written s hs =>
    hmost ended read written s (reached_of_sparing_any hs)⟩

end DecodeEngine

/-- Wherever its caller brings it, the native decoder stays within what it is offered, and where it
refuses a call it never says that memory ran out or that the call came out of turn. -/
def NativeDecoder.Tame (N : NativeDecoder) (codec : Codec) (Onward : Prop) : Prop :=
  ∀ s input room, (N.engine codec).Visited N.fresh codec.Fits Onward false s → codec.Fits room →
    match (N.run s input room).1 with
    | .ok step => step.Within input.size room
    | .error r => ∃ m, r = .data m

/-- What the native decoder writes of so many bytes is limited. -/
def NativeDecoder.Bounded (N : NativeDecoder) (codec : Codec) : Prop :=
  (N.engine codec).Bounded N.fresh codec.Fits

theorem Refusal.whileDecoding_data (codec : Codec) (m : String) :
    (Refusal.data m).whileDecoding codec = .error (.decode codec m) := by
  cases codec <;> rfl

theorem NativeDecoder.Tame.engine {N : NativeDecoder} {codec : Codec} {Onward : Prop}
    (h : N.Tame codec Onward) : (N.engine codec).Tame N.fresh codec.Fits Onward := by
  intro s input room hs hfits
  have hcall := h s input room hs hfits
  simp only [NativeDecoder.engine]
  rcases hrun : N.run s input room with ⟨answer, s'⟩
  rw [hrun] at hcall
  cases answer with
  | ok step => exact hcall
  | error r =>
    obtain ⟨m, rfl⟩ := hcall
    rw [Answer.outcome, Refusal.whileDecoding_data]
    exact ⟨rfl, rfl⟩

/-- A native decoder is tame whose calls keep to `P`, stay within what they are offered and refuse
nothing but data. A refusal need not keep to `P` where its caller stops. -/
theorem NativeDecoder.tame_of_keeps {N : NativeDecoder} {P : N.State → Prop} {Onward : Prop}
    (hfresh : P N.fresh)
    (hkeeps : ∀ s input room, P s →
      (∃ m s', (Onward → P s') ∧ N.run s input room = (.error (.data m), s')) ∨
        ∃ step s', P s' ∧ step.Within input.size room ∧ N.run s input room = (.ok step, s'))
    (codec : Codec) : N.Tame codec Onward := by
  have hvisited {ended : Bool} {s : N.State}
      (h : (N.engine codec).Visited N.fresh codec.Fits Onward ended s) : P s := by
    induction h with
    | fresh => exact hfresh
    | @step s s' input room _ _ _ call ih =>
      obtain ⟨m, t, -, hrun⟩ | ⟨step, t, hnext, -, hrun⟩ := hkeeps s input room ih
      · cases hrun.symm.trans (engine_eq_ok.mp call)
      · cases hrun.symm.trans (engine_eq_ok.mp call)
        exact hnext
    | @error s s' input room _ onward _ _ call ih =>
      obtain ⟨r, hrefused, -⟩ := exists_of_error call
      obtain ⟨m, t, hnext, hrun⟩ | ⟨step, t, -, -, hrun⟩ := hkeeps s input room ih
      · cases hrun.symm.trans hrefused
        exact hnext onward
      · cases hrun.symm.trans hrefused
  intro s input room hs _
  obtain ⟨m, t, -, hrun⟩ | ⟨step, t, -, hwithin, hrun⟩ := hkeeps s input room (hvisited hs)
  · rw [hrun]
    exact ⟨m, rfl⟩
  · rw [hrun]
    exact hwithin

end StreamCodec
