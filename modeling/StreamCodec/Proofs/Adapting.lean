import StreamCodec.Adapter
import StreamCodec.Proofs.Writing

/-!
The adapters around native encoders. Each of them keeps calls from an engine that it is not
made for, and what comes out follows the grammar for all calls.
-/

namespace StreamCodec.EncodeEngine

variable {σ : Type} {E : EncodeEngine σ} {s₀ : σ} {G : Grammar} {Q : Request → ByteArray → Prop}
  {P : Permits} {M : Slice → Nat → Step → Request → Prop} {stage : Stage}
  {taken written : ByteArray} {s : σ}

/-- Calls with room, and with input where they are to take some. -/
def Filled : Permits
  | .encode, _, offered, room => 0 < offered.size ∧ 0 < room
  | .finish, _, _, room => 0 < room

/-- Calls that ask to finish only when there is nothing left to take. -/
def Emptied : Permits
  | .encode, _, _, _ => True
  | .finish, _, offered, _ => offered.size = 0

def Both (P P' : Permits) : Permits :=
  fun request taken offered room =>
    P request taken offered room ∧ P' request taken offered room

theorem Reached.left {P' : Permits} (h : E.Reached s₀ (Both P P') stage taken written s) :
    E.Reached s₀ P stage taken written s := h.mono fun _ _ _ _ => And.left

theorem sparing_encode (E : EncodeEngine σ) (s : σ) (input : Slice) (room : Nat) :
    E.sparing.call .encode s input room =
      if input.isEmpty || room = 0 then (.ok .idle, s) else E.call .encode s input room := rfl

theorem sparing_finish (E : EncodeEngine σ) (s : σ) (input : Slice) (room : Nat) :
    E.sparing.call .finish s input room =
      if room = 0 then (.ok .idle, s) else E.call .finish s input room := rfl

theorem not_spared {input : Slice} {room : Nat} :
    ¬ (input.isEmpty || room = 0) = true ↔ 0 < input.toBytes.size ∧ 0 < room := by
  rw [Bool.or_eq_true, Slice.isEmpty_iff_toBytes, decide_eq_true_eq]
  omega

/-- The spared engine itself has taken and written what the engine around it has. -/
theorem reached_of_sparing (h : E.sparing.Reached s₀ (Offers Q) stage taken written s) :
    ∃ inner : Stage, inner.Within stage ∧
      E.Reached s₀ (Both Filled (Offers Q)) inner taken written s := by
  induction h with
  | fresh => exact ⟨.feeding, .refl _, .fresh⟩
  | @call stage taken written s s' request input room step before hallows hoffers hcall hwithin
    ih =>
    obtain ⟨inner, hinner, hreach⟩ := ih
    cases request with
    | encode =>
      rw [sparing_encode] at hcall
      by_cases hspared : (input.isEmpty || room = 0) = true
      · rw [if_pos hspared] at hcall
        cases hcall
        rw [Step.idle, Slice.take_zero, ByteArray.append_empty, ByteArray.append_empty]
        cases Stage.eq_feeding hallows
        exact ⟨inner, hinner, hreach⟩
      · rw [if_neg hspared] at hcall
        exact ⟨_, .refl _, .call hreach (hinner.allows hallows)
          ⟨not_spared.mp hspared, hoffers⟩ hcall hwithin⟩
    | finish =>
      rw [sparing_finish] at hcall
      by_cases hspared : room = 0
      · rw [if_pos hspared] at hcall
        cases hcall
        rw [Step.idle, Slice.take_zero, ByteArray.append_empty, ByteArray.append_empty]
        exact ⟨inner, hinner.closing hallows, hreach⟩
      · rw [if_neg hspared] at hcall
        exact ⟨_, .refl _, .call hreach (hinner.allows hallows)
          ⟨Nat.pos_of_ne_zero hspared, hoffers⟩ hcall hwithin⟩

theorem moves_idle_encode {input : Slice} {room : Nat} (h : input.size = 0 ∨ room = 0) :
    Step.idle.Moves input room .encode := by
  intro hinput hroom
  omega

theorem moves_idle_finish (input : Slice) : Step.idle.Moves input 0 .finish :=
  ⟨Bool.noConfusion, fun _ hroom => absurd hroom (Nat.lt_irrefl 0)⟩

/-- What is asked of steps, so that an adapter can keep calls from an engine: standing still is good
enough where nothing can be moved, the end only counts for a call to finish, and such a call may be
one to encode while there is input. -/
structure Lenient (M : Slice → Nat → Step → Request → Prop) : Prop where
  idle_encode : ∀ {input room}, input.size = 0 ∨ room = 0 → M input room .idle .encode
  idle_finish : ∀ input, M input 0 .idle .finish
  openEnded : ∀ {input room step}, M input room step .encode →
    M input room { step with done := false } .encode
  inputFirst : ∀ {input : Slice} {room step}, 0 < input.size → M input room step .encode →
    M input room { step with done := false } .finish

theorem lenient_moves : Lenient Step.Moves where
  idle_encode := moves_idle_encode
  idle_finish := moves_idle_finish
  openEnded := id
  inputFirst := fun hinput hmoves => ⟨Bool.noConfusion, fun _ => hmoves hinput⟩

theorem lenient_advances : Lenient Step.Advances where
  idle_encode := fun h => (moves_idle_encode h).advances
  idle_finish := fun input => (moves_idle_finish input).advances
  openEnded := id
  inputFirst := fun hinput hmoves _ => hmoves hinput

/-- An engine follows a grammar when another one does that has taken and written the same, and its
calls succeed. -/
theorem Follows.of_inner {F : EncodeEngine σ} {P' : Permits}
    (h : E.Follows s₀ P G)
    (hreached : ∀ {stage taken written s}, F.Reached s₀ P' stage taken written s →
      ∃ inner : Stage, inner.Within stage ∧ E.Reached s₀ P inner taken written s)
    (hanswers : F.Answers s₀ P' Step.Moves) : F.Follows s₀ P' G where
  answers := fun hreach hallows hpermits => hanswers hreach hallows hpermits
  bounded := by
    obtain ⟨bound, hbound⟩ := h.bounded
    refine ⟨bound, fun hreach => ?_⟩
    obtain ⟨inner, _, hreach⟩ := hreached hreach
    exact hbound hreach
  complete := by
    intro taken written s hreach
    obtain ⟨inner, hinner, hreach⟩ := hreached hreach
    obtain rfl | ⟨_, rest, hrest⟩ := hinner
    · exact h.complete hreach
    · cases hrest

theorem Answers.sparing (hM : Lenient M) (h : E.Answers s₀ Filled M) :
    E.sparing.Answers s₀ Any M := by
  intro stage taken written s request input room hreach hallows _
  obtain ⟨inner, hinner, hreach⟩ := reached_of_sparing hreach
  cases request with
  | encode =>
    rw [sparing_encode]
    by_cases hspared : (input.isEmpty || room = 0) = true
    · rw [if_pos hspared]
      refine ⟨.idle, s, rfl, ⟨Nat.zero_le _, Nat.zero_le _⟩, hM.idle_encode ?_⟩
      rw [Bool.or_eq_true, Slice.isEmpty_iff, decide_eq_true_eq] at hspared
      exact hspared
    · rw [if_neg hspared]
      exact h hreach.left (hinner.allows hallows) (not_spared.mp hspared)
  | finish =>
    rw [sparing_finish]
    by_cases hspared : room = 0
    · rw [if_pos hspared, hspared]
      exact ⟨.idle, s, rfl, ⟨Nat.zero_le _, Nat.zero_le _⟩, hM.idle_finish input⟩
    · rw [if_neg hspared]
      exact h hreach.left (hinner.allows hallows) (Nat.pos_of_ne_zero hspared)

theorem Follows.sparing (h : E.Follows s₀ Filled G) : E.sparing.Follows s₀ Any G :=
  h.of_inner (fun hreach => (reached_of_sparing hreach).imp fun _ => And.imp_right Reached.left)
    (h.moves.sparing lenient_moves)

theorem openEnded_encode_eq_ok {input : Slice} {room : Nat} {step : Step} {s s' : σ} :
    E.openEnded.call .encode s input room = (.ok step, s') ↔
      ∃ inner, E.call .encode s input room = (.ok inner, s') ∧
        step = { inner with done := false } := by
  rcases hcall : E.encode s input room with ⟨answer, s''⟩
  simp only [call, openEnded, hcall]
  cases answer with
  | ok inner =>
    constructor
    · intro h
      cases h
      exact ⟨inner, rfl, rfl⟩
    · rintro ⟨inner', hinner, rfl⟩
      cases hinner
      rfl
  | error e =>
    constructor
    · intro h
      cases h
    · rintro ⟨inner', hinner, rfl⟩
      cases hinner
  | trap t =>
    constructor
    · intro h
      cases h
    · rintro ⟨inner', hinner, rfl⟩
      cases hinner

theorem reached_of_openEnded (h : E.openEnded.Reached s₀ P stage taken written s) :
    E.Reached s₀ P stage taken written s := by
  induction h with
  | fresh => exact .fresh
  | @call stage taken written s s' request input room step _ hallows hpermits hcall hwithin ih =>
    cases request with
    | encode =>
      obtain ⟨inner, hinner, rfl⟩ := openEnded_encode_eq_ok.mp hcall
      have hnext := Reached.call ih hallows hpermits hinner hwithin
      exact hnext
    | finish => exact .call ih hallows hpermits hcall hwithin

theorem Answers.openEnded (hM : Lenient M) (h : E.Answers s₀ P M) :
    E.openEnded.Answers s₀ P M := by
  intro stage taken written s request input room hreach hallows hpermits
  obtain ⟨step, s', hcall, hwithin, hstep⟩ := h (reached_of_openEnded hreach) hallows hpermits
  cases request with
  | encode =>
    exact ⟨_, s', openEnded_encode_eq_ok.mpr ⟨step, hcall, rfl⟩, hwithin, hM.openEnded hstep⟩
  | finish => exact ⟨step, s', hcall, hwithin, hstep⟩

theorem Follows.openEnded (h : E.Follows s₀ P G) : E.openEnded.Follows s₀ P G :=
  h.of_inner (fun hreach => ⟨_, .refl _, reached_of_openEnded hreach⟩)
    (h.moves.openEnded lenient_moves)

theorem inputFirst_finish (E : EncodeEngine σ) (s : σ) (input : Slice) (room : Nat) :
    E.inputFirst.call .finish s input room =
      if input.isEmpty then E.call .finish s input room else E.call .encode s input room := rfl

/-- An engine that is asked to finish only without input has no input left then. -/
theorem size_closing {rest : ByteArray} (h : E.Reached s₀ Emptied (.closing rest) taken written s) :
    rest.size = 0 := by
  generalize hstage : Stage.closing rest = stage at h
  cases h with
  | fresh => cases hstage
  | @call _ _ _ _ _ request input room step before hallows hpermits hcall hwithin =>
    cases request with
    | encode => cases hstage
    | finish =>
      have hempty : input.size = 0 := (Slice.size_toBytes input).symm.trans hpermits
      unfold Stage.after at hstage
      simp only at hstage
      split at hstage
      · cases hstage
      · rw [Stage.closing.inj hstage, Slice.size_toBytes, Slice.size_drop, hempty, Nat.zero_sub]

/-- While there is input left, such an engine has not been asked to finish. -/
theorem eq_feeding_of_input {inner : Stage} {input : Slice} (hinner : inner.Within stage)
    (hreach : E.Reached s₀ Emptied inner taken written s)
    (hallows : stage.Allows .finish input.toBytes)
    (hinput : ¬ input.isEmpty = true) : inner = .feeding := by
  obtain h | ⟨h, _⟩ := hinner.closing hallows
  · subst h
    have hnone := size_closing hreach
    rw [Slice.size_toBytes] at hnone
    exact absurd (Slice.isEmpty_iff.mpr hnone) hinput
  · exact h

/-- What is offered to be finished may be offered to be encoded first. -/
theorem reached_of_inputFirst (hQ : ∀ b, Q .finish b → Q .encode b)
    (h : E.openEnded.inputFirst.Reached s₀ (Offers Q) stage taken written s) :
    ∃ inner : Stage, inner.Within stage ∧
      E.Reached s₀ (Both Emptied (Offers Q)) inner taken written s := by
  induction h with
  | fresh => exact ⟨.feeding, .refl _, .fresh⟩
  | @call stage taken written s s' request input room step before hallows hoffers hcall hwithin
    ih =>
    obtain ⟨inner, hinner, hreach⟩ := ih
    cases request with
    | encode =>
      obtain ⟨step, hencode, rfl⟩ := openEnded_encode_eq_ok.mp hcall
      have hnext := Reached.call hreach (hinner.allows hallows) ⟨trivial, hoffers⟩ hencode hwithin
      exact ⟨.feeding, .refl _, hnext⟩
    | finish =>
      rw [inputFirst_finish] at hcall
      by_cases hempty : input.isEmpty = true
      · rw [if_pos hempty] at hcall
        exact ⟨_, .refl _, .call hreach (hinner.allows hallows)
          ⟨Slice.isEmpty_iff_toBytes.mp hempty, hoffers⟩ hcall hwithin⟩
      · rw [if_neg hempty] at hcall
        obtain ⟨step, hencode, rfl⟩ := openEnded_encode_eq_ok.mp hcall
        cases eq_feeding_of_input hinner hreach.left hallows hempty
        have hpermits : Both Emptied (Offers Q) .encode taken input.toBytes room :=
          ⟨trivial, hQ _ hoffers⟩
        have hnext := Reached.call hreach trivial hpermits hencode hwithin
        exact ⟨.feeding, .inr ⟨rfl, _, rfl⟩, hnext⟩

theorem Answers.inputFirst (hM : Lenient M) (h : E.Answers s₀ Emptied M) :
    E.openEnded.inputFirst.Answers s₀ Any M := by
  intro stage taken written s request input room hreach hallows _
  obtain ⟨inner, hinner, hreach⟩ := reached_of_inputFirst (fun _ => id) hreach
  cases request with
  | encode =>
    obtain ⟨step, s', hcall, hwithin, hstep⟩ := h hreach.left (hinner.allows hallows) trivial
    exact ⟨_, s', openEnded_encode_eq_ok.mpr ⟨step, hcall, rfl⟩, hwithin, hM.openEnded hstep⟩
  | finish =>
    rw [inputFirst_finish]
    by_cases hempty : input.isEmpty = true
    · rw [if_pos hempty]
      exact h hreach.left (hinner.allows hallows) (Slice.isEmpty_iff_toBytes.mp hempty)
    · rw [if_neg hempty]
      have hinput : 0 < input.size := Nat.pos_of_ne_zero (mt Slice.isEmpty_iff.mpr hempty)
      cases eq_feeding_of_input hinner hreach.left hallows hempty
      have hpermits : Emptied .encode taken input.toBytes room := trivial
      obtain ⟨step, s', hcall, hwithin, hstep⟩ := h hreach.left trivial hpermits
      exact ⟨_, s', openEnded_encode_eq_ok.mpr ⟨step, hcall, rfl⟩, hwithin,
        hM.inputFirst hinput hstep⟩

theorem Follows.inputFirst (h : E.Follows s₀ Emptied G) :
    E.openEnded.inputFirst.Follows s₀ Any G :=
  h.of_inner
    (fun hreach =>
      (reached_of_inputFirst (fun _ => id) hreach).imp fun _ => And.imp_right Reached.left)
    (h.moves.inputFirst lenient_moves)

end StreamCodec.EncodeEngine
