import StreamCodec.Deflate.Encoder
import StreamCodec.Proofs.Recording

/-!
The encoders that gather their input and pack it all at the end. They take every input, and
what they have written at the end is what packing makes of it, so they write streams of a
grammar when packing does.
-/

namespace StreamCodec

open EncodeEngine

namespace Deflate.Encoder

abbrev packing (pack : ByteArray → ByteArray) : NativeEncoder :=
  { State := Buffered, fresh := .empty, run, finish := finish pack }

variable {pack : ByteArray → ByteArray} {codec : Codec} {Q : Request → ByteArray → Prop}
  {stage : Stage}
  {s s' : Buffered} {taken written : ByteArray} {input : Slice} {room : Nat} {step : Step}

/-- How the engine stands that has taken `taken` and written `written`: it gathers, or it hands out
what the whole of it was packed to. -/
inductive Packs (pack : ByteArray → ByteArray) :
    Stage → Buffered → (taken written : ByteArray) → Prop
  | gathering {stage : Stage} {taken : ByteArray} (hstage : stage ≠ .ended) :
    Packs pack stage (.gathering taken) taken ByteArray.empty
  | sealed {stage : Stage} {owed : Slice} {taken written : ByteArray}
      (hstage : stage = if owed.isEmpty then .ended else .closing ByteArray.empty)
      (hsplit : written ++ owed.toBytes = pack taken) :
    Packs pack stage (.sealed owed) taken written

theorem Packs.encode (h : Packs pack stage s taken written) (codec : Codec)
    (hallows : stage.Allows .encode input.toBytes) (room : Nat) :
    ∃ step s', ((packing pack).engine codec).encode s input room = (.ok step, s') ∧
      step.Within input.size room ∧
      step.Moves input room .encode ∧
      Packs pack (Stage.after input step .encode) s' (taken ++ input.take step.consumed)
        (written ++ step.output) := by
  cases Stage.eq_feeding hallows
  cases h with
  | sealed hstage => split at hstage <;> cases hstage
  | @gathering taken hstage =>
    by_cases hroom : room = 0
    · refine ⟨.idle, .gathering taken, ?_, ⟨Nat.zero_le _, Nat.zero_le _⟩,
        moves_idle_encode (.inr hroom), ?_⟩
      · simp only [NativeEncoder.engine, run, if_pos hroom]
        rfl
      · rw [Step.idle, Slice.take_zero, ByteArray.append_empty, ByteArray.append_empty]
        exact .gathering hstage
    · refine ⟨.progress input.size ByteArray.empty, .gathering (taken ++ input.toBytes), ?_,
        ⟨Nat.le_refl _, Nat.zero_le _⟩, ?_, ?_⟩
      · simp only [NativeEncoder.engine, run, if_neg hroom]
        rfl
      · intro hinput _
        exact Step.isIdle_eq_false.mpr (.inl hinput)
      · rw [Step.progress, Slice.take_of_size_le (Nat.le_refl _), ByteArray.append_empty]
        exact .gathering hstage

/-- A step that hands out what is owed, behind all of the input. -/
theorem Packs.handOut (owed : Slice) (room : Nat)
    (hsplit : written ++ owed.toBytes = pack (taken ++ input.toBytes))
    (hstep : step =
      { consumed := input.size, output := owed.take room,
        done := (owed.drop (owed.take room).size).isEmpty }) :
    step.Within input.size room ∧ step.Moves input room .finish ∧
      Packs pack (Stage.after input step .finish) (.sealed (owed.drop (owed.take room).size))
        (taken ++ input.take step.consumed) (written ++ step.output) := by
  subst hstep
  refine ⟨⟨Nat.le_refl _, Slice.size_take_le _ _⟩, ⟨fun _ => rfl, ?_⟩, .sealed ?_ ?_⟩
  · intro hdone hroom
    exact Step.isIdle_eq_false.mpr
      (.inr (Nat.lt_of_lt_of_eq hroom (Slice.size_take_of_rest hdone).symm))
  · rw [Stage.after, Slice.toBytes_of_size_eq_zero (by rw [Slice.size_drop, Nat.sub_self])]
  · rw [ByteArray.append_assoc, Slice.take_append_rest, hsplit,
      Slice.take_of_size_le (Nat.le_refl _)]

theorem Packs.finish (h : Packs pack stage s taken written) (codec : Codec)
    (hallows : stage.Allows .finish input.toBytes) (room : Nat) :
    ∃ step s', ((packing pack).engine codec).finish s input room = (.ok step, s') ∧
      step.Within input.size room ∧
      step.Moves input room .finish ∧
      Packs pack (Stage.after input step .finish) s' (taken ++ input.take step.consumed)
        (written ++ step.output) := by
  cases h with
  | @gathering taken hstage =>
    by_cases hroom : room = 0
    · subst hroom
      refine ⟨.idle, .gathering taken, rfl, ⟨Nat.zero_le _, Nat.zero_le _⟩,
        moves_idle_finish input, ?_⟩
      rw [Step.idle, Slice.take_zero, ByteArray.append_empty, ByteArray.append_empty]
      exact .gathering fun h => by cases h
    · refine ⟨_, _, ?_, Packs.handOut { bytes := pack (taken ++ input.toBytes) } room ?_ rfl⟩
      · simp only [NativeEncoder.engine, Deflate.Encoder.finish, if_neg hroom]
        rfl
      · rw [ByteArray.empty_append, Slice.toBytes_mk]
  | @sealed owed _ _ hstage hsplit =>
    subst hstage
    obtain ⟨hleft, hinput⟩ := Stage.size_of_owing hallows
    have hnone : input.toBytes = ByteArray.empty := Slice.toBytes_of_size_eq_zero hinput
    by_cases hroom : room = 0
    · subst hroom
      refine ⟨.idle, .sealed owed, rfl, ⟨Nat.zero_le _, Nat.zero_le _⟩, moves_idle_finish input, ?_⟩
      rw [Step.idle, Slice.take_zero, ByteArray.append_empty, ByteArray.append_empty]
      refine .sealed ?_ hsplit
      rw [hleft, if_neg Bool.false_ne_true]
      exact congrArg Stage.closing hnone
    · refine ⟨_, _, ?_, Packs.handOut owed room ?_ rfl⟩
      · simp only [NativeEncoder.engine, Deflate.Encoder.finish, if_neg hroom, hinput]
        rfl
      · rw [hnone, ByteArray.append_empty]
        exact hsplit

theorem Packs.call (h : Packs pack stage s taken written) (codec : Codec) {request : Request}
    (hallows : stage.Allows request input.toBytes) (room : Nat) :
    ∃ step s', ((packing pack).engine codec).call request s input room = (.ok step, s') ∧
      step.Within input.size room ∧ step.Moves input room request ∧
      Packs pack (Stage.after input step request) s' (taken ++ input.take step.consumed)
        (written ++ step.output) := by
  cases request with
  | encode => exact h.encode codec hallows room
  | finish => exact h.finish codec hallows room

theorem packs_of_reached {P : Permits}
    (h : ((packing pack).engine codec).Reached Buffered.empty P stage taken written s) :
    Packs pack stage s taken written := by
  induction h with
  | fresh => exact .gathering fun h => by cases h
  | call before hallows hpermits hcall hwithin ih =>
    obtain ⟨step', s'', hcall', -, -, hnext⟩ := ih.call codec hallows _
    cases hcall.symm.trans hcall'
    exact hnext

theorem packing_endsTaken (pack : ByteArray → ByteArray) (codec : Codec) :
    (packing pack).EndsTaken codec := by
  intro stage taken written s input room step s' hreach hallows hcall hdone
  obtain ⟨step', s'', hcall', -, hmoves, -⟩ := (packs_of_reached hreach).finish codec hallows room
  cases hcall.symm.trans hcall'
  exact hmoves.1 hdone

theorem Packs.size_le (h : Packs pack stage s taken written) :
    written.size ≤ (pack taken).size := by
  cases h with
  | gathering => exact Nat.zero_le _
  | sealed hstage hsplit =>
    rw [← hsplit, ByteArray.size_append]
    omega

/-- Packing into streams of a grammar makes an encoder that writes them. -/
theorem packing_follows {G : Grammar}
    (hpack : ∀ b, G.verdict (pack b) = .complete (pack b).size ∧ G.plain (pack b) = b)
    (P : Permits) :
    ((packing pack).engine codec).Follows Buffered.empty P G where
  answers := by
    intro stage taken written s request input room hreach hallows hpermits
    obtain ⟨step, s', hcall, hwithin, hmoves, -⟩ :=
      (packs_of_reached hreach).call codec hallows room
    exact ⟨step, s', hcall, hwithin, hmoves⟩
  bounded := ⟨fun taken => (pack taken).size, fun hreach => (packs_of_reached hreach).size_le⟩
  complete := by
    intro taken written s hreach
    cases packs_of_reached hreach with
    | gathering hstage => exact absurd rfl hstage
    | @sealed owed _ _ hstage hsplit =>
      have hnone : owed.toBytes = ByteArray.empty := by
        split at hstage
        · next hempty => exact Slice.toBytes_of_size_eq_zero (Slice.isEmpty_iff.mp hempty)
        · cases hstage
      rw [hnone, ByteArray.append_empty] at hsplit
      rw [hsplit]
      exact hpack taken

end Deflate.Encoder

end StreamCodec
