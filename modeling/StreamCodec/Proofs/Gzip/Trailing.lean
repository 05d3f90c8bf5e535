import StreamCodec.Proofs.Carrying
import StreamCodec.Proofs.Gzip.Packing

/-!
A gzip encoder whose trailer waits for room. The body engine has reported its end by then and
is not asked to finish again, so whatever the encoder is offered from there on, none of it is
taken. Up to then the encoder takes all that it is offered before the trailer is set up.
-/

namespace StreamCodec.Gzip.Encoder

open EncodeEngine

variable {σ : Type} {E : EncodeEngine σ} {s₀ : σ} {s s' : Encoder σ} {left : Slice} {input : Slice}
  {room : Nat} {step : Step}

/-- The body has not ended, and there is no trailer. -/
structure Underway (E : EncodeEngine σ) (s₀ : σ) (s : Encoder σ) : Prop where
  trailer : s.trailer = none
  body : E.Before s₀ s.body

structure Waits (E : EncodeEngine σ) (s₀ : σ) (s : Encoder σ) (left : Slice) : Prop where
  trailer : s.trailer = some left
  header : s.header.size = 0
  body : E.Behind s₀ s.body
  size_le : left.size ≤ Tally.trailerSize

theorem underway_start (level : Level) : Underway E s₀ (start level s₀) := ⟨rfl, .fresh⟩

theorem Underway.encode (h : Underway E s₀ s) (hcall : s.encode E input room = (.ok step, s')) :
    Underway E s₀ s' := by
  cases hleft : (s.behindHead room).isEmpty with
  | false =>
    rw [encode_of_header hleft] at hcall
    cases hcall
    exact ⟨h.trailer, h.body⟩
  | true =>
    rw [encode_of_body E input hleft] at hcall
    rcases hbody : E.call .encode s.body input (room - (s.head room).size) with ⟨answer, body⟩
    rw [hbody] at hcall
    cases answer with
    | ok inner =>
      cases hcall
      exact ⟨h.trailer, .call h.body hbody rfl⟩
    | error e => cases hcall
    | trap t => cases hcall

/-- A trailer that is handed out in part is still one that waits. -/
theorem Waits.putTrailer {consumed : Nat} {out : ByteArray} (hheader : s.header.size = 0)
    (hbody : E.Behind s₀ s.body) (hsize : left.size ≤ Tally.trailerSize)
    (hcall : s.putTrailer consumed out left room = (.ok step, s')) :
    Waits E s₀ s' (left.drop (left.take (room - out.size)).size) := by
  obtain ⟨-, -, -, rfl⟩ := putTrailer_eq_ok hcall
  refine ⟨rfl, hheader, hbody, ?_⟩
  rw [Slice.size_drop]
  omega

/-- The trailer is set up by the step that takes all the rest of the input. -/
theorem Underway.finish (hE : E.Carries s₀) (h : Underway E s₀ s)
    (hcall : s.finish E input room = (.ok step, s')) :
    (Underway E s₀ s' ∧ step.done = false) ∨
      ((∃ left, Waits E s₀ s' left) ∧ step.consumed = input.size) := by
  cases hleft : (s.behindHead room).isEmpty with
  | false =>
    rw [finish_of_header hleft] at hcall
    cases hcall
    exact .inl ⟨⟨h.trailer, h.body⟩, rfl⟩
  | true =>
    rw [finish_of_body E input hleft h.trailer] at hcall
    rcases hbody : E.call .finish s.body input (room - (s.head room).size) with ⟨answer, body⟩
    rw [hbody] at hcall
    cases answer with
    | ok inner =>
      cases hdone : inner.done with
      | true =>
        simp only [hdone, if_true] at hcall
        have hconsumed : step.consumed = inner.consumed := (putTrailer_eq_ok hcall).1
        have hsize :
            Slice.size { bytes := ((s.ahead room).putBody body input inner).tally.trailer } ≤
            Tally.trailerSize := Nat.le_of_eq (Tally.size_trailer _)
        have hwaits := Waits.putTrailer (s := (s.ahead room).putBody body input inner)
          (Slice.isEmpty_iff.mp hleft) (.ended h.body hbody hdone) hsize hcall
        exact .inr ⟨⟨_, hwaits⟩, hconsumed.trans (hE h.body hbody hdone)⟩
      | false =>
        simp only [hdone, if_neg Bool.false_ne_true] at hcall
        cases hcall
        exact .inl ⟨⟨h.trailer, .call h.body hbody hdone⟩, rfl⟩
    | error e => cases hcall
    | trap t => cases hcall

/-- While the trailer waits, an encoder that is fed stands still. -/
theorem Waits.encode (hE : E.RestsBehind s₀) (h : Waits E s₀ s left) (input : Slice) (room : Nat) :
    ∃ step s', s.encode E input room = (.ok step, s') ∧ step.isIdle = true ∧
      Waits E s₀ s' left := by
  obtain ⟨hnone, hleft⟩ := behindHead_of_size_eq_zero h.header room
  obtain ⟨inner, body, hbody, hidle⟩ := hE h.body .encode input (room - (s.head room).size)
  have hcall := encode_of_body E input hleft
  rw [hbody] at hcall
  refine ⟨_, _, hcall, ?_, h.trailer, Slice.isEmpty_iff.mp hleft, .later h.body hbody, h.size_le⟩
  rw [hnone, ByteArray.empty_append]
  exact hidle

/-- A finishing call then takes nothing either, and it is the last if there is room for what is
left. -/
theorem Waits.finish (h : Waits E s₀ s left) (input : Slice) (room : Nat) :
    ∃ step s', s.finish E input room = (.ok step, s') ∧ step.consumed = 0 ∧
      step.output.size ≤ room ∧ (∃ left', Waits E s₀ s' left') ∧
      (Tally.trailerSize ≤ room → step.done = true) := by
  obtain ⟨hnone, hbehind⟩ := behindHead_of_size_eq_zero h.header room
  have hcall : s.finish E input room = _ := finish_of_trailer hbehind h.trailer
  rw [hnone] at hcall
  have hput : (s.ahead room).putTrailer 0 ByteArray.empty left room = (.ok _, _) := rfl
  have hnext := Waits.putTrailer (s := s.ahead room) (Slice.isEmpty_iff.mp hbehind) h.body h.size_le
    hput
  refine ⟨_, _, hcall, rfl, ?_, ⟨_, hnext⟩, ?_⟩
  · rw [ByteArray.empty_append]
    exact Slice.size_take_le left room
  · intro hroom
    have hle := h.size_le
    refine Slice.isEmpty_iff.mpr ?_
    rw [Slice.size_drop, Slice.size_take, ByteArray.size_empty]
    omega

end StreamCodec.Gzip.Encoder
