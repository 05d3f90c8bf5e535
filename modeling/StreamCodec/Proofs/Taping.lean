import StreamCodec.Proofs.Closing
import StreamCodec.Proofs.Gzipping

/-!
The native encoder inside the encoder of a format. The encoder hands on to it what it is offered
itself, in calls that the native encoder of the format permits, and in the order that it gets its
own calls in. A native encoder that keeps a log shows every call.
-/

namespace StreamCodec

open EncodeEngine

namespace EncodeEngine

variable {σ τ : Type} {f : τ → σ} {F : EncodeEngine τ} {E : EncodeEngine σ}

theorem Mirrors.sparing (h : Mirrors f F E) : Mirrors f F.sparing E.sparing where
  codec := h.codec
  call := by
    intro request t input room
    cases request with
    | encode =>
      rw [sparing_encode, sparing_encode]
      split
      · rfl
      · exact h.call .encode t input room
    | finish =>
      rw [sparing_finish, sparing_finish]
      split
      · rfl
      · exact h.call .finish t input room

theorem Mirrors.openEnded (h : Mirrors f F E) : Mirrors f F.openEnded E.openEnded where
  codec := h.codec
  call := by
    intro request t input room
    have hcall := h.call request t input room
    cases request with
    | encode =>
      simp only [EncodeEngine.call, EncodeEngine.openEnded] at hcall ⊢
      rw [hcall]
      rcases F.encode t input room with ⟨answer, t'⟩
      cases answer <;> rfl
    | finish => exact hcall

theorem Mirrors.inputFirst (h : Mirrors f F E) : Mirrors f F.inputFirst E.inputFirst where
  codec := h.codec
  call := by
    intro request t input room
    cases request with
    | encode => exact h.call .encode t input room
    | finish =>
      simp only [EncodeEngine.call, EncodeEngine.inputFirst]
      split
      · exact h.call .finish t input room
      · exact h.call .encode t input room

/-- An engine answers when the one that it mirrors does. -/
theorem Mirrors.answers (h : Mirrors f F E) {t₀ : τ} {P : Permits}
    {M : Slice → Nat → Step → Request → Prop} (hE : E.Answers (f t₀) P M) : F.Answers t₀ P M := by
  intro stage taken written t request input room hreach hallows hpermits
  obtain ⟨step, s', hcall, hwithin, hstep⟩ := hE (hreach.map h) hallows hpermits
  rw [h.call] at hcall
  exact ⟨step, _, Prod.ext (Prod.mk.inj hcall).1 rfl, hwithin, hstep⟩

end EncodeEngine

/-- A call of a gzip encoder is handed on to the body engine, or the body stays as it is. -/
theorem Gzip.Encoder.body_of_call {σ : Type} {E : EncodeEngine σ} {request : Request}
    {s s' : Encoder σ} {input : Slice} {room : Nat} {step : Step}
    (h : (engine E).call request s input room = (.ok step, s')) :
    s'.body = s.body ∨ ∃ room' inner, E.call request s.body input room' = (.ok inner, s'.body) := by
  cases hleft : (s.behindHead room).isEmpty with
  | false =>
    cases request with
    | encode =>
      cases (encode_of_header hleft).symm.trans h
      exact .inl rfl
    | finish =>
      cases (finish_of_header hleft).symm.trans h
      exact .inl rfl
  | true =>
    cases request with
    | encode =>
      replace h := (encode_of_body E input hleft).symm.trans h
      rcases hcall : E.call .encode s.body input (room - (s.head room).size) with ⟨answer, body⟩
      rw [hcall] at h
      cases answer with
      | ok inner =>
        cases h
        exact .inr ⟨_, inner, hcall⟩
      | error e => cases h
      | trap t => cases h
    | finish =>
      cases htrailer : s.trailer with
      | some left =>
        cases (finish_of_trailer hleft htrailer).symm.trans h
        exact .inl rfl
      | none =>
        replace h := (finish_of_body E input hleft htrailer).symm.trans h
        rcases hcall : E.call .finish s.body input (room - (s.head room).size) with ⟨answer, body⟩
        rw [hcall] at h
        cases answer with
        | ok inner =>
          refine .inr ⟨_, inner, hcall.trans ?_⟩
          cases hdone : inner.done with
          | true =>
            simp only [hdone, if_true] at h
            obtain ⟨-, -, -, rfl⟩ := putTrailer_eq_ok h
            rfl
          | false =>
            simp only [hdone, if_neg Bool.false_ne_true] at h
            cases h
            rfl
        | error e => cases h
        | trap t => cases h

namespace EncoderState

variable {codec : Codec} {N : NativeEncoder}

def inside : (codec : Codec) → {N : NativeEncoder} → EncoderState codec N → N.State
  | .gzip, N, s =>
    let engine : Gzip.Encoder N.State := s
    engine.body
  | .deflate, _, s | .zlib, _, s | .bzip2, _, s | .lzma, _, s | .brotli, _, s | .zstd, _, s => s

def tape (codec : Codec) {N : NativeEncoder} (s : EncoderState codec N.recorded) : List Call :=
  let native : N.State × List Call := inside codec s
  native.2

def bare :
    (codec : Codec) → {N : NativeEncoder} → EncoderState codec N.recorded → EncoderState codec N
  | .gzip, _, s => Gzip.Encoder.map Prod.fst s
  | .deflate, _, s | .zlib, _, s | .bzip2, _, s | .lzma, _, s | .brotli, _, s | .zstd, _, s =>
    Prod.fst s

theorem bare_mirrors (codec : Codec) (N : NativeEncoder) :
    Mirrors (bare codec) (encodeEngine codec N.recorded) (encodeEngine codec N) := by
  cases codec with
  | gzip => exact RecordedSession.mirrors N
  | bzip2 => exact (N.recorded_mirrors .bzip2).sparing
  | brotli => exact (N.recorded_mirrors .brotli).openEnded
  | zstd => exact (N.recorded_mirrors .zstd).openEnded.inputFirst
  | deflate => exact N.recorded_mirrors .deflate
  | zlib => exact N.recorded_mirrors .zlib
  | lzma => exact N.recorded_mirrors .lzma

theorem bare_newEncoder (codec : Codec) (N : NativeEncoder) (level : Level) :
    bare codec (newEncoder codec N.recorded level) = newEncoder codec N level := by
  cases codec <;> rfl

/-- A call of the encoder is one call of the native encoder, with the same input, or none. -/
theorem tape_of_call {request : Request} {s s' : EncoderState codec N.recorded} {input : Slice}
    {room : Nat} {step : Step}
    (h : (encodeEngine codec N.recorded).call request s input room = (.ok step, s')) :
    tape codec s' = tape codec s ∨ ∃ c : Call, c.input = input.toBytes ∧
      tape codec s' = tape codec s ++ [c] := by
  have hhands {inner : Codec} {F : EncodeEngine (N.State × List Call)} {t t' : N.State × List Call}
      (hF : F.HandsOn (N.recorded.engine inner))
      (hcall : F.call request t input room = (.ok step, t')) :
      t'.2 = t.2 ∨ ∃ c : Call, c.input = input.toBytes ∧ t'.2 = t.2 ++ [c] := by
    obtain ⟨rfl, -⟩ | ⟨asked, answer, hinner, -, -⟩ := hF.call hcall
    · exact .inl rfl
    · exact .inr ⟨_, rfl, NativeEncoder.log_of_call hinner⟩
  cases codec with
  | gzip =>
    obtain hsame | ⟨room', inner, hcall⟩ := Gzip.Encoder.body_of_call h
    · exact .inl (congrArg Prod.snd hsame)
    · exact .inr ⟨_, rfl, NativeEncoder.log_of_call hcall⟩
  | bzip2 => exact hhands (sparing_handsOn _) h
  | brotli => exact hhands (openEnded_handsOn _) h
  | zstd => exact hhands (inputFirst_handsOn _) h
  | deflate | zlib | lzma => exact .inr ⟨_, rfl, NativeEncoder.log_of_call h⟩

/-- The native encoder has been driven by calls that it permits, and has taken what the encoder has.
It is not asked to finish before the encoder is. -/
theorem reached_inside {level : Level} {Q : Request → ByteArray → Prop} {stage : Stage}
    {taken written : ByteArray} {s : EncoderState codec N}
    (hQ : ∀ b, Q .finish b → Q .encode b)
    (h : (encodeEngine codec N).Reached (newEncoder codec N level)
      (Offers Q) stage taken written s) :
    ∃ inner body, (stage = .feeding → inner = .feeding) ∧ (N.engine codec.inner).Reached N.fresh
      (Both codec.Permits (Offers Q)) inner taken body (inside codec s) := by
  have hany {E : EncodeEngine N.State} {stage : Stage} {taken written : ByteArray} {s : N.State}
      (h : E.Reached N.fresh (Offers Q) stage taken written s) :
      E.Reached N.fresh (Both Any (Offers Q)) stage taken written s :=
    h.mono fun _ _ _ _ hoffers => ⟨trivial, hoffers⟩
  have hfeeding {inner : Stage} (hinner : inner.Within stage) (hfed : stage = .feeding) :
      inner = .feeding := (hfed ▸ hinner).eq_feeding
  cases codec with
  | gzip =>
    cases Gzip.Encoder.holds_of_reached h with
    | body _ hinner hbody => exact ⟨_, _, hfeeding hinner, hany hbody⟩
    | trailer hstage _ hbody =>
      refine ⟨_, _, fun hfed => ?_, hany hbody⟩
      rw [hfed] at hstage
      split at hstage <;> cases hstage
  | bzip2 =>
    obtain ⟨inner, hinner, hreach⟩ := reached_of_sparing h
    exact ⟨inner, _, hfeeding hinner, hreach⟩
  | brotli => exact ⟨_, _, id, hany (reached_of_openEnded h)⟩
  | zstd =>
    obtain ⟨inner, hinner, hreach⟩ := reached_of_inputFirst hQ h
    exact ⟨inner, _, hfeeding hinner, hreach⟩
  | deflate | zlib | lzma => exact ⟨_, _, id, hany h⟩

/-- Once the body of a gzip encoder has been called, the header is out, and what the body has
written is behind it. -/
theorem written_behind_header {level : Level} {Q : Request → ByteArray → Prop} {stage : Stage}
    {taken written : ByteArray} {s : EncoderState .gzip N.recorded}
    (h : (encodeEngine .gzip N.recorded).Reached (newEncoder .gzip N.recorded level)
      (Offers Q) stage taken written s)
    (hcalled : tape .gzip s ≠ []) :
    ∃ body tail, written = Gzip.Header.written level ++ (body ++ tail) ∧ ∃ inner,
      (N.recorded.engine .deflate).Reached N.recorded.fresh (Offers Q) inner taken body
        (inside .gzip s) := by
  cases Gzip.Encoder.holds_of_reached h with
  | @body inner state rest sent _ body hstage hinner hbody hsplit hfresh =>
    refine ⟨body, ByteArray.empty, ?_, _, hbody⟩
    have hnone : rest.size = 0 := by
      by_contra hrest
      obtain ⟨-, -, -, rfl⟩ := hfresh (Nat.pos_of_ne_zero hrest)
      exact hcalled rfl
    rw [← hsplit, Slice.toBytes_of_size_eq_zero hnone, ByteArray.append_empty,
      ByteArray.append_empty]
  | @trailer state rest left behind sent _ body hstage hbehind hbody =>
    exact ⟨body, sent, rfl, _, hbody⟩

end EncoderState

end StreamCodec
