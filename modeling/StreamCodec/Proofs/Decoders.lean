import StreamCodec.Adapter
import StreamCodec.Proofs.Gzip.Unpacking

/-!
The decoders of all formats follow their grammars when the native decoders follow theirs. What
a native decoder may be offered is part of its contract.
-/

namespace StreamCodec

/-- The windows that the native decoder of a format is offered: that of bzip2 is called with
room only. -/
def Codec.Fits : Codec → (room : Nat) → Prop
  | .bzip2, room => 0 < room
  | .deflate, _ | .zlib, _ | .gzip, _ | .lzma, _ | .brotli, _ | .zstd, _ => True

/-- The grammar of a format over that of its native decoder, which for gzip decodes raw DEFLATE. -/
def Codec.framed : Codec → Grammar → Grammar
  | .gzip, D => Gzip.member D
  | .deflate, G | .zlib, G | .bzip2, G | .lzma, G | .brotli, G | .zstd, G => G

theorem Refusal.whileDecoding_ne_ok (codec : Codec) (r : Refusal) (step : Step) :
    r.whileDecoding codec ≠ .ok step := by
  cases codec <;> cases r <;> exact fun h => nomatch h

/-- A step of the engine is a step of the native decoder. -/
theorem NativeDecoder.engine_eq_ok {N : NativeDecoder} {codec : Codec} {s s' : N.State}
    {input : Slice} {room : Nat} {step : Step} :
    (N.engine codec).decode s input room = (.ok step, s') ↔
    N.run s input room = (.ok step, s') := by
  simp only [NativeDecoder.engine]
  rcases N.run s input room with ⟨answer, t⟩
  cases answer with
  | ok step' => simp only [Answer.outcome, Prod.mk.injEq, Outcome.ok.injEq, Except.ok.injEq]
  | error r =>
    simp only [Answer.outcome, Prod.mk.injEq, reduceCtorEq, false_and, iff_false, not_and]
    exact fun h => absurd h (r.whileDecoding_ne_ok codec step)

/-- Where the engine fails, the native decoder has refused the call. -/
theorem NativeDecoder.exists_of_error {N : NativeDecoder} {codec : Codec} {s s' : N.State}
    {input : Slice} {room : Nat} {e : Error}
    (h : (N.engine codec).decode s input room = (.error e, s')) :
    ∃ r, N.run s input room = (.error r, s') ∧ r.whileDecoding codec = .error e := by
  simp only [NativeDecoder.engine] at h
  rcases hrun : N.run s input room with ⟨answer, t⟩
  rw [hrun] at h
  cases answer with
  | ok step => cases h
  | error r =>
    obtain ⟨hrefusal, rfl⟩ := Prod.mk.inj h
    exact ⟨r, rfl, hrefusal⟩

/-- Offered bytes of `P` only, the native decoder of a format keeps to a grammar: its verdict, its
output and the place of the end are those of the byte stream, and only for want of input does it
stand still. -/
def NativeDecoder.FollowsOn (N : NativeDecoder) (codec : Codec) (P : ByteArray → Prop)
    (G : Grammar) : Prop :=
  (N.engine codec).Follows N.fresh (fun b room => P b ∧ codec.Fits room) G fun _ => False

def NativeDecoder.Follows (N : NativeDecoder) (codec : Codec) (G : Grammar) : Prop :=
  N.FollowsOn codec (fun _ => True) G

/-- Offered bytes of `P` only, the native decoder moves a byte in the call that ends the stream, if
it has room. -/
def NativeDecoder.EndsMovingOn (N : NativeDecoder) (codec : Codec) (P : ByteArray → Prop) : Prop :=
  (N.engine codec).EndsMoving N.fresh fun b room => P b ∧ codec.Fits room

def NativeDecoder.EndsMoving (N : NativeDecoder) (codec : Codec) : Prop :=
  N.EndsMovingOn codec fun _ => True

theorem NativeDecoder.Follows.on {N : NativeDecoder} {codec : Codec} {G : Grammar}
    (h : N.Follows codec G) (P : ByteArray → Prop) : N.FollowsOn codec P G :=
  DecodeEngine.Follows.mono h fun _ _ => And.imp_left fun _ => trivial

theorem NativeDecoder.EndsMoving.on {N : NativeDecoder} {codec : Codec} (h : N.EndsMoving codec)
    (P : ByteArray → Prop) : N.EndsMovingOn codec P :=
  DecodeEngine.EndsMoving.mono h fun _ _ => And.imp_left fun _ => trivial

/-- Offered `b`, the decoder of a format offers its native decoder only bytes of `P`. -/
def Codec.Hands : Codec → (P : ByteArray → Prop) → (b : ByteArray) → Prop
  | .gzip, P, b => Gzip.Header.Before P b
  | .deflate, P, b | .zlib, P, b | .bzip2, P, b | .lzma, P, b | .brotli, P, b | .zstd, P, b => P b

namespace DecodeEngine

variable {σ : Type} {E : DecodeEngine σ} {s₀ : σ} {P : ByteArray → Prop} {G : Grammar}
  {Late : σ → Prop}

theorem sparing_decode (E : DecodeEngine σ) (s : σ) (input : Slice) (room : Nat) :
    E.sparing.decode s input room =
      if room = 0 then (.ok .idle, s) else E.decode s input room := rfl

/-- The spared engine is idle, or has room and does as the engine. -/
theorem sparing_cases {s s' : σ} {input : Slice} {room : Nat} {answer : Outcome Step}
    (h : E.sparing.decode s input room = (answer, s')) :
    (answer = .ok .idle ∧ s' = s) ∨ (0 < room ∧ E.decode s input room = (answer, s')) := by
  rw [sparing_decode] at h
  by_cases hroom : room = 0
  · rw [if_pos hroom] at h
    cases h
    exact .inl ⟨rfl, rfl⟩
  · rw [if_neg hroom] at h
    exact .inr ⟨Nat.pos_of_ne_zero hroom, h⟩

/-- What the spared engine has read and written, the engine itself has. -/
theorem reached_of_sparing {ended : Bool} {read written : ByteArray} {s : σ}
    (h : E.sparing.Reached s₀ (fun b _ => P b) ended read written s) :
    E.Reached s₀ (fun b room => P b ∧ 0 < room) ended read written s := by
  induction h with
  | fresh => exact .fresh
  | @step read written s s' input room step _ hoffered call ih =>
    obtain ⟨hidle, rfl⟩ | ⟨hroom, hcall⟩ := sparing_cases call
    · cases hidle
      rw [Step.idle, Slice.take_zero, ByteArray.append_empty, ByteArray.append_empty]
      exact ih
    · exact .step ih ⟨hoffered, hroom⟩ hcall

theorem reached_of_sparing_any {ended : Bool} {read written : ByteArray} {s : σ}
    (h : E.sparing.Reached s₀ (fun _ _ => True) ended read written s) :
    E.Reached s₀ (fun _ room => 0 < room) ended read written s :=
  (reached_of_sparing (P := fun _ => True) h).mono fun _ _ => And.right

theorem Follows.sparing (h : E.Follows s₀ (fun b room => P b ∧ 0 < room) G Late) :
    E.sparing.Follows s₀ (fun b _ => P b) G Late := by
  intro read written s input room hreach hoffered
  have hreach := reached_of_sparing hreach
  rw [sparing_decode]
  by_cases hroom : room = 0
  · rw [if_pos hroom]
    obtain ⟨owed, howed⟩ := h.written hreach
    refine ⟨⟨⟨Nat.zero_le _, Nat.zero_le _⟩, ⟨owed, ?_⟩, Bool.noConfusion, ?_⟩, id⟩
    · rw [Step.idle, Slice.take_zero, ByteArray.append_empty, ByteArray.append_empty, howed]
    · intro _ hpos
      omega
  · rw [if_neg hroom]
    exact h read written s input room hreach ⟨hoffered, Nat.pos_of_ne_zero hroom⟩

end DecodeEngine

theorem Gzip.Decoder.late_eq {σ : Type} {E : DecodeEngine σ} {s₀ : σ} {P : ByteArray → Prop}
    (h : E.EndsMoving s₀ fun b _ => P b) : Late E s₀ P = fun _ => False := by
  funext s
  unfold Late
  split
  · rfl
  · rfl
  · exact eq_false (not_not_intro h)
  · exact eq_false (not_not_intro h)

section

variable {codec : Codec} {N : NativeDecoder} {P : ByteArray → Prop} {G : Grammar}

/-- The decoder of gzip over a native decoder that keeps to a grammar. One step at the end may be
late. -/
theorem gzip_followsOn (hN : N.FollowsOn .gzip P G) :
    (decodeEngine .gzip N).Follows (newDecoder .gzip N) (fun b _ => Codec.gzip.Hands P b)
      (Codec.gzip.framed G) (Gzip.Decoder.Late (N.engine .gzip) N.fresh P) :=
  Gzip.Decoder.follows (DecodeEngine.Follows.mono hN fun _ _ h => ⟨h, trivial⟩) rfl

/-- The decoder of a format over a native decoder that keeps to a grammar. -/
theorem decodeEngine_followsOn (hN : N.FollowsOn codec P G)
    (hmoves : codec = .gzip → N.EndsMovingOn codec P) :
    (decodeEngine codec N).Follows (newDecoder codec N) (fun b _ => codec.Hands P b)
      (codec.framed G) fun _ => False := by
  have hplain (h : ∀ room, codec.Fits room) :
      (N.engine codec).Follows N.fresh (fun b _ => P b) G fun _ => False :=
    DecodeEngine.Follows.mono hN fun _ _ hoffered => ⟨hoffered, h _⟩
  cases codec with
  | gzip =>
    have hfollows := gzip_followsOn hN
    rw [Gzip.Decoder.late_eq ((hmoves rfl).mono fun _ _ h => ⟨h, trivial⟩)] at hfollows
    exact hfollows
  | bzip2 => exact DecodeEngine.Follows.sparing hN
  | deflate | zlib | lzma | brotli | zstd => exact hplain fun _ => trivial

theorem Codec.hands_of_forall (codec : Codec) (h : ∀ b, P b) (b : ByteArray) : codec.Hands P b := by
  cases codec with
  | gzip => exact fun _ body _ _ => h body
  | deflate | zlib | bzip2 | lzma | brotli | zstd => exact h b

theorem decodeEngine_follows (hN : N.Follows codec G)
    (hmoves : codec = .gzip → N.EndsMoving codec) :
    (decodeEngine codec N).Follows (newDecoder codec N) (fun _ _ => True)
      (codec.framed G) fun _ => False :=
  (decodeEngine_followsOn hN hmoves).mono fun b _ _ => codec.hands_of_forall (fun _ => trivial) b

end

theorem codec_decodeEngine (codec : Codec) (N : NativeDecoder) :
    (decodeEngine codec N).codec = codec := by
  cases codec <;> rfl

end StreamCodec
