import StreamCodec.Proofs.Adapting
import StreamCodec.Proofs.Decoders
import StreamCodec.Proofs.Gzip.Packing

/-!
The encoders of all formats write streams of their grammars when the native encoders do. What
calls a native encoder gets is part of its contract.
-/

namespace StreamCodec

open EncodeEngine

/-- The calls that the native encoder of a format gets: that of bzip2 is called with room only, and
that of zstd is asked to finish when there is no more input. -/
def Codec.Permits : Codec → EncodeEngine.Permits
  | .bzip2 => Filled
  | .zstd => Emptied
  | .deflate | .zlib | .gzip | .lzma | .brotli => Any

/-- The format that the native encoder of a format goes by. -/
def Codec.inner : Codec → Codec
  | .gzip | .deflate => .deflate
  | .zlib => .zlib
  | .bzip2 => .bzip2
  | .lzma => .lzma
  | .brotli => .brotli
  | .zstd => .zstd

/-- The native encoder of a format keeps to a grammar: what it has written at its end is a stream of
what it has taken, it owes only so much for what it has taken, and it moves a byte when it could. -/
def NativeEncoder.Follows (N : NativeEncoder) (codec : Codec) (G : Grammar) : Prop :=
  (N.engine codec.inner).Follows N.fresh codec.Permits G

/-- The native encoder of a format answers every call that it gets: it keeps within what it is
offered, and moves a byte when it could. -/
def NativeEncoder.Answers (N : NativeEncoder) (codec : Codec) : Prop :=
  (N.engine codec.inner).Answers N.fresh codec.Permits Step.Advances

/-- The encoder of a format over a native encoder that answers. -/
theorem encodeEngine_answers {codec : Codec} {N : NativeEncoder} (hN : N.Answers codec)
    (level : Level) :
    (encodeEngine codec N).Answers (newEncoder codec N level) Any Step.Advances := by
  cases codec with
  | gzip => exact Gzip.Encoder.answers hN
  | bzip2 => exact EncodeEngine.Answers.sparing lenient_advances hN
  | brotli => exact EncodeEngine.Answers.openEnded lenient_advances hN
  | zstd => exact EncodeEngine.Answers.inputFirst lenient_advances hN
  | deflate | zlib | lzma => exact hN

/-- The encoder of a format over a native encoder that keeps to a grammar. -/
theorem encodeEngine_follows {codec : Codec} {N : NativeEncoder} {G : Grammar}
    (hN : N.Follows codec G) (level : Level) :
    (encodeEngine codec N).Follows (newEncoder codec N level) Any (codec.framed G) := by
  cases codec with
  | gzip => exact Gzip.Encoder.follows hN
  | bzip2 => exact EncodeEngine.Follows.sparing hN
  | brotli => exact EncodeEngine.Follows.openEnded hN
  | zstd => exact EncodeEngine.Follows.inputFirst hN
  | deflate | zlib | lzma => exact hN

/-- What the native encoder of a format may have written when it is at its end. -/
def NativeEncoder.Writes (N : NativeEncoder) (codec : Codec) (written : ByteArray) : Prop :=
  ∃ taken s, (N.engine codec.inner).Reached N.fresh codec.Permits .ended taken written s

/-- The fronts of streams of `W` that anything may stand behind. -/
def Along (W : ByteArray → Prop) (b : ByteArray) : Prop :=
  ∃ w, W w ∧ ∃ rest behind, b ++ rest = w ++ behind

/-- Along what the encoder of a format has written, the decoder of the format hands on only what its
native encoder has written. -/
theorem hands_of_reached {codec : Codec} {N : NativeEncoder} {level : Level}
    {taken packed : ByteArray} {s : EncoderState codec N}
    (h : (encodeEngine codec N).Reached (newEncoder codec N level) Any .ended taken packed s)
    {b rest behind : ByteArray} (hfront : b ++ rest = packed ++ behind) :
    codec.Hands (Along (N.Writes codec)) b := by
  cases codec with
  | gzip =>
    intro header body hwhole hb
    cases Gzip.Encoder.holds_of_reached h with
    | body hended => exact absurd rfl hended
    | @trailer _ _ _ _ sent _ written _ _ hbody =>
      rw [hb, ByteArray.append_assoc, ByteArray.append_assoc] at hfront
      obtain ⟨-, hbehind⟩ := hwhole.unique (Gzip.Header.whole_written level) hfront
      exact ⟨written, ⟨_, _, hbody⟩, rest, sent ++ behind, by rw [hbehind, ByteArray.append_assoc]⟩
  | bzip2 =>
    obtain ⟨inner, rfl | ⟨-, span, hspan⟩, hreach⟩ := reached_of_sparing h
    · exact ⟨packed, ⟨_, _, hreach.left⟩, rest, behind, hfront⟩
    · cases hspan
  | brotli => exact ⟨packed, ⟨_, _, reached_of_openEnded h⟩, rest, behind, hfront⟩
  | zstd =>
    obtain ⟨inner, rfl | ⟨-, span, hspan⟩, hreach⟩ := reached_of_inputFirst (fun _ => id) h
    · exact ⟨packed, ⟨_, _, hreach.left⟩, rest, behind, hfront⟩
    · cases hspan
  | deflate | zlib | lzma => exact ⟨packed, ⟨_, _, h⟩, rest, behind, hfront⟩

end StreamCodec
