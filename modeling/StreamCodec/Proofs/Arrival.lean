import StreamCodec.Proofs.Dialect
import StreamCodec.Proofs.Extracting

/-!
Decompressing does not depend on how the bytes arrive. Whatever the pieces and the windows
are, a decompressor ends up where the grammar says, and so do any two of them.
-/

namespace StreamCodec.Decompressor

open BoundedCall Schedule

variable [Engines] {codec : Codec} {G : Grammar}

/-- Feeding a fresh decompressor ends with what the grammar makes of the joined pieces. -/
theorem feed_judged (hE : Follows codec (fun _ => True) G fun _ => False) (chunk : ChunkSize)
    {windows : Nat → Nat} (hw : ∀ i, ∃ k, 0 < windows (i + k)) (pieces : List ByteArray) :
    ∃ answer session i,
      feed decompressInto finished windows 0 (new codec chunk) pieces ByteArray.empty =
        some (answer, mk codec chunk session, i) ∧
      Decoder.Judged (engine codec) G (joined pieces) (answer, session, i) := by
  obtain ⟨⟨answer, session, i⟩, hfeed, hjudged⟩ := Decoder.feed_judged hE hw pieces fun _ _ _ =>
    trivial
  have hlift : feed decompressInto finished windows 0
      (mk codec chunk _) pieces ByteArray.empty = _ :=
    feed_lift (mk codec chunk) (decompressInto_mk codec chunk) hfeed
  exact ⟨answer, session, i, hlift, hjudged⟩

/-- Two schedules for the same bytes come to the same end: the same output or the same refusal, and
where there is no refusal, the same standing and the same count of bytes read. -/
theorem feed_eq_of_joined_eq (hN : (Engines.decoder codec).Follows codec G)
    (hmoves : codec = .gzip → (Engines.decoder codec).EndsMoving codec) (chunk chunk' : ChunkSize)
    {windows windows' : Nat → Nat} (hw : ∀ i, ∃ k, 0 < windows (i + k))
    (hw' : ∀ i, ∃ k, 0 < windows' (i + k)) {pieces pieces' : List ByteArray}
    (hsame : joined pieces = joined pieces') :
    ∃ answer d i d' i',
      feed decompressInto finished windows 0 (new codec chunk) pieces ByteArray.empty =
        some (answer, d, i) ∧
      feed decompressInto finished windows' 0 (new codec chunk') pieces' ByteArray.empty =
        some (answer, d', i') ∧
      ((∃ out, answer = .ok out ∧ d.finished = d'.finished ∧ d.stats.bytesIn = d'.stats.bytesIn) ∨
        ∃ m, answer = .error (.decode codec m)) := by
  have hE := decodeEngine_follows hN hmoves
  obtain ⟨answer, session, i, hfeed, hjudged⟩ := feed_judged hE chunk hw pieces
  obtain ⟨answer', session', i', hfeed', hjudged'⟩ := feed_judged hE chunk' hw' pieces'
  rw [← hsame] at hjudged'
  obtain ⟨hanswer, ⟨out, hok, hfinished, hstats⟩ | ⟨m, herror⟩⟩ := hjudged.agree hjudged'
  · cases hok
    cases hanswer
    exact ⟨_, _, i, _, i', hfeed, hfeed', .inl ⟨out, rfl, hfinished, congrArg Stats.bytesIn hstats⟩⟩
  · cases herror
    cases hanswer
    exact ⟨_, _, i, _, i', hfeed, hfeed', .inr ⟨m, by rw [codec_decodeEngine]⟩⟩

omit [Engines] in
/-- A member in two pieces, with every other window empty, and in one piece. -/
theorem feed_eq_of_joined_eq_line :
    letI : Engines := Deflate.Dialect.engines
    let front := Deflate.Dialect.member.extract 0 13
    let rest := Deflate.Dialect.member.extract 13 26
    ∃ answer d i d' i',
      feed decompressInto finished (· % 2) 0 (new .gzip .standard) [front, rest] ByteArray.empty =
        some (answer, d, i) ∧
      feed decompressInto finished (fun _ => 7) 0 (new .gzip .standard)
        [Deflate.Dialect.member] ByteArray.empty =
        some (answer, d', i') ∧
      ((∃ out, answer = .ok out ∧ d.finished = d'.finished ∧ d.stats.bytesIn = d'.stats.bytesIn) ∨
        ∃ m, answer = .error (.decode .gzip m)) := by
  let : Engines := Deflate.Dialect.engines
  have hw : ∀ i : Nat, ∃ k, 0 < (i + k) % 2 := fun i => ⟨(i + 1) % 2, by omega⟩
  exact feed_eq_of_joined_eq Deflate.Dialect.decoder_follows
    (fun _ => Deflate.Dialect.decoder_endsMoving)
    .standard .standard hw (fun _ => ⟨0, by decide⟩) (by decide)

end StreamCodec.Decompressor
