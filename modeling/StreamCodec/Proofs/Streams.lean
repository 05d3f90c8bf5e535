import StreamCodec.Proofs.Gunzip

/-!
Streams one behind the other. Decompressing stops at the end of the first stream, whatever
follows, and a part of a stream is told from a whole one. So a caller who goes on where the
last stream has ended finds them all, and is through at the end of the input.
-/

namespace StreamCodec

open Schedule

namespace Grammar

variable (G : Grammar)

/-- A whole stream, and nothing else. -/
def IsStream (s : ByteArray) : Prop := G.verdict s = .complete s.size

instance (s : ByteArray) : Decidable (G.IsStream s) :=
  inferInstanceAs (Decidable (G.verdict s = .complete s.size))

theorem IsStream.size_ne_zero {G : Grammar} {s : ByteArray} (h : G.IsStream s) : s.size ≠ 0 := by
  intro hempty
  rw [IsStream, ByteArray.size_eq_zero_iff.mp hempty, G.verdict_empty] at h
  cases h

/-- Of what is missing some bytes, nothing can be said yet. -/
theorem IsStream.front_unfinished {G : Grammar} {front rest : ByteArray}
    (h : G.IsStream (front ++ rest)) (hrest : rest.size ≠ 0) : G.verdict front = .unfinished := by
  cases hfront : G.verdict front with
  | complete n =>
    have hle := G.length_le _ _ hfront
    have hsame := (G.complete_append hfront rest).symm.trans h
    rw [Verdict.complete.injEq, ByteArray.size_append] at hsame
    omega
  | corrupt m => cases (G.corrupt_append hfront rest).symm.trans h
  | unfinished => rfl

end Grammar

/-- The decoder of a format follows the grammar of the format, but for one late step that gzip may
need at the end. -/
theorem Decompressor.follows_framed [Engines] {codec : Codec} {P : ByteArray → Prop} {D : Grammar}
    (hD : (Engines.decoder codec).FollowsOn codec P D) :
    ∃ Late, Follows codec (codec.Hands P) (codec.framed D) Late := by
  by_cases hgzip : codec = .gzip
  · subst hgzip
    exact ⟨_, gzip_followsOn hD⟩
  · exact ⟨_, decodeEngine_followsOn hD (absurd · hgzip)⟩

/-- Decompresses one stream after the other until no input is left. Every stream gets a decompressor
like `fresh`, and goes on where the one before has ended. With each stream comes its length. -/
def Decompressor.everyStream [Engines] (fresh : Decompressor) (input : ByteArray)
    (found : List (ByteArray × Nat)) : Option (Outcome (List (ByteArray × Nat))) :=
  if input.size = 0 then some (.ok found)
  else
    match OneShot.decompressWith fresh input with
    | (.ok out, d) =>
      let rest := input.extract d.bytesUsed input.size
      fresh |>.everyStream rest (found ++ [(out, d.bytesUsed)])
    | (.error e, _) => some (.error e)
    | (.trap t, _) => some (.trap t)
partial_fixpoint

namespace OneShot

open Decompressor (everyStream)

variable [Engines] {codec : Codec} {D : Grammar}

theorem everyStream_joined {fresh : Decompressor} {plain : ByteArray → ByteArray}
    {streams : List ByteArray}
    (hstream : ∀ s ∈ streams, s.size ≠ 0 ∧ ∀ r, ∃ d,
      decompressWith fresh (s ++ r) = (.ok (plain s), d) ∧ d.bytesUsed = s.size)
    (found : List (ByteArray × Nat)) :
    everyStream fresh (joined streams) found =
      some (.ok (found ++ streams.map fun s => (plain s, s.size))) := by
  induction streams generalizing found with
  | nil =>
    rw [everyStream, joined_nil, if_pos ByteArray.size_empty, List.map_nil, List.append_nil]
  | cons s streams ih =>
    obtain ⟨⟨hsize, hfirst⟩, hlater⟩ := List.forall_mem_cons.mp hstream
    obtain ⟨d, hcall, hused⟩ := hfirst (joined streams)
    have hsome : (s ++ joined streams).size ≠ 0 := by
      rw [ByteArray.size_append]
      omega
    have hrest : (s ++ joined streams).extract s.size (s ++ joined streams).size =
        joined streams := by
      rw [Bytes.extract_rest_append s (joined streams) (Nat.le_refl _), ByteArray.extract_same,
        ByteArray.empty_append]
    rw [everyStream, joined_cons, if_neg hsome, hcall]
    simp only [hused, hrest]
    rw [ih hlater, List.map_cons, List.append_assoc]
    rfl

/-- Of a stream with anything behind it, exactly the stream is decompressed; of less than a stream,
nothing. So streams in a row are found one by one, each with its length. -/
theorem decompressWith_streams (hD : (Engines.decoder codec).Follows codec D) (chunk : ChunkSize) :
    let G := codec.framed D
    let fresh := Decompressor.new codec chunk
    (∀ s r, G.IsStream s →
      let result := decompressWith fresh (s ++ r)
      result.1 = .ok (G.plain s) ∧ result.2.finished = true ∧ result.2.bytesUsed = s.size) ∧
    (∀ front rest, G.IsStream (front ++ rest) → rest.size ≠ 0 →
      let result := decompressWith fresh front
      result.1 = .error (.truncated codec) ∧ result.2.finished = false) ∧
    (∀ streams, (∀ s ∈ streams, G.IsStream s) →
      everyStream fresh (joined streams) [] =
        some (.ok (streams.map fun s => (G.plain s, s.size)))) := by
  intro G fresh
  obtain ⟨Late, hE⟩ := Decompressor.follows_framed hD
  have hall : ∀ b, codec.Hands (fun _ => True) b := codec.hands_of_forall fun _ => trivial
  have hstream : ∀ s r, G.IsStream s →
      (decompressWith fresh (s ++ r)).1 = .ok (G.plain s) ∧
        (decompressWith fresh (s ++ r)).2.finished = true ∧
        (decompressWith fresh (s ++ r)).2.bytesUsed = s.size := by
    intro s r hs
    obtain ⟨hok, hused, hend⟩ :=
      (decompressWith_judged hE chunk (hall (s ++ r))).complete (G.complete_append hs r)
    rw [G.plain_settled s r s.size hs] at hok
    exact ⟨hok, hend, hused⟩
  refine ⟨hstream, ?_, ?_⟩
  · intro front rest hs hrest
    exact (decompressWith_judged hE chunk (hall front)).unfinished (hs.front_unfinished hrest)
  · intro streams hstreams
    have hparts : ∀ s ∈ streams, s.size ≠ 0 ∧ ∀ r, ∃ d,
        decompressWith fresh (s ++ r) = (.ok (G.plain s), d) ∧ d.bytesUsed = s.size := by
      intro s hs
      refine ⟨(hstreams s hs).size_ne_zero, fun r => ?_⟩
      obtain ⟨hok, -, hused⟩ := hstream s r (hstreams s hs)
      exact ⟨_, Prod.ext hok rfl, hused⟩
    have hjoined := everyStream_joined hparts []
    rw [List.nil_append] at hjoined
    exact hjoined

omit [Engines] in
/-- A line twice, and a line that lacks its last byte. -/
theorem decompressWith_streams_line :
    letI : Engines := Deflate.Dialect.engines
    let line := Bytes.ofList Deflate.Dialect.line
    let member := Deflate.Dialect.member
    let fresh := Decompressor.new .gzip .standard
    (decompressWith fresh (member ++ line)).1 = .ok line ∧
      (decompressWith fresh (member ++ line)).2.bytesUsed = 26 ∧
      (decompressWith fresh (member.extract 0 25)).1 = .error (.truncated .gzip) ∧
      everyStream fresh (joined [member, member]) [] = some (.ok [(line, 26), (line, 26)]) := by
  let : Engines := Deflate.Dialect.engines
  intro line member fresh
  obtain ⟨hwhole, hpart, hevery⟩ :=
    decompressWith_streams Deflate.Dialect.decoder_follows .standard
  have hmember : (Codec.gzip.framed Deflate.Dialect.grammar).IsStream member := by decide +kernel
  have hline : (Codec.gzip.framed Deflate.Dialect.grammar).plain member = line := by decide +kernel
  obtain ⟨hok, -, hused⟩ := hwhole member line hmember
  rw [hline] at hok
  have hsplit : member.extract 0 25 ++ member.extract 25 member.size = member :=
    Bytes.front_append_rest member 25
  obtain ⟨herror, -⟩ := hpart (member.extract 0 25) (member.extract 25 member.size)
    (hsplit.symm ▸ hmember) (by decide)
  refine ⟨hok, hused, herror, ?_⟩
  have hboth : ∀ s ∈ [member, member], (Codec.gzip.framed Deflate.Dialect.grammar).IsStream s :=
    List.forall_mem_cons.mpr ⟨hmember, List.forall_mem_singleton.mpr hmember⟩
  have htwice := hevery [member, member] hboth
  rw [List.map_cons, List.map_singleton, hline] at htwice
  exact htwice

end OneShot

end StreamCodec
