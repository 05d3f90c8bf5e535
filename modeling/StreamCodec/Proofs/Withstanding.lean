import Mathlib.Tactic.Choose
import StreamCodec.Builtin
import StreamCodec.Proofs.Collecting
import StreamCodec.Proofs.Dialect
import StreamCodec.Proofs.Gzip.Visiting
import StreamCodec.Proofs.Builtin.Inflating

/-!
Any bytes at all. Whatever a decompressor is fed with, each of its calls comes back with bytes that
fit into the window or with a verdict on the data under the name of its format, behind errors as
well; and decompressing a byte string at once comes to an end with one or the other.
-/

namespace StreamCodec

open Schedule

/-- The decoder of a format is as tame as its native decoder. -/
theorem decodeEngine_tame {codec : Codec} {N : NativeDecoder} {Onward : Prop}
    (hN : N.Tame codec Onward) :
    (decodeEngine codec N).Tame (newDecoder codec N) (fun _ => True) Onward := by
  cases codec with
  | gzip => exact Gzip.Decoder.tame hN.engine rfl
  | bzip2 => exact hN.engine.sparing
  | deflate | zlib | lzma | brotli | zstd => exact hN.engine

theorem decodeEngine_bounded {codec : Codec} {N : NativeDecoder} (hN : N.Bounded codec) :
    (decodeEngine codec N).Bounded (newDecoder codec N) fun _ => True := by
  cases codec with
  | gzip => exact Gzip.Decoder.bounded hN
  | bzip2 => exact DecodeEngine.Bounded.sparing hN
  | deflate | zlib | lzma | brotli | zstd => exact hN

namespace Decoder

open DecodeEngine

variable {σ : Type} {E : DecodeEngine σ} {s₀ : σ} {Onward : Prop} {d : Decoder σ}
  {input : ByteArray}

/-- A call of a tame engine takes it to where its caller may go on. -/
theorem run_visits (hE : E.Tame s₀ (fun _ => True) Onward) {engine : σ}
    (hengine : E.Visited s₀ (fun _ => True) Onward false engine) (l : Ledger) (room : Nat)
    (out : ByteArray) :
    (run E engine l room out).1.Graceful E.codec (fun _ => True) ∧
      ((∀ e, (run E engine l room out).1 = .error e → Onward) →
        E.Visited s₀ (fun _ => True) Onward (run E engine l room out).2.finished
          (run E engine l room out).2.engine) := by
  have hstep {engine : σ} (hengine : E.Visited s₀ (fun _ => True) Onward false engine)
      (input : Slice) (room : Nat) := hE engine input room hengine trivial
  fun_induction run E engine l room out with
  | case1 engine l room out e engine' hcall =>
    have hgood := hstep hengine l.pending.remaining room
    rw [hcall] at hgood
    exact ⟨hgood, fun honward => .error (honward e rfl) hengine trivial hcall⟩
  | case2 engine l room out t engine' hcall =>
    have hgood := hstep hengine l.pending.remaining room
    rw [hcall] at hgood
    exact hgood.elim
  | case3 engine l room out step engine' hcall e hbook =>
    exact absurd hbook (Ledger.book_ne_error l step room e)
  | case4 engine l room out step engine' hcall t hbook =>
    have hgood := hstep hengine l.pending.remaining room
    rw [hcall] at hgood
    obtain ⟨l', hbooked⟩ := Ledger.book_ok (l := l) hgood
    cases hbook.symm.trans hbooked
  | case5 engine l room out step engine' hcall l' hbook hdone =>
    have hnext := Visited.step hengine trivial hcall
    rw [hdone] at hnext
    exact ⟨trivial, fun _ => hnext⟩
  | case6 engine l out step engine' l' hdone hcall hbook =>
    have hnext := Visited.step hengine trivial hcall
    rw [Bool.eq_false_iff.mpr hdone] at hnext
    exact ⟨trivial, fun _ => hnext⟩
  | case7 engine l room out step engine' hcall l' hbook hdone hfull hidle =>
    have hnext := Visited.step hengine trivial hcall
    rw [Bool.eq_false_iff.mpr hdone] at hnext
    exact ⟨trivial, fun _ => hnext⟩
  | case8 engine l room out step engine' hcall l' hbook hdone hfull hidle ih =>
    have hnext := Visited.step hengine trivial hcall
    rw [Bool.eq_false_iff.mpr hdone] at hnext
    exact ih hnext

theorem decompressInto_visits (hE : E.Tame s₀ (fun _ => True) Onward)
    (hd : E.Visited s₀ (fun _ => True) Onward d.finished d.engine)
    (hinput : input.size = 0 ∨ d.ledger.pending.unread = 0) (room : Nat) :
    (decompressInto E d input room).1.Graceful E.codec (·.size ≤ room) ∧
      ((∀ e, (decompressInto E d input room).1 = .error e → Onward) →
        E.Visited s₀ (fun _ => True) Onward (decompressInto E d input room).2.finished
          (decompressInto E d input room).2.engine) := by
  obtain ⟨engine, ledger, finished⟩ := d
  obtain ⟨q, haccept, -⟩ := Pending.accept_ok E.codec hinput
  rw [decompressInto_accepted E engine haccept]
  cases finished with
  | true => exact ⟨Nat.zero_le _, fun _ => hd⟩
  | false =>
    obtain ⟨hgood, hvisited⟩ := run_visits hE hd { ledger with pending := q } room ByteArray.empty
    refine ⟨hgood.imp fun b hb => ?_, hvisited⟩
    have hle := run_size_le (Prod.ext hb rfl)
    rw [ByteArray.size_empty, Nat.zero_add] at hle
    exact hle

/-- Input that comes too early leaves the session as it is. -/
theorem exchange_visits (hE : E.Tame s₀ (fun _ => True) Onward)
    (hd : E.Visited s₀ (fun _ => True) Onward d.finished d.engine) (m : ByteArray × Nat)
    (honward : (exchange E d m).1.Fails → Onward) :
    E.Visited s₀ (fun _ => True) Onward (exchange E d m).2.finished (exchange E d m).2.engine := by
  by_cases hinput : m.1.size = 0 ∨ d.ledger.pending.unread = 0
  · exact (decompressInto_visits hE hd hinput m.2).2 fun e he => honward ⟨e, he⟩
  · obtain ⟨hinput, hunread⟩ := not_or.mp hinput
    rw [exchange, decompressInto_early E hinput hunread]
    exact hd

end Decoder

namespace Decompressor

section

variable [Engines] {codec : Codec} {chunk : ChunkSize} {d : Decompressor}
  {offered written : ByteArray}
  {bound : ByteArray → Nat}

/-- What a decompressor has written is limited by what it has been offered. -/
theorem exists_bound (hN : (Engines.decoder codec).Bounded codec) (chunk : ChunkSize) :
    ∃ bound : ByteArray → Nat, ∀ d offered written, Holds codec chunk d offered written →
      written.size ≤ bound offered := by
  choose most hmost using decodeEngine_bounded hN
  refine ⟨fun offered => most offered.size, ?_⟩
  rintro d offered written ⟨session, read, rfl, ht, rfl⟩
  refine hmost _ _ _ _ _ ht.reached ?_
  rw [ByteArray.size_append]
  omega

/-- Where no call has failed yet, the next one is graceful. -/
theorem Holds.graceful (hN : (Engines.decoder codec).Tame codec False)
    (h : Holds codec chunk d offered written) {input : ByteArray}
    (hinput : input.size = 0 ∨ d.session.ledger.pending.unread = 0) (room : Nat) :
    (d.decompressInto input room).1.Graceful codec (·.size ≤ room) := by
  obtain ⟨session, read, rfl, ht, -⟩ := h
  have hgood := (Decoder.decompressInto_visits (decodeEngine_tame hN) (ht.reached.visited False)
    hinput room).1
  rw [codec_decodeEngine] at hgood
  exact hgood

theorem Holds.decompress_graceful (hN : (Engines.decoder codec).Tame codec False)
    (hbound : ∀ d offered written, Holds codec chunk d offered written →
      written.size ≤ bound offered)
    (h : Holds codec chunk d offered written) {input : ByteArray}
    (hinput : input.size = 0 ∨ d.session.ledger.pending.unread = 0) :
    (d.decompress input).1.Graceful codec fun _ => True := by
  have haccounts := decompressInto_accounts codec chunk
  obtain ⟨r, hrun⟩ := Growth.collect_ends haccounts hbound h input ByteArray.empty
  have hcomes := Growth.collect_comes haccounts h hrun
  rw [Decompressor.decompress, Growth.all, h.chunk_eq, hrun, Option.getD_some]
  obtain ⟨answer, d'⟩ := r
  cases answer with
  | ok total => trivial
  | error e | trap t =>
    obtain hcall | ⟨before, tail, hbefore, hcall⟩ := hcomes
    · exact (congrArg Prod.fst hcall ▸ h.graceful hN hinput chunk.size).imp fun _ _ => trivial
    · have hgood := hbefore.graceful hN (.inl ByteArray.size_empty) chunk.size
      exact (congrArg Prod.fst hcall ▸ hgood).imp fun _ _ => trivial

/-- Collecting comes to an end: every collection that is not empty leaves less to be written. -/
theorem Holds.drain_ends (hN : (Engines.decoder codec).Tame codec False)
    (hbound : ∀ d offered written, Holds codec chunk d offered written →
      written.size ≤ bound offered)
    (h : Holds codec chunk d offered written) (out : ByteArray) :
    ∃ r, d.drain out = some r ∧ r.1.Graceful codec fun _ => True := by
  induction hn : bound offered - written.size using Nat.strongRecOn generalizing d written out with
  | ind n ih =>
  rw [Decompressor.drain]
  by_cases hfinished : d.finished = true
  · rw [if_pos hfinished]
    exact ⟨_, rfl, trivial⟩
  · rw [if_neg hfinished]
    have hgood := h.decompress_graceful hN hbound (.inl ByteArray.size_empty)
    rcases hcall : d.decompress ByteArray.empty with ⟨answer, d'⟩
    rw [hcall] at hgood
    cases answer with
    | ok more =>
      have hnext := h.decompress hcall
      rw [ByteArray.append_empty] at hnext
      by_cases hmore : more.size = 0
      · exact ⟨_, if_pos hmore, trivial⟩
      · simp only [if_neg hmore]
        have hle := hbound _ _ _ hnext
        rw [ByteArray.size_append] at hle
        refine ih _ ?_ hnext (out ++ more) rfl
        rw [ByteArray.size_append]
        omega
    | error e => exact ⟨_, rfl, hgood⟩
    | trap t => exact ⟨_, rfl, hgood⟩

theorem decompressWith_graceful (hN : (Engines.decoder codec).Tame codec False)
    (hmost : (Engines.decoder codec).Bounded codec) (chunk : ChunkSize) (b : ByteArray) :
    (OneShot.decompressWith (new codec chunk) b).1.Graceful codec fun _ => True := by
  obtain ⟨bound, hbound⟩ := exists_bound hmost chunk
  have hnew := holds_new codec chunk
  have hgood := hnew.decompress_graceful hN hbound (show b.size = 0 ∨ _ from .inr rfl)
  rw [OneShot.decompressWith]
  rcases hcall : (new codec chunk).decompress b with ⟨answer, d⟩
  rw [hcall] at hgood
  cases answer with
  | error e => exact hgood
  | trap t => exact hgood
  | ok front =>
    have hfront := hnew.decompress hcall
    obtain ⟨⟨answer, last⟩, hdrain, hlast⟩ := hfront.drain_ends hN hbound front
    simp only [hdrain, Option.getD_some]
    cases answer with
    | error e => exact hlast
    | trap t => exact hlast
    | ok total =>
      obtain ⟨tail, -, hheld⟩ := hfront.drain hdrain
      rw [OneShot.whole]
      split
      · trivial
      · exact ⟨rfl, congrArg some hheld.codec_eq⟩

/-- Whatever has been called before, and whatever it came to, a call that may bring its input comes
back with bytes that fit into its window or with a verdict on the data under the name of the format.
So does decompressing a byte string at once. And wherever a gzip decoder is brought, the lengths
that it takes from one another are in range. -/
theorem each_graceful (codec : Codec) (chunk : ChunkSize) :
    (∀ calls : List (ByteArray × Nat),
      let past := each exchange (new codec chunk) calls
      (Engines.decoder codec).Tame codec (∃ x ∈ past.1, x.Fails) →
      ∀ input room, (input.size = 0 ∨ past.2.session.ledger.pending.unread = 0) →
        (past.2.exchange (input, room)).1.answer.Graceful codec (·.size ≤ room)) ∧
    ((Engines.decoder codec).Tame codec False → (Engines.decoder codec).Bounded codec → ∀ b,
      (OneShot.decompressWith (new codec chunk) b).1.Graceful codec fun _ => True) ∧
    (∀ {σ : Type} (body : DecodeEngine σ) (s₀ : σ) (ended : Bool) (s : Gzip.Decoder σ),
      (Gzip.Decoder.engine body).Visited (Gzip.Decoder.start s₀) (fun _ => True) True ended s →
        s.part.InRange) := by
  refine ⟨?_, fun hN hmost => decompressWith_graceful hN hmost chunk, ?_⟩
  · intro calls past hN input room hinput
    obtain ⟨xs, session, hheld, hpast⟩ := exists_session codec chunk calls
    rw [show past = (xs, mk codec chunk session) from hpast] at hN hinput ⊢
    have hE := decodeEngine_tame hN
    have hvisited :
        (engine codec).Visited (newDecoder codec (Engines.decoder codec)) (fun _ => True)
        (∃ x ∈ xs, x.Fails) session.finished session.engine := by
      rw [show session = (each (Decoder.exchange (engine codec)) _ calls).2 from
        (congrArg Prod.snd hheld).symm]
      refine each_keeps_while
        (P := fun s => (engine codec).Visited _ (fun _ => True) _ s.finished s.engine)
        (Q := fun x : Exchange => x.Fails → ∃ x ∈ xs, x.Fails)
        (fun s m _ hs hx => Decoder.exchange_visits hE hs m hx) ?_ ?_
      · exact .fresh
      · rw [hheld]
        exact fun x hmem hfails => ⟨x, hmem, hfails⟩
    have hgood := (Decoder.decompressInto_visits hE hvisited hinput room).1
    rw [codec_decodeEngine] at hgood
    exact hgood
  · intro σ body s₀ ended s hs
    exact (Gzip.Decoder.stands_of_visited hs).inRange

end

/-- With the inflate engine of this library, a header that is none and the call behind it, and a
member of which one byte is not what it was. -/
theorem each_graceful_line :
    let bad := Bytes.ofList [0x1f, 0x00]
    let failed := each exchange (new .gzip .standard) [(bad, 9)]
    let member := Deflate.Dialect.member
    let damaged := member.extract 0 18 ++ Bytes.ofList [0x21] ++ member.extract 19 26
    (∃ x ∈ failed.1, x.Fails) ∧
      (failed.2.exchange (ByteArray.empty, 9)).1.answer.Graceful .gzip (·.size ≤ 9) ∧
      (OneShot.decompressWith (new .gzip .standard) damaged).1.Graceful .gzip (fun _ => True) ∧
      (Gzip.Part.header bad).InRange := by
  intro bad failed member damaged
  obtain ⟨hcalls, hwhole, hrange⟩ := each_graceful .gzip .standard
  have htame : ∀ Onward, (Engines.decoder .gzip).Tame .gzip Onward :=
    Deflate.Decoder.engine_tame false .gzip
  have hbounded : (Engines.decoder .gzip).Bounded .gzip :=
    Deflate.Decoder.engine_bounded false .gzip
  refine ⟨⟨_, List.mem_cons_self .., .decode .gzip "invalid header", by decide +kernel⟩,
    hcalls [(bad, 9)] (htame _) ByteArray.empty 9 (.inl rfl), hwhole (htame _) hbounded damaged, ?_⟩
  have hcall : (Gzip.Decoder.engine ((Engines.decoder .gzip).engine .gzip)).decode
      (Gzip.Decoder.start (Engines.decoder .gzip).fresh) { bytes := bad } 9 =
        (.error (.decode .gzip "invalid header"),
          { part := .header bad, body := (Engines.decoder .gzip).fresh }) := rfl
  exact hrange _ _ _ _ (.error trivial .fresh trivial hcall)

end Decompressor

end StreamCodec
