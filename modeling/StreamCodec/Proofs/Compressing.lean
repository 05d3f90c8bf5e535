import StreamCodec.OneShot
import StreamCodec.Proofs.RoundTrip

/-!
Compressing a whole byte string at once. The growth loops end, and what they collect is a stream
of the byte string, for any chunk size.
-/

namespace StreamCodec

open BoundedCall EncodeEngine

namespace Encoder

variable {σ : Type} {E : EncodeEngine σ}

/-- A bounded call writes no more than its window holds, whatever the engine does. -/
theorem run_size_le {engine : σ} {l : Ledger} {room : Nat} {out b : ByteArray} {s : Encoder σ}
    (h : run E engine l room out = (.ok b, s)) : b.size ≤ out.size + room := by
  fun_induction run E engine l room out with
  | case1 | case2 | case3 | case4 => cases h
  | case5 engine l out step engine' l' hcall hbook
  | case6 engine l room out step engine' hcall l' hbook =>
    have hle := (Ledger.book_inv hbook).1.2
    cases h
    exact Nat.le_trans (Nat.le_of_eq ByteArray.size_append) (Nat.add_le_add_left hle _)
  | case7 engine l room out step engine' hcall l' hbook hfull hidle ih =>
    have hle := (Ledger.book_inv hbook).1.2
    have hrest := ih h
    rw [ByteArray.size_append] at hrest
    omega

theorem conclude_size_le {engine : σ} {l : Ledger} {room : Nat} {out b : ByteArray} {s : Encoder σ}
    (h : conclude E engine l room out = (.ok b, s)) : b.size ≤ out.size + room := by
  fun_induction conclude E engine l room out with
  | case1 | case2 | case3 | case4 | case7 => cases h
  | case5 engine l room out step engine' hcall l' hbook
  | case6 engine l out step engine' l' hopen hcall hbook =>
    have hle := (Ledger.book_inv hbook).1.2
    cases h
    exact Nat.le_trans (Nat.le_of_eq ByteArray.size_append) (Nat.add_le_add_left hle _)
  | case8 engine l room out step engine' hcall l' hbook hdone hfull hidle ih =>
    have hle := (Ledger.book_inv hbook).1.2
    have hrest := ih h
    rw [ByteArray.size_append] at hrest
    omega

theorem compressInto_size_le {s s' : Encoder σ} {input b : ByteArray} {room : Nat}
    (h : compressInto E s input room = (.ok b, s')) : b.size ≤ room := by
  rw [compressInto] at h
  split at h
  · split at h
    · cases h
      exact Nat.zero_le _
    · cases h
  · split at h
    · cases h
    · cases h
    · have hle := run_size_le h
      rw [ByteArray.size_empty, Nat.zero_add] at hle
      exact hle

theorem finishInto_size_le {s s' : Encoder σ} {b : ByteArray} {room : Nat}
    (h : finishInto E s room = (.ok b, s')) : b.size ≤ room := by
  rw [finishInto] at h
  split at h
  · cases h
    exact Nat.zero_le _
  · have hle := conclude_size_le h
    rw [ByteArray.size_empty, Nat.zero_add] at hle
    exact hle

end Encoder

variable [Engines] {codec : Codec} {level : Level} {chunk : ChunkSize} {G : Grammar}

namespace Compressor

variable {session : Session codec level} {input : ByteArray}
  {r : Outcome ByteArray × Session codec level × Nat}

theorem compressInto_size_le {c c' : Compressor} {input b : ByteArray} {room : Nat}
    (h : c.compressInto input room = (.ok b, c')) : b.size ≤ room := by
  obtain ⟨codec, level, chunk, session⟩ := c
  rcases hcall : session.compressInto (engine codec level) input room with ⟨answer, session'⟩
  rw [compressInto_mk, hcall] at h
  cases h
  exact Encoder.compressInto_size_le hcall

theorem closing_size_le {c c' : Compressor} {input b : ByteArray} {room : Nat}
    (h : closing c input room = (.ok b, c')) : b.size ≤ room := by
  obtain ⟨codec, level, chunk, session⟩ := c
  rcases hcall : session.finishInto (engine codec level) room with ⟨answer, session'⟩
  rw [closing_mk, Encoder.closing, hcall] at h
  cases h
  exact Encoder.finishInto_size_le hcall

/-- The growth loop of a compressor is a drain of its session. -/
theorem compress_of_drain {i : Nat}
    (h : drain (Encoder.compressInto (engine codec level)) (fun _ => chunk.size) i session input
      ByteArray.empty = some r) :
    (mk codec level chunk session).compress input = (r.1, mk codec level chunk r.2.1) := by
  have hlift : drain (fun c input room => compressInto c input room) _ _ _ _ _ = _ :=
    drain_lift (mk codec level chunk) (compressInto_mk codec level chunk) h
  have hcollect := Schedule.collect_of_drain (fun _ _ _ _ _ => compressInto_size_le) hlift
  simp only [compress, Growth.all, hcollect, Option.getD_some]

theorem finish_of_drain {i : Nat}
    (h : drain (Encoder.closing (engine codec level))
      (fun _ => chunk.size) i session ByteArray.empty
      ByteArray.empty = some r) :
    (mk codec level chunk session).finish = (r.1, mk codec level chunk r.2.1) := by
  have hlift : drain closing _ _ _ _ _ = _ :=
    drain_lift (mk codec level chunk) (closing_mk codec level chunk) h
  have hcollect := Schedule.collect_of_drain (fun _ _ _ _ _ => closing_size_le) hlift
  show Growth.all closing chunk _ ByteArray.empty = _
  rw [Growth.all, hcollect, Option.getD_some]

end Compressor

namespace OneShot

/-- Compressing a byte string at once writes a stream of it, in chunks of any size. -/
theorem compressWith_closes (hN : (Engines.encoder codec level).Follows codec G) (chunk : ChunkSize)
    (data : ByteArray) :
    ∃ packed session,
      compressWith (Compressor.new codec level chunk) data =
          (.ok packed, Compressor.mk codec level chunk session) ∧
        session.finished = true ∧
          (Compressor.engine codec level).Reached
            (newEncoder codec (Engines.encoder codec level) level) Any .ended data packed
            session.engine := by
  have hE := encodeEngine_follows hN level
  have hw : ∀ i, 0 < (fun _ : Nat => chunk.size) i := fun _ => chunk.one_le
  obtain ⟨front, s, i, hfeed, ht, hnone⟩ :=
    Encoder.drain_feeds hE hw (Encoder.tracks_fresh _ _ fun _ _ => True) data (.inr rfl) 0
      ByteArray.empty
  obtain ⟨rest, s', j, hclose, hend, ht'⟩ := Encoder.drain_closes hE hw ht hnone i ByteArray.empty
  rw [Pending.remaining_of_unread_eq_zero rfl, ByteArray.empty_append, ByteArray.empty_append,
    ByteArray.empty_append] at ht'
  rw [ByteArray.empty_append] at hfeed hclose
  have hcompress : (Compressor.new codec level chunk).compress data =
      (.ok front, Compressor.mk codec level chunk s) := Compressor.compress_of_drain hfeed
  have hfinish : (Compressor.mk codec level chunk s).finish = _ :=
    Compressor.finish_of_drain hclose
  refine ⟨front ++ rest, s', ?_, hend, ?_⟩
  · rw [compressWith, hcompress]
    simp only [hfinish, Outcome.map]
  · exact ht'.reached

end OneShot

end StreamCodec
