import StreamCodec.Proofs.Decoding

/-!
Feeding a session piece by piece, in any windows. What comes of it is what the grammar makes
of the joined pieces; how they are cut and which windows there are makes no difference.
-/

namespace StreamCodec.Decoder

open BoundedCall DecodeEngine Schedule

variable {σ : Type} {E : DecodeEngine σ} {s₀ : σ} {P : ByteArray → Prop} {G : Grammar}
  {windows : Nat → Nat}

/-- A session between two pieces: at its end, or waiting for more. -/
def Rests (G : Grammar) (d : Decoder σ) (read written : ByteArray) : Prop :=
  d.finished = true ∨ Waits G d read written

/-- A session that was fed has read `whole` up to the end of the stream, or all of it, or
refuses it. -/
def Fed (E : DecodeEngine σ) (s₀ : σ) (P : ByteArray → Prop) (G : Grammar)
    (whole written out : ByteArray) :
    Outcome ByteArray × Decoder σ × Nat → Prop
  | (.ok total, d, _) =>
    ∃ read rest tail, total = out ++ tail ∧ Tracks E s₀ P d read (written ++ tail) ∧
      read ++ rest = whole ∧
      (d.finished = true ∨ (Waits G d read (written ++ tail) ∧ rest.size = 0))
  | (.error e, _, _) => ∃ m, e = .decode E.codec m ∧ G.verdict whole = .corrupt m
  | (.trap _, _, _) => False

theorem Waits.remaining {d : Decoder σ} {read written : ByteArray} (h : Waits G d read written) :
    d.ledger.pending.remaining.toBytes = ByteArray.empty :=
  Pending.remaining_of_unread_eq_zero h.drained

/-- What comes of the later pieces comes of all of them. -/
theorem Fed.of_later {whole written out tail : ByteArray} {r : Outcome ByteArray × Decoder σ × Nat}
    (h : Fed E s₀ P G whole (written ++ tail) (out ++ tail) r) :
    Fed E s₀ P G whole written out r := by
  obtain ⟨answer, d, i⟩ := r
  cases answer with
  | ok total =>
    obtain ⟨read, rest, more, htotal, ht, hsplit, hend⟩ := h
    rw [ByteArray.append_assoc] at htotal ht hend
    exact ⟨read, rest, tail ++ more, htotal, ht, hsplit, hend⟩
  | error e => exact h
  | trap t => exact h

/-- All that is offered on the way to `whole` is in `P`. -/
def Fronts (P : ByteArray → Prop) (whole : ByteArray) : Prop :=
  ∀ front rest, front ++ rest = whole → P front

theorem feed_comes (hE : E.Follows s₀ (fun b _ => P b) G (fun _ => False))
    (hw : ∀ i, ∃ k, 0 < windows (i + k)) {d : Decoder σ} {read written : ByteArray}
    (ht : Tracks E s₀ P d read written) (hrests : Rests G d read written) (pieces : List ByteArray)
    (hfronts : Fronts P (read ++ (d.ledger.pending.remaining.toBytes ++ joined pieces)))
    (i : Nat) (out : ByteArray) :
    ∃ r, feed (decompressInto E) finished windows i d pieces out = some r ∧
      Fed E s₀ P G (read ++ (d.ledger.pending.remaining.toBytes ++ joined pieces)) written out
        r := by
  induction pieces generalizing d read written out i with
  | nil =>
    refine ⟨_, rfl, read, _, ByteArray.empty, ByteArray.append_empty.symm, ?_, rfl, ?_⟩
    · rw [ByteArray.append_empty]
      exact ht
    · rw [joined_nil, ByteArray.append_empty, ByteArray.append_empty]
      refine hrests.imp_right fun hwaits => ⟨hwaits, ?_⟩
      rw [hwaits.remaining, ByteArray.size_empty]
  | cons piece pieces ih =>
    unfold feed
    cases hfinished : d.finished with
    | true =>
      refine ⟨_, if_pos rfl, read, _, ByteArray.empty, ByteArray.append_empty.symm, ?_, rfl,
        .inl hfinished⟩
      rw [ByteArray.append_empty]
      exact ht
    | false =>
      have hwaits := hrests.resolve_left (by rw [hfinished]; exact Bool.false_ne_true)
      have hwhole : read ++ (d.ledger.pending.remaining.toBytes ++ joined (piece :: pieces)) =
          read ++ (d.ledger.pending.remaining.toBytes ++ piece) ++ joined pieces := by
        rw [joined_cons, ByteArray.append_assoc, ByteArray.append_assoc]
      obtain ⟨⟨answer, d', j⟩, hdrain, hdrained⟩ :=
        drain_comes hE windows hw ht hfinished piece (.inr hwaits.drained)
          (hfronts _ _ hwhole.symm) i out
      rw [hdrain, hwhole, if_neg Bool.false_ne_true]
      cases answer with
      | ok total =>
        obtain ⟨read', tail, rfl, ht', hsplit, hend⟩ := hdrained
        have hrests' : Rests G d' read' (written ++ tail) :=
          hend.imp_right fun h => h.resolve_right fun hlate => hlate.2
        rw [hwhole, ← hsplit, ByteArray.append_assoc] at hfronts
        obtain ⟨r, hfeed, hfed⟩ := ih ht' hrests' hfronts j (out ++ tail)
        rw [← ByteArray.append_assoc, hsplit] at hfed
        exact ⟨r, hfeed, hfed.of_later⟩
      | error e =>
        obtain ⟨m, he, hcorrupt⟩ := hdrained
        exact ⟨_, rfl, m, he, G.corrupt_append hcorrupt _⟩
      | trap t => exact hdrained.elim

theorem tracks_fresh (E : DecodeEngine σ) (s₀ : σ) (P : ByteArray → Prop) :
    Tracks E s₀ P { engine := s₀ } ByteArray.empty ByteArray.empty :=
  ⟨.fresh, rfl⟩

theorem waits_fresh (G : Grammar) (s₀ : σ) :
    Waits G { engine := s₀ : Decoder σ } ByteArray.empty ByteArray.empty :=
  ⟨rfl, G.verdict_empty, G.plain_empty⟩

/-- What the grammar says of `b` is what came of feeding it. -/
def Judged (E : DecodeEngine σ) (G : Grammar) (b : ByteArray)
    (r : Outcome ByteArray × Decoder σ × Nat) :
    Prop :=
  match G.verdict b with
  | .complete n => r.1 = .ok (G.plain b) ∧ r.2.1.finished = true ∧
      r.2.1.stats = { bytesIn := n, bytesOut := (G.plain b).size }
  | .corrupt m => r.1 = .error (.decode E.codec m)
  | .unfinished => r.1 = .ok (G.plain b) ∧ r.2.1.finished = false ∧
      r.2.1.stats = { bytesIn := b.size, bytesOut := (G.plain b).size }

theorem Fed.judged (hE : E.Follows s₀ (fun b _ => P b) G (fun _ => False)) {b : ByteArray}
    {r : Outcome ByteArray × Decoder σ × Nat}
    (h : Fed E s₀ P G b ByteArray.empty ByteArray.empty r) : Judged E G b r := by
  obtain ⟨answer, d, j⟩ := r
  unfold Judged
  cases answer with
  | ok total =>
    obtain ⟨read, rest, tail, htotal, ht, rfl, hend⟩ := h
    rw [ByteArray.empty_append] at htotal ht hend
    subst htotal
    cases hfinished : d.finished with
    | true =>
      obtain ⟨hverdict, hplain⟩ := ht.complete hE hfinished
      rw [G.complete_append hverdict, G.plain_settled read rest _ hverdict, hplain]
      exact ⟨rfl, rfl, ht.stats⟩
    | false =>
      rw [hfinished] at hend
      obtain ⟨hwaits, hrest⟩ := hend.resolve_left Bool.false_ne_true
      rw [ByteArray.size_eq_zero_iff.mp hrest, ByteArray.append_empty,
        hwaits.unfinished, hwaits.plain]
      exact ⟨rfl, rfl, ht.stats⟩
  | error e =>
    obtain ⟨m, rfl, hcorrupt⟩ := h
    rw [hcorrupt]
  | trap t => exact h.elim

/-- Two sessions that came to what the grammar says of the same bytes came to the same. -/
theorem Judged.agree {b : ByteArray} {r r' : Outcome ByteArray × Decoder σ × Nat}
    (h : Judged E G b r) (h' : Judged E G b r') :
    r'.1 = r.1 ∧ ((∃ out, r.1 = .ok out ∧ r.2.1.finished = r'.2.1.finished ∧
      r.2.1.stats = r'.2.1.stats) ∨
      ∃ m, r.1 = .error (.decode E.codec m)) := by
  unfold Judged at h h'
  cases hverdict : G.verdict b with
  | complete n =>
    rw [hverdict] at h h'
    obtain ⟨hok, hfinished, hstats⟩ := h
    obtain ⟨hok', hfinished', hstats'⟩ := h'
    exact ⟨hok'.trans hok.symm,
      .inl ⟨_, hok, hfinished.trans hfinished'.symm, hstats.trans hstats'.symm⟩⟩
  | corrupt m =>
    rw [hverdict] at h h'
    exact ⟨h'.trans h.symm, .inr ⟨m, h⟩⟩
  | unfinished =>
    rw [hverdict] at h h'
    obtain ⟨hok, hfinished, hstats⟩ := h
    obtain ⟨hok', hfinished', hstats'⟩ := h'
    exact ⟨hok'.trans hok.symm,
      .inl ⟨_, hok, hfinished.trans hfinished'.symm, hstats.trans hstats'.symm⟩⟩

/-- Feeding a fresh session ends with what the grammar makes of the joined pieces. -/
theorem feed_judged (hE : E.Follows s₀ (fun b _ => P b) G (fun _ => False))
    (hw : ∀ i, ∃ k, 0 < windows (i + k)) (pieces : List ByteArray)
    (hfronts : Fronts P (joined pieces)) :
    ∃ r, feed (decompressInto E) finished windows 0
      { engine := s₀ } pieces ByteArray.empty = some r ∧
      Judged E G (joined pieces) r := by
  have hfresh := waits_fresh G s₀
  obtain ⟨r, hfeed, hfed⟩ := feed_comes hE hw (tracks_fresh E s₀ P) (.inr hfresh) pieces
    (by rw [hfresh.remaining, ByteArray.empty_append, ByteArray.empty_append]; exact hfronts) 0
    ByteArray.empty
  rw [hfresh.remaining, ByteArray.empty_append, ByteArray.empty_append] at hfed
  exact ⟨r, hfeed, hfed.judged hE⟩

/-- A session at the end of a stream that is all there is has read all of it, and no
piece is left. -/
theorem Tracks.whole (hE : E.Follows s₀ (fun b _ => P b) G (fun _ => False)) {whole : ByteArray}
    (hwhole : G.verdict whole = .complete whole.size) {d : Decoder σ} {read written : ByteArray}
    (ht : Tracks E s₀ P d read written) (hfinished : d.finished = true) {pieces : List ByteArray}
    (hpieces : ∀ p ∈ pieces, p.size ≠ 0)
    (hsplit : read ++ d.ledger.pending.remaining.toBytes ++ joined pieces = whole) :
    read = whole ∧ pieces = [] := by
  have hverdict := G.complete_append (ht.complete hE hfinished).1
    (d.ledger.pending.remaining.toBytes ++ joined pieces)
  rw [← ByteArray.append_assoc, hsplit, hwhole] at hverdict
  have hsize := congrArg ByteArray.size hsplit
  rw [ByteArray.size_append, ByteArray.size_append, Verdict.complete.inj hverdict] at hsize
  have hrest : d.ledger.pending.remaining.toBytes = ByteArray.empty :=
    ByteArray.size_eq_zero_iff.mp (by omega)
  have hnone : pieces = [] := joined_size_eq_zero hpieces (by omega)
  rw [hrest, hnone, joined_nil, ByteArray.append_empty, ByteArray.append_empty] at hsplit
  exact ⟨hsplit, hnone⟩

/-- A whole stream in pieces that are not empty is read to its end, also by a caller that never
looks whether it has come. -/
theorem feed_whole (hE : E.Follows s₀ (fun b _ => P b) G (fun _ => False))
    (hw : ∀ i, ∃ k, 0 < windows (i + k)) {whole : ByteArray}
    (hfronts : Fronts P whole) (hwhole : G.verdict whole = .complete whole.size)
    {d : Decoder σ} {read written : ByteArray} (ht : Tracks E s₀ P d read written)
    (hopen : d.finished = false)
    (hwaits : Waits G d read written) {pieces : List ByteArray} (hpieces : ∀ p ∈ pieces, p.size ≠ 0)
    (hsplit : read ++ joined pieces = whole) (i : Nat) (out : ByteArray) :
    ∃ tail d' j, feed (decompressInto E) (fun _ => false) windows i d pieces out =
        some (.ok (out ++ tail), d', j) ∧
      d'.finished = true ∧ Tracks E s₀ P d' whole (written ++ tail) := by
  induction pieces generalizing d read written out i with
  | nil =>
    rw [joined_nil, ByteArray.append_empty] at hsplit
    have hopen := hwaits.unfinished
    rw [hsplit, hwhole] at hopen
    cases hopen
  | cons piece pieces ih =>
    rw [joined_cons, ← ByteArray.append_assoc] at hsplit
    have hoffered : P (read ++ (d.ledger.pending.remaining.toBytes ++ piece)) := by
      rw [hwaits.remaining, ByteArray.empty_append]
      exact hfronts _ _ hsplit
    obtain ⟨⟨answer, d', j⟩, hdrain, hdrained⟩ :=
      drain_comes hE windows hw ht hopen piece (.inr hwaits.drained) hoffered i out
    rw [hwaits.remaining, ByteArray.empty_append] at hdrained
    unfold feed
    rw [hdrain]
    cases answer with
    | ok total =>
      obtain ⟨read', tail, rfl, ht', hread', hend⟩ := hdrained
      cases hfinished : d'.finished with
      | true =>
        rw [← hread'] at hsplit
        obtain ⟨rfl, rfl⟩ :=
          ht'.whole hE hwhole hfinished (fun p hp => hpieces p (List.mem_cons_of_mem _ hp)) hsplit
        exact ⟨tail, d', j, rfl, hfinished, ht'⟩
      | false =>
        have hwaits' : Waits G d' read' (written ++ tail) := by
          rw [hfinished] at hend
          exact (hend.resolve_left Bool.false_ne_true).resolve_right fun hlate => hlate.2
        rw [hwaits'.remaining, ByteArray.append_empty] at hread'
        rw [← hread'] at hsplit
        obtain ⟨tail', d'', l, hfeed, hend', ht''⟩ := ih ht' hfinished hwaits'
          (fun p hp => hpieces p (List.mem_cons_of_mem _ hp)) hsplit j (out ++ tail)
        rw [ByteArray.append_assoc] at hfeed ht''
        exact ⟨tail ++ tail', d'', l, hfeed, hend', ht''⟩
    | error e =>
      obtain ⟨m, _, hcorrupt⟩ := hdrained
      have hverdict := G.corrupt_append hcorrupt (joined pieces)
      rw [hsplit, hwhole] at hverdict
      cases hverdict
    | trap t => exact hdrained.elim

end StreamCodec.Decoder
