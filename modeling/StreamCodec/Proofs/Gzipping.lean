import StreamCodec.Proofs.Recording
import StreamCodec.Proofs.RoundTrip

/-!
What a gzip compressor writes is one member, in windows of any sizes: the header, what the
body engine wrote, and the trailer of what it was fed. The body engine is called behind the
header only, is offered what the compressor was fed, and is left alone behind its end.
-/

namespace StreamCodec

open BoundedCall EncodeEngine Schedule

/-- Calls that feed some front of `data`, and calls that finish behind all of it. -/
def Drives (data : ByteArray) : Request → ByteArray → Prop
  | .encode, b => ∃ later, b ++ later = data
  | .finish, b => b = data

theorem Drives.front {data : ByteArray} (request : Request) (b : ByteArray)
    (h : Drives data request b) :
    ∃ later, b ++ later = data := by
  cases request with
  | encode => exact h
  | finish => exact ⟨ByteArray.empty, ByteArray.append_empty.trans h⟩

namespace Encoder

variable {σ : Type} {E : EncodeEngine σ} {s₀ : σ} {s s' : Encoder σ} {stage : Stage}
  {taken written data out total : ByteArray}

/-- A call that feeds takes a front of what there is, and leaves the rest. -/
theorem Tracks.feed {input later b : ByteArray} {room : Nat}
    (ht : Tracks E s₀ (Drives data) s .feeding taken written)
    (hdata : taken ++ (s.ledger.pending.remaining.toBytes ++ (input ++ later)) = data)
    (hcall : compressInto E s input room = (.ok b, s')) :
    ∃ taken', Tracks E s₀ (Drives data) s' .feeding taken' (written ++ b) ∧
      taken' ++ (s'.ledger.pending.remaining.toBytes ++ later) = data := by
  rw [← ByteArray.append_assoc (c := later)] at hdata
  have hfront : Drives data .encode (taken ++ (s.ledger.pending.remaining.toBytes ++ input)) :=
    ⟨later, (ByteArray.append_assoc ..).trans hdata⟩
  obtain ⟨more, ht', hsplit, -⟩ := compressInto_moves ht hfront hcall
  rw [← hsplit, ByteArray.append_assoc, ← ByteArray.append_assoc] at hdata
  exact ⟨taken ++ more, ht', hdata⟩

theorem Tracks.close {b : ByteArray} {room : Nat}
    (ht : Tracks E s₀ (Drives data) s stage taken written)
    (hdata : taken ++ s.ledger.pending.remaining.toBytes = data)
    (hcall : finishInto E s room = (.ok b, s')) :
    ∃ stage' taken', Tracks E s₀ (Drives data) s' stage' taken' (written ++ b) ∧
      taken' ++ s'.ledger.pending.remaining.toBytes = data := by
  obtain ⟨stage', more, -, ht', hsplit, -⟩ := finishInto_moves ht hdata hcall
  rw [← hsplit, ← ByteArray.append_assoc] at hdata
  exact ⟨stage', taken ++ more, ht', hdata⟩

/-- A run of calls that feed has taken a front of what it was fed, and holds the rest. -/
theorem run_feeds {calls : List (ByteArray × Nat)}
    (ht : Tracks E s₀ (Drives data) s .feeding taken written)
    (hdata : taken ++ (s.ledger.pending.remaining.toBytes ++ joined (calls.map Prod.fst)) = data)
    (h : Schedule.run (compressInto E) s calls out = (.ok total, s')) :
    ∃ taken' tail, total = out ++ tail ∧
      Tracks E s₀ (Drives data) s' .feeding taken' (written ++ tail) ∧
      taken' ++ s'.ledger.pending.remaining.toBytes = data := by
  induction calls generalizing s taken written out with
  | nil =>
    cases h
    refine ⟨taken, ByteArray.empty, ByteArray.append_empty.symm, ?_, ?_⟩
    · rw [ByteArray.append_empty]
      exact ht
    · rw [List.map_nil, joined_nil, ByteArray.append_empty] at hdata
      exact hdata
  | cons c calls ih =>
    obtain ⟨input, room⟩ := c
    rcases hcall : compressInto E s input room with ⟨answer, s''⟩
    rw [Schedule.run, hcall] at h
    cases answer with
    | ok b =>
      obtain ⟨taken', ht', hdata'⟩ := ht.feed hdata hcall
      obtain ⟨taken'', tail, rfl, ht'', hdata''⟩ := ih ht' hdata' h
      rw [ByteArray.append_assoc] at ht''
      exact ⟨taken'', b ++ tail, ByteArray.append_assoc, ht'', hdata''⟩
    | error e => cases h
    | trap t => cases h

theorem run_closes {rooms : List Nat} (ht : Tracks E s₀ (Drives data) s stage taken written)
    (hdata : taken ++ s.ledger.pending.remaining.toBytes = data)
    (h : Schedule.run (closing E) s (rooms.map (ByteArray.empty, ·)) out = (.ok total, s')) :
    ∃ stage' taken' tail, total = out ++ tail ∧
      Tracks E s₀ (Drives data) s' stage' taken' (written ++ tail) := by
  induction rooms generalizing s stage taken written out with
  | nil =>
    cases h
    refine ⟨stage, taken, ByteArray.empty, ByteArray.append_empty.symm, ?_⟩
    rw [ByteArray.append_empty]
    exact ht
  | cons room rooms ih =>
    rcases hcall : finishInto E s room with ⟨answer, s''⟩
    rw [List.map_cons, Schedule.run, closing, hcall] at h
    cases answer with
    | ok b =>
      obtain ⟨stage', taken', ht', hdata'⟩ := ht.close hdata hcall
      obtain ⟨stage'', taken'', tail, rfl, ht''⟩ := ih ht' hdata' h
      rw [ByteArray.append_assoc] at ht''
      exact ⟨stage'', taken'', b ++ tail, ByteArray.append_assoc, ht''⟩
    | error e => cases h
    | trap t => cases h

/-- A session that is at its end has an engine that is. -/
theorem Stands.eq_ended (h : s.Stands stage) (hend : s.finished = true) : stage = .ended := by
  cases stage with
  | feeding =>
    rw [Stands, hend] at h
    cases h
  | closing rest =>
    rw [Stands, hend] at h
    cases h.1
  | ended => rfl

end Encoder

abbrev RecordedSession (N : NativeEncoder) : Type := Encoder (EncoderState .gzip N.recorded)

namespace RecordedSession

variable {N : NativeEncoder} {level : Level}

def start (N : NativeEncoder) (level : Level) : RecordedSession N :=
  { engine := newEncoder .gzip N.recorded level }

def log (t : RecordedSession N) : List Call :=
  let engine : Gzip.Encoder (N.State × List Call) := t.engine
  engine.body.2

def bare (t : RecordedSession N) : Encoder (EncoderState .gzip N) :=
  t.map (Gzip.Encoder.map Prod.fst)

theorem mirrors (N : NativeEncoder) :
    Mirrors (Gzip.Encoder.map Prod.fst) (encodeEngine .gzip N.recorded) (encodeEngine .gzip N) :=
  Gzip.Encoder.mirrors (N.recorded_mirrors .deflate)

theorem compressInto_bare (t : RecordedSession N) (input : ByteArray) (room : Nat) :
    (bare t).compressInto (encodeEngine .gzip N) input room =
      ((t.compressInto (encodeEngine .gzip N.recorded) input room).1,
        bare (t.compressInto (encodeEngine .gzip N.recorded) input room).2) :=
  Encoder.compressInto_map (mirrors N) t input room

theorem closing_bare (t : RecordedSession N) (input : ByteArray) (room : Nat) :
    Encoder.closing (encodeEngine .gzip N) (bare t) input room =
      ((Encoder.closing (encodeEngine .gzip N.recorded) t input room).1,
        bare (Encoder.closing (encodeEngine .gzip N.recorded) t input room).2) :=
  Encoder.finishInto_map (mirrors N) t room

end RecordedSession

/-- What a gzip compressor has written for `data` at its end, and which calls its body
engine got. -/
structure Gzip.Emitted (level : Level) (data packed : ByteArray) (log : List Call)
    (stats : Stats) : Prop where
  packed : packed = Header.written level ++ (Call.allWritten log ++
    Bytes.ofList (Bytes.littleEndian 4 (Crc32.ofBytes data).toNat ++
      Bytes.littleEndian 4 (data.size % 0x100000000)))
  logged : Logged data .ended data (Call.allWritten log) log
  stats : stats = { bytesIn := data.size, bytesOut := 18 + (Call.allWritten log).size }

namespace RecordedSession

variable {N : NativeEncoder} {level : Level} {data written taken : ByteArray} {stage : Stage}
  {t : RecordedSession N}

abbrev Tracks (level : Level) (data : ByteArray) :
    RecordedSession N → Stage → (taken written : ByteArray) → Prop :=
  Encoder.Tracks (encodeEngine .gzip N.recorded) (newEncoder .gzip N.recorded level) (Drives data)

theorem holds (ht : Tracks level data t stage taken written) :
    Gzip.Encoder.Holds (N.recorded.engine .deflate) N.recorded.fresh (Drives data) level stage
      t.engine taken written :=
  Gzip.Encoder.holds_of_reached ht.reached

theorem log_eq_nil (ht : Tracks level data t stage taken written)
    (hsize : written.size < 10) : log t = [] := by
  rw [← Gzip.Header.size_written level] at hsize
  exact congrArg Prod.snd ((holds ht).body_eq hsize)

theorem emitted (hN : N.EndsTaken .deflate) (ht : Tracks level data t stage taken written)
    (hend : t.finished = true) : Gzip.Emitted level data written (log t) t.stats := by
  have hstats := ht.stats
  cases ht.stands.eq_ended hend
  obtain ⟨body, hbody, rfl⟩ := (holds ht).ended
  obtain rfl := EncodeEngine.EndsTaken.taken_eq (hN.recorded _) (fun _ hall => hall) hbody
  have hlogged := logged_of_reached Drives.front hbody
  obtain rfl := hlogged.written
  refine ⟨?_, hlogged, ?_⟩
  · rw [Gzip.Tally.trailer_ofBytes]
    rfl
  · rw [ByteArray.size_append, ByteArray.size_append, Gzip.Header.size_written,
      Gzip.Tally.size_trailer, Gzip.Tally.trailerSize, ← Nat.add_assoc,
      Nat.add_right_comm] at hstats
    exact hstats

end RecordedSession

namespace Compressor

open RecordedSession

theorem compressInto_bare [Engines] (level : Level) (chunk : ChunkSize)
    (t : RecordedSession (Engines.encoder .gzip level)) (input : ByteArray) (room : Nat) :
    compressInto (mk .gzip level chunk (bare t)) input room =
      ((t.compressInto (encodeEngine .gzip (Engines.encoder .gzip level).recorded) input room).1,
        mk .gzip level chunk
          (bare (t.compressInto
            (encodeEngine .gzip (Engines.encoder .gzip level).recorded) input room).2)) := by
  rw [compressInto_mk, RecordedSession.compressInto_bare]

theorem closing_bare [Engines] (level : Level) (chunk : ChunkSize)
    (t : RecordedSession (Engines.encoder .gzip level)) (input : ByteArray) (room : Nat) :
    closing (mk .gzip level chunk (bare t)) input room =
      ((Encoder.closing (encodeEngine .gzip (Engines.encoder .gzip level).recorded) t input room).1,
        mk .gzip level chunk
          (bare (Encoder.closing
            (encodeEngine .gzip (Engines.encoder .gzip level).recorded) t input room).2)) := by
  rw [closing_mk, RecordedSession.closing_bare]

/-- Whatever the windows are, a gzip compressor that is fed and then finished writes one member. Its
body engine, watched by a log, is not called while the header is not out. -/
theorem run_gzip [Engines] (level : Level) (hN : (Engines.encoder .gzip level).EndsTaken .deflate)
    (chunk : ChunkSize) (feeds : List (ByteArray × Nat)) (rooms : List Nat)
    {fed packed : ByteArray} {c c' : Compressor}
    (hfeed : run compressInto (new .gzip level chunk) feeds ByteArray.empty = (.ok fed, c))
    (hclose : run closing c (rooms.map (ByteArray.empty, ·)) fed = (.ok packed, c')) :
    ∃ t t', run (Encoder.compressInto (encodeEngine .gzip (Engines.encoder .gzip level).recorded))
        (start (Engines.encoder .gzip level) level) feeds ByteArray.empty = (.ok fed, t) ∧
      run (Encoder.closing (encodeEngine .gzip (Engines.encoder .gzip level).recorded)) t
        (rooms.map (ByteArray.empty, ·)) fed = (.ok packed, t') ∧
      c' = mk .gzip level chunk (bare t') ∧ (packed.size < 10 → log t' = []) ∧
      (c'.session.finished = true →
        Gzip.Emitted level (joined (feeds.map Prod.fst)) packed (log t') c'.stats) := by
  have hfeed' := run_lift (fun t => mk .gzip level chunk (bare t)) (compressInto_bare level chunk)
    (start (Engines.encoder .gzip level) level) feeds ByteArray.empty
  rcases hrun :
      run (Encoder.compressInto (encodeEngine .gzip (Engines.encoder .gzip level).recorded))
        (start (Engines.encoder .gzip level) level) feeds ByteArray.empty with ⟨answer, t⟩
  rw [hrun] at hfeed'
  cases hfeed.symm.trans hfeed'
  have hclose' := run_lift (fun t => mk .gzip level chunk (bare t)) (closing_bare level chunk) t
    (rooms.map (ByteArray.empty, ·)) fed
  rcases hrun' :
      run (Encoder.closing (encodeEngine .gzip (Engines.encoder .gzip level).recorded)) t
        (rooms.map (ByteArray.empty, ·)) fed with ⟨answer', t'⟩
  rw [hrun'] at hclose'
  cases hclose.symm.trans hclose'
  have ht : Tracks level (joined (feeds.map Prod.fst)) (start (Engines.encoder .gzip level) level)
      .feeding ByteArray.empty ByteArray.empty := Encoder.tracks_fresh _ _ _
  have hall : ByteArray.empty ++ (ByteArray.empty ++ joined (feeds.map Prod.fst)) =
      joined (feeds.map Prod.fst) := by
    rw [ByteArray.empty_append, ByteArray.empty_append]
  obtain ⟨taken, tail, hfed, ht', hdata⟩ := Encoder.run_feeds ht hall hrun
  obtain ⟨stage, taken', tail', hpacked, ht''⟩ := Encoder.run_closes ht' hdata hrun'
  rw [hfed, ByteArray.empty_append] at hpacked
  rw [ByteArray.empty_append, ← hpacked] at ht''
  exact ⟨t, t', rfl, hrun', rfl, log_eq_nil ht'', emitted hN ht''⟩

/-- A line, fed in one call and finished in three, in windows that cut header, body and trailer. -/
theorem run_gzip_line :
    letI : Engines := Deflate.Dialect.engines
    let line := Bytes.ofList Deflate.Dialect.line
    let fed := run compressInto (new .gzip .balanced .standard)
      [(line, 4), (ByteArray.empty, 0), (ByteArray.empty, 9)] ByteArray.empty
    let closed := run closing fed.2 ([0, 5, 40].map (ByteArray.empty, ·))
      (Deflate.Dialect.member.extract 0 10)
    closed.1 = .ok Deflate.Dialect.member ∧
      ∃ log, Gzip.Emitted .balanced line Deflate.Dialect.member log closed.2.stats := by
  let : Engines := Deflate.Dialect.engines
  intro line fed closed
  have hfed : fed.1 = .ok (Deflate.Dialect.member.extract 0 10) := by decide +kernel
  have hclosed : closed.1 = .ok Deflate.Dialect.member := by decide +kernel
  have hend : closed.2.session.finished = true := by decide +kernel
  have hline : joined [line, ByteArray.empty, ByteArray.empty] = line := by decide
  obtain ⟨t, t', -, -, -, -, hemitted⟩ :=
    run_gzip .balanced (Deflate.Encoder.packing_endsTaken _ .deflate) .standard
      [(line, 4), (ByteArray.empty, 0), (ByteArray.empty, 9)] [0, 5, 40] (Prod.ext hfed rfl)
      (Prod.ext hclosed rfl)
  refine ⟨hclosed, log t', ?_⟩
  rw [← hline]
  exact hemitted hend

end Compressor

end StreamCodec
