import StreamCodec.Compressor
import StreamCodec.Proofs.Dialect
import StreamCodec.Proofs.Encoders
import StreamCodec.Proofs.Extracting
import StreamCodec.Proofs.Flushing

/-!
What a compressor writes, a decompressor reads back, whatever the pieces and the windows are
on either side.
-/

namespace StreamCodec

open BoundedCall Schedule

variable [Engines] {codec : Codec} {level : Level} {G : Grammar}

namespace Compressor

abbrev Session (codec : Codec) (level : Level) : Type :=
  Encoder (EncoderState codec (Engines.encoder codec level))

abbrev engine (codec : Codec) (level : Level) :
    EncodeEngine (EncoderState codec (Engines.encoder codec level)) :=
  encodeEngine codec (Engines.encoder codec level)

theorem compressInto_mk (codec : Codec) (level : Level) (chunk : ChunkSize)
    (session : Session codec level) (input : ByteArray) (room : Nat) :
    (mk codec level chunk session).compressInto input room =
      ((session.compressInto (engine codec level) input room).1,
        mk codec level chunk (session.compressInto (engine codec level) input room).2) := rfl

def closing : BoundedCall Compressor := fun c _ room => c.finishInto room

theorem closing_mk (codec : Codec) (level : Level) (chunk : ChunkSize)
    (session : Session codec level) (input : ByteArray) (room : Nat) :
    closing (mk codec level chunk session) input room =
      ((Encoder.closing (engine codec level) session input room).1,
        mk codec level chunk (Encoder.closing (engine codec level) session input room).2) := rfl

theorem fronts_of_reached {taken packed : ByteArray}
    {s : EncoderState codec (Engines.encoder codec level)}
    (h : (engine codec level).Reached (newEncoder codec (Engines.encoder codec level) level)
      EncodeEngine.Any .ended taken packed s) :
    Decoder.Fronts (codec.Hands (Along ((Engines.encoder codec level).Writes codec))) packed := by
  intro front rest hfront
  rw [← ByteArray.append_empty (b := packed)] at hfront
  exact hands_of_reached h hfront

/-- Feeding a fresh compressor and finishing it writes a stream of what it was fed. -/
theorem feed_closes (hN : (Engines.encoder codec level).Follows codec G) (chunk : ChunkSize)
    {windows : Nat → Nat} (hw : ∀ i, 0 < windows i) (pieces : List ByteArray) :
    ∃ fed c i packed c' j,
      feed compressInto (fun _ => false) windows 0 (new codec level chunk) pieces ByteArray.empty =
        some (.ok fed, c, i) ∧
      drain closing windows i c ByteArray.empty fed = some (.ok packed, c', j) ∧
      c'.session.finished = true ∧
      c'.stats = { bytesIn := (joined pieces).size, bytesOut := packed.size } ∧
      ∃ s, (engine codec level).Reached (newEncoder codec (Engines.encoder codec level) level)
        EncodeEngine.Any .ended (joined pieces) packed s := by
  have hE := encodeEngine_follows hN level
  obtain ⟨fed, s, i, hfeed, ht, hnone⟩ :=
    Encoder.feed_feeds hE hw (Encoder.tracks_fresh _ _ fun _ _ => True) rfl pieces 0 ByteArray.empty
  rw [ByteArray.empty_append] at hfeed
  rw [ByteArray.empty_append, ByteArray.empty_append] at ht
  obtain ⟨tail, s', j, hdrain, hend, ht'⟩ := Encoder.drain_closes hE hw ht hnone i fed
  have hfeed' : feed compressInto (fun _ => false) windows 0 (mk codec level chunk _) pieces
      ByteArray.empty = _ :=
    feed_lift (mk codec level chunk) (compressInto_mk codec level chunk) hfeed
  have hdrain' : drain closing windows i (mk codec level chunk s) ByteArray.empty fed = _ :=
    drain_lift (mk codec level chunk) (closing_mk codec level chunk) hdrain
  exact ⟨fed, _, i, _, _, j, hfeed', hdrain', hend, ht'.stats, _, ht'.reached⟩

end Compressor

/-- Feeding a fresh decompressor a whole stream brings back what it holds. -/
theorem Decompressor.feed_whole {P : ByteArray → Prop} (hE : Follows codec P G fun _ => False)
    (chunk : ChunkSize) {windows : Nat → Nat} (hw : ∀ i, ∃ k, 0 < windows (i + k))
    {pieces : List ByteArray} (hpieces : ∀ p ∈ pieces, p.size ≠ 0)
    (hfronts : Decoder.Fronts P (joined pieces))
    (hwhole : G.verdict (joined pieces) = .complete (joined pieces).size) :
    ∃ d i, feed decompressInto (fun _ => false) windows 0 (new codec chunk) pieces ByteArray.empty =
        some (.ok (G.plain (joined pieces)), d, i) ∧
      d.finished = true ∧
      d.stats = { bytesIn := (joined pieces).size,
                  bytesOut := (G.plain (joined pieces)).size } := by
  obtain ⟨out, session, i, hfeed, hend, ht⟩ :=
    Decoder.feed_whole hE hw hfronts hwhole (Decoder.tracks_fresh _ _ P) rfl
      (Decoder.waits_fresh G _) hpieces ByteArray.empty_append 0 ByteArray.empty
  rw [ByteArray.empty_append] at hfeed ht
  rw [(ht.complete hE hend).2]
  have hlift : feed decompressInto (fun _ => false) windows 0 (mk codec chunk _) pieces
      ByteArray.empty = _ :=
    feed_lift (mk codec chunk) (decompressInto_mk codec chunk) hfeed
  exact ⟨_, i, hlift, hend, ht.stats⟩

/-- Feeding pieces to a compressor and finishing it, and feeding what it wrote, cut into any pieces,
to a decompressor brings the bytes back. The native decoder only has to keep to the grammar along
what the native encoder writes. -/
theorem Compressor.feed_closing_feed (hN : (Engines.encoder codec level).Follows codec G)
    (hD : (Engines.decoder codec).FollowsOn codec
      (Along ((Engines.encoder codec level).Writes codec)) G)
    (hmoves : codec = .gzip → (Engines.decoder codec).EndsMovingOn codec
      (Along ((Engines.encoder codec level).Writes codec)))
    (chunk : ChunkSize) {windows : Nat → Nat} (hw : ∀ i, 0 < windows i) (pieces : List ByteArray) :
    ∃ fed c i packed c' j,
      feed compressInto (fun _ => false) windows 0 (new codec level chunk) pieces ByteArray.empty =
        some (.ok fed, c, i) ∧
      drain closing windows i c ByteArray.empty fed = some (.ok packed, c', j) ∧
      c'.session.finished = true ∧
      c'.stats = { bytesIn := (joined pieces).size, bytesOut := packed.size } ∧
      ∀ (chunk' : ChunkSize) (windows' : Nat → Nat), (∀ i, 0 < windows' i) →
        ∀ pieces' : List ByteArray, (∀ p ∈ pieces', p.size ≠ 0) → joined pieces' = packed →
        ∃ d k,
          feed Decompressor.decompressInto (fun _ => false) windows' 0
            (Decompressor.new codec chunk') pieces' ByteArray.empty =
              some (.ok (joined pieces), d, k) ∧
          d.finished = true ∧
          d.stats = { bytesIn := packed.size, bytesOut := (joined pieces).size } := by
  obtain ⟨fed, c, i, packed, c', j, hfeed, hdrain, hend, hstats, s, hreach⟩ :=
    feed_closes hN chunk hw pieces
  obtain ⟨hverdict, hplain⟩ := (encodeEngine_follows hN level).complete hreach
  refine ⟨fed, c, i, packed, c', j, hfeed, hdrain, hend, hstats, ?_⟩
  rintro chunk' windows' hw' pieces' hpieces' rfl
  have hE := decodeEngine_followsOn hD hmoves
  rw [← hplain]
  exact Decompressor.feed_whole hE chunk' (fun i => ⟨0, hw' i⟩) hpieces' (fronts_of_reached hreach)
    hverdict

omit [Engines] in
/-- A line in two pieces, through windows of one byte up to three. -/
theorem Compressor.feed_closing_feed_line :
    letI : Engines := Deflate.Dialect.engines
    let front := Bytes.ofList (Deflate.Dialect.line.take 2)
    let rest := Bytes.ofList (Deflate.Dialect.line.drop 2)
    ∃ fed c i packed c' j,
      feed compressInto (fun _ => false) (· % 3 + 1) 0 (new .gzip .balanced .standard) [front, rest]
        ByteArray.empty = some (.ok fed, c, i) ∧
      drain closing (· % 3 + 1) i c ByteArray.empty fed = some (.ok packed, c', j) ∧
      c'.session.finished = true ∧ c'.stats = { bytesIn := 6, bytesOut := packed.size } ∧
      ∀ pieces', (∀ p ∈ pieces', p.size ≠ 0) → joined pieces' = packed → ∃ d k,
        feed Decompressor.decompressInto (fun _ => false) (fun _ => 1) 0
          (Decompressor.new .gzip .standard) pieces'
          ByteArray.empty = some (.ok (Bytes.ofList Deflate.Dialect.line), d, k) ∧
          d.finished = true := by
  let : Engines := Deflate.Dialect.engines
  obtain ⟨fed, c, i, packed, c', j, hfeed, hdrain, hend, hstats, hback⟩ :=
    @Compressor.feed_closing_feed Deflate.Dialect.engines .gzip .balanced Deflate.Dialect.grammar
      Deflate.Dialect.encoder_follows (Deflate.Dialect.decoder_follows.on _)
        (fun _ => Deflate.Dialect.decoder_endsMoving.on _)
      .standard (· % 3 + 1) (fun i => Nat.succ_pos _)
      [Bytes.ofList (Deflate.Dialect.line.take 2), Bytes.ofList (Deflate.Dialect.line.drop 2)]
  refine ⟨fed, c, i, packed, c', j, hfeed, hdrain, hend, hstats, fun pieces' hpieces' hjoined => ?_⟩
  obtain ⟨d, k, hread, hdone, -⟩ :=
    hback .standard (fun _ => 1) (fun _ => Nat.one_pos) pieces' hpieces' hjoined
  exact ⟨d, k, hread, hdone⟩

end StreamCodec
