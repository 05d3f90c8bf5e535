import Mathlib.Tactic.ByContra
import StreamCodec.OneShot
import StreamCodec.Proofs.Decoders
import StreamCodec.Proofs.Feeding

/-!
Decompressing a whole byte string at once. The growth loop and the drain behind it end, and
the result is what the grammar makes of the byte string, for any chunk size.
-/

namespace StreamCodec

open DecodeEngine

section

variable [Engines]

namespace Decompressor

abbrev Session (codec : Codec) : Type := Decoder (DecoderState codec (Engines.decoder codec))

abbrev engine (codec : Codec) : DecodeEngine (DecoderState codec (Engines.decoder codec)) :=
  decodeEngine codec (Engines.decoder codec)

/-- Offered bytes of `P` only, the decoder of the format follows a grammar. -/
def Follows (codec : Codec) (P : ByteArray → Prop) (G : Grammar)
    (Late : DecoderState codec (Engines.decoder codec) → Prop) : Prop :=
  (engine codec).Follows (newDecoder codec (Engines.decoder codec)) (fun b _ => P b) G Late

abbrev Tracks {codec : Codec} (P : ByteArray → Prop) :
    Session codec → (read written : ByteArray) → Prop :=
  Decoder.Tracks (engine codec) (newDecoder codec (Engines.decoder codec)) P

variable {codec : Codec} {chunk : ChunkSize} {P : ByteArray → Prop} {G : Grammar}
  {Late : DecoderState codec (Engines.decoder codec) → Prop}

theorem decompressInto_mk (codec : Codec) (chunk : ChunkSize) (session : Session codec)
    (input : ByteArray) (room : Nat) :
    (mk codec chunk session).decompressInto input room =
      ((session.decompressInto (engine codec) input room).1,
        mk codec chunk (session.decompressInto (engine codec) input room).2) := rfl

theorem decompressInto_size_le {d d' : Decompressor} {input b : ByteArray} {room : Nat}
    (h : d.decompressInto input room = (.ok b, d')) : b.size ≤ room := by
  obtain ⟨codec, chunk, session⟩ := d
  rcases hcall : session.decompressInto (engine codec) input room with ⟨answer, session'⟩
  rw [decompressInto_mk, hcall] at h
  cases h
  exact Decoder.decompressInto_size_le hcall

/-- The growth loop of a decompressor is a drain of its session. -/
theorem decompress_of_drain {session : Session codec} {input : ByteArray}
    {r : Outcome ByteArray × Session codec × Nat}
    (h : BoundedCall.drain (Decoder.decompressInto (engine codec)) (fun _ => chunk.size) 0 session
      input ByteArray.empty = some r) :
    (mk codec chunk session).decompress input = (r.1, mk codec chunk r.2.1) := by
  have hlift : BoundedCall.drain (fun d input room => decompressInto d input room) _ _ _ _ _ = _ :=
    BoundedCall.drain_lift (mk codec chunk) (decompressInto_mk codec chunk) h
  have hcollect := Schedule.collect_of_drain (fun s input room b s' => decompressInto_size_le) hlift
  simp only [decompress, Growth.all, hcollect, Option.getD_some]

theorem decompress_comes (chunk : ChunkSize) (hE : Follows codec P G Late) {session : Session codec}
    {read written : ByteArray} (ht : Tracks P session read written)
    (hopen : session.finished = false)
    (input : ByteArray) (hinput : input.size = 0 ∨ session.ledger.pending.unread = 0)
    (hoffered : P (read ++ (session.ledger.pending.remaining.toBytes ++ input))) :
    ∃ answer session' i,
      (mk codec chunk session).decompress input = (answer, mk codec chunk session') ∧
      Decoder.Drained (engine codec) (newDecoder codec (Engines.decoder codec)) P G Late
        session.engine (read ++ (session.ledger.pending.remaining.toBytes ++ input)) written
        ByteArray.empty (answer, session', i) ∧
      session'.ledger.pending.bytes =
        if input.size = 0 then session.ledger.pending.bytes else input := by
  obtain ⟨⟨answer, session', i⟩, hdrain, hdrained⟩ :=
    Decoder.drain_comes hE (fun _ => chunk.size) (fun _ => ⟨0, chunk.one_le⟩) ht hopen input
      hinput hoffered 0 ByteArray.empty
  refine ⟨answer, session', i, decompress_of_drain hdrain, hdrained, ?_⟩
  obtain ⟨q, haccept, -⟩ := Pending.accept_ok (engine codec).codec hinput
  rw [← Pending.accept_bytes haccept]
  exact BoundedCall.drain_keeps (P := fun s => s.ledger.pending.bytes = q.bytes)
    (Decoder.decompressInto_bytes haccept chunk.size)
    (fun s room hs => (Decoder.decompressInto_bytes (Pending.accept_empty _ _) room).trans hs)
      hdrain

end Decompressor

namespace OneShot

open Decompressor

variable {codec : Codec} {chunk : ChunkSize} {P : ByteArray → Prop} {G : Grammar}
  {Late : DecoderState codec (Engines.decoder codec) → Prop}

/-- A session that waits for more has nothing left to collect. -/
theorem drain_waits (chunk : ChunkSize) (hE : Follows codec P G Late) {session : Session codec}
    {read written : ByteArray} (ht : Tracks P session read written)
    (hopen : session.finished = false)
    (hwaits : Decoder.Waits G session read written) (hoffered : P read) (out : ByteArray) :
    ∃ session', session'.finished = false ∧
      drain (Decompressor.mk codec chunk session) out =
        some (.ok out, Decompressor.mk codec chunk session') := by
  have hnothing : read ++ (session.ledger.pending.remaining.toBytes ++ ByteArray.empty) = read := by
    rw [hwaits.remaining, ByteArray.append_empty, ByteArray.append_empty]
  obtain ⟨answer, session', i, hcall, hdrained, -⟩ :=
    decompress_comes chunk hE ht hopen ByteArray.empty (.inl rfl) (hnothing.symm ▸ hoffered)
  rw [hwaits.remaining, ByteArray.append_empty, ByteArray.append_empty] at hdrained
  cases answer with
  | ok more =>
    obtain ⟨read', tail, htail, ht', hsplit, -⟩ := hdrained
    rw [ByteArray.empty_append] at htail
    subst htail
    have hmore : more.size = 0 := ht'.size_eq_zero hE (hsplit ▸ hwaits.plain)
    have hopen' : session'.finished = false := ht'.finished_eq_false hE (hsplit ▸ hwaits.unfinished)
    refine ⟨session', hopen', ?_⟩
    rw [drain, hcall]
    simp only [Decompressor.finished, hopen, if_neg Bool.false_ne_true, if_pos hmore]
  | error e =>
    obtain ⟨m, -, hcorrupt⟩ := hdrained
    rw [hwaits.unfinished] at hcorrupt
    cases hcorrupt
  | trap t => exact hdrained.elim

/-- What collecting comes to for a session that has been offered all of `b`: the stream to its end,
nothing more because it goes on behind `b`, or a refusal. -/
def Collected (codec : Codec) (P : ByteArray → Prop) (G : Grammar) (chunk : ChunkSize)
    (b written out span : ByteArray) :
    Outcome ByteArray × Decompressor → Prop
  | (.ok total, d) => ∃ session, d = Decompressor.mk codec chunk session ∧
      ((session.finished = true ∧ session.ledger.pending.bytes = span ∧
        ∃ read tail, total = out ++ tail ∧
          Tracks P session read (written ++ tail) ∧
          read ++ session.ledger.pending.remaining.toBytes = b) ∨
        (session.finished = false ∧ G.verdict b = .unfinished))
  | (.error e, _) => ∃ m, e = .decode codec m ∧ G.verdict b = .corrupt m
  | (.trap _, _) => False

theorem Collected.of_later {b written out more span : ByteArray}
    {r : Outcome ByteArray × Decompressor}
    (h : Collected codec P G chunk b (written ++ more) (out ++ more) span r) :
    Collected codec P G chunk b written out span r := by
  obtain ⟨answer, d⟩ := r
  cases answer with
  | ok total =>
    obtain ⟨session, hd, ⟨hfinished, hspan, read, tail, htotal, ht, hsplit⟩ | hopen⟩ := h
    · rw [ByteArray.append_assoc] at htotal ht
      exact ⟨session, hd, .inl ⟨hfinished, hspan, read, more ++ tail, htotal, ht, hsplit⟩⟩
    · exact ⟨session, hd, .inr hopen⟩
  | error e => exact h
  | trap t => exact h

/-- A session at its end, or waiting for more, has been collected. -/
theorem collected_of_rests (chunk : ChunkSize) {session : Session codec}
    {b read written : ByteArray} (ht : Tracks P session read written)
    (hsplit : read ++ session.ledger.pending.remaining.toBytes = b)
    (hrests : Decoder.Rests G session read written) (out : ByteArray) :
    Collected codec P G chunk b written out session.ledger.pending.bytes
      (.ok out, Decompressor.mk codec chunk session) := by
  refine ⟨session, rfl, ?_⟩
  cases hfinished : session.finished with
  | true =>
    refine .inl ⟨rfl, rfl, read, ByteArray.empty, ByteArray.append_empty.symm, ?_, hsplit⟩
    rw [ByteArray.append_empty]
    exact ht
  | false =>
    have hwaits := hrests.resolve_left (by rw [hfinished]; exact Bool.false_ne_true)
    rw [hwaits.remaining, ByteArray.append_empty] at hsplit
    exact .inr ⟨rfl, hsplit ▸ hwaits.unfinished⟩

theorem drain_rests (chunk : ChunkSize) (hE : Follows codec P G Late) {session : Session codec}
    {b read written : ByteArray} (ht : Tracks P session read written)
    (hsplit : read ++ session.ledger.pending.remaining.toBytes = b)
    (hrests : Decoder.Rests G session read written) (hoffered : P b) (out : ByteArray) :
    ∃ r, drain (Decompressor.mk codec chunk session) out = some r ∧
      Collected codec P G chunk b written out session.ledger.pending.bytes r := by
  cases hfinished : session.finished with
  | true =>
    refine ⟨_, ?_, collected_of_rests chunk ht hsplit hrests out⟩
    rw [drain]
    simp only [Decompressor.finished, hfinished, if_true]
  | false =>
    have hwaits := hrests.resolve_left (by rw [hfinished]; exact Bool.false_ne_true)
    rw [hwaits.remaining, ByteArray.append_empty] at hsplit
    obtain ⟨session', hopen', hdrain⟩ :=
      drain_waits chunk hE ht hfinished hwaits (hsplit ▸ hoffered) out
    exact ⟨_, hdrain, session', rfl, .inr ⟨hopen', hsplit ▸ hwaits.unfinished⟩⟩

/-- A session that is late comes to rest with one more collection. -/
theorem drain_collects (chunk : ChunkSize) (hE : Follows codec P G Late) {session : Session codec}
    {b read written : ByteArray} (ht : Tracks P session read written)
    (hsplit : read ++ session.ledger.pending.remaining.toBytes = b)
    (hstate : Decoder.Rests G session read written ∨ Late session.engine) (hoffered : P b)
    (out : ByteArray) :
    ∃ r, drain (Decompressor.mk codec chunk session) out = some r ∧
      Collected codec P G chunk b written out session.ledger.pending.bytes r := by
  by_cases hrests : Decoder.Rests G session read written
  · exact drain_rests chunk hE ht hsplit hrests hoffered out
  · have hlate := hstate.resolve_left hrests
    have hopen : session.finished = false := Bool.not_eq_true _ ▸ fun h => hrests (.inl h)
    obtain ⟨answer, session', i, hcall, hdrained, hspan⟩ :=
      decompress_comes chunk hE ht hopen ByteArray.empty (.inl rfl)
        (by rw [ByteArray.append_empty, hsplit]; exact hoffered)
    rw [ByteArray.append_empty, hsplit] at hdrained
    rw [drain, hcall]
    simp only [Decompressor.finished, hopen, if_neg Bool.false_ne_true]
    cases answer with
    | ok more =>
      obtain ⟨read', tail, htail, ht', hsplit', hend⟩ := hdrained
      rw [ByteArray.empty_append] at htail
      subst htail
      have hrests' : Decoder.Rests G session' read' (written ++ more) :=
        hend.imp_right fun h => h.resolve_right fun h => h.1 hlate
      rw [if_pos ByteArray.size_empty] at hspan
      rw [← hspan]
      by_cases hmore : more.size = 0
      · simp only [if_pos hmore]
        rw [ByteArray.size_eq_zero_iff.mp hmore, ByteArray.append_empty] at ht' hrests'
        exact ⟨_, rfl, collected_of_rests chunk ht' hsplit' hrests' out⟩
      · simp only [if_neg hmore]
        obtain ⟨r, hdrain, hcollected⟩ :=
          drain_rests chunk hE ht' hsplit' hrests' hoffered (out ++ more)
        exact ⟨r, hdrain, hcollected.of_later⟩
    | error e =>
      obtain ⟨m, he, hcorrupt⟩ := hdrained
      exact ⟨_, rfl, m, he.trans (by rw [codec_decodeEngine]), hcorrupt⟩
    | trap t => exact hdrained.elim

/-- What the grammar says of `b` is what came of decompressing it. -/
def Judged (codec : Codec) (G : Grammar) (b : ByteArray)
    (r : Outcome ByteArray × Decompressor) : Prop :=
  match G.verdict b with
  | .complete n => r.1 = .ok (G.plain b) ∧ r.2.bytesUsed = n ∧ r.2.finished = true
  | .corrupt m => r.1 = .error (.decode codec m)
  | .unfinished => r.1 = .error (.truncated codec) ∧ r.2.finished = false

theorem Judged.complete {b : ByteArray} {r : Outcome ByteArray × Decompressor}
    (h : Judged codec G b r) {n : Nat} (hverdict : G.verdict b = .complete n) :
    r.1 = .ok (G.plain b) ∧ r.2.bytesUsed = n ∧ r.2.finished = true := by
  rw [Judged, hverdict] at h
  exact h

theorem Judged.corrupt {b : ByteArray} {r : Outcome ByteArray × Decompressor}
    (h : Judged codec G b r) {m : String}
    (hverdict : G.verdict b = .corrupt m) : r.1 = .error (.decode codec m) := by
  rw [Judged, hverdict] at h
  exact h

theorem Judged.unfinished {b : ByteArray} {r : Outcome ByteArray × Decompressor}
    (h : Judged codec G b r)
    (hverdict : G.verdict b = .unfinished) :
    r.1 = .error (.truncated codec) ∧ r.2.finished = false := by
  rw [Judged, hverdict] at h
  exact h

/-- A result comes only of a whole stream. -/
theorem Judged.of_ok {b : ByteArray} {r : Outcome ByteArray × Decompressor} (h : Judged codec G b r)
    {out : ByteArray} (hok : r.1 = .ok out) :
    G.verdict b = .complete r.2.bytesUsed ∧ G.plain b = out := by
  cases hverdict : G.verdict b with
  | complete n =>
    obtain ⟨hplain, hused, -⟩ := h.complete hverdict
    rw [hok] at hplain
    exact ⟨by rw [hused], (Outcome.ok.inj hplain).symm⟩
  | corrupt m => cases hok.symm.trans (h.corrupt hverdict)
  | unfinished => cases hok.symm.trans (h.unfinished hverdict).1

/-- The result is that of the verdict, so byte strings with the same verdict have the same one. -/
theorem Judged.eq {b b' : ByteArray} {r r' : Outcome ByteArray × Decompressor}
    (h : Judged codec G b r) (h' : Judged codec G b' r') (hverdict : G.verdict b' = G.verdict b)
    (hplain : G.plain b' = G.plain b) :
    r'.1 = r.1 ∧ ∀ out, r.1 = .ok out → r'.2.bytesUsed = r.2.bytesUsed := by
  cases hb : G.verdict b with
  | complete n =>
    obtain ⟨hok, hused, -⟩ := h.complete hb
    obtain ⟨hok', hused', -⟩ := h'.complete (hverdict.trans hb)
    exact ⟨by rw [hok, hok', hplain], fun _ _ => by rw [hused, hused']⟩
  | corrupt m =>
    have herror := h.corrupt hb
    refine ⟨by rw [herror, h'.corrupt (hverdict.trans hb)], fun out hok => ?_⟩
    cases hok.symm.trans herror
  | unfinished =>
    have herror := (h.unfinished hb).1
    refine ⟨by rw [herror, (h'.unfinished (hverdict.trans hb)).1], fun out hok => ?_⟩
    cases hok.symm.trans herror

theorem Collected.judged (hE : Follows codec P G Late) {b : ByteArray}
    {r : Outcome ByteArray × Decompressor}
    {out : ByteArray} (h : Collected codec P G chunk b out out b r) :
    Judged codec G b (whole r) := by
  obtain ⟨answer, d⟩ := r
  unfold Judged
  cases answer with
  | ok total =>
    obtain ⟨session, rfl, ⟨hfinished, hspan, read, tail, rfl, ht, hsplit⟩ | ⟨hopen, hverdict⟩⟩ := h
    · obtain ⟨hverdict, hplain⟩ := ht.complete hE hfinished
      have hused : session.ledger.pending.used = read.size := by
        have hsizes := congrArg ByteArray.size hsplit
        have hle := session.ledger.pending.used_le
        rw [ByteArray.size_append, Slice.size_toBytes, Pending.size_remaining, Pending.unread,
          hspan] at hsizes
        rw [hspan] at hle
        omega
      rw [← hsplit, G.complete_append hverdict, G.plain_settled _ _ _ hverdict, hplain]
      rw [whole, if_pos (show (Decompressor.mk codec chunk session).finished = true from hfinished)]
      exact ⟨rfl, hused, hfinished⟩
    · rw [hverdict]
      rw [whole, if_neg (show ¬ (Decompressor.mk codec chunk session).finished = true from
        Bool.not_eq_true _ ▸ hopen)]
      exact ⟨rfl, hopen⟩
  | error e =>
    obtain ⟨m, rfl, hcorrupt⟩ := h
    rw [hcorrupt]
    rfl
  | trap t => exact h.elim

/-- Decompressing a byte string gives what the grammar makes of it, in chunks of any size. -/
theorem decompressWith_judged (hE : Follows codec P G Late) (chunk : ChunkSize) {b : ByteArray}
    (hoffered : P b) :
    Judged codec G b (decompressWith (Decompressor.new codec chunk) b) := by
  have ht : Tracks P { engine := newDecoder codec (Engines.decoder codec) } ByteArray.empty
      ByteArray.empty :=
    Decoder.tracks_fresh _ _ P
  have hwhole : ByteArray.empty ++ (ByteArray.empty ++ b) = b := by
    rw [ByteArray.empty_append, ByteArray.empty_append]
  obtain ⟨answer, session, i, hcall, hdrained, hspan⟩ :=
    decompress_comes chunk hE ht rfl b (.inr rfl) (hwhole.symm ▸ hoffered)
  have hnew : (Decompressor.new codec chunk).decompress b =
      (answer, Decompressor.mk codec chunk session) := hcall
  rw [(Decoder.waits_fresh G _).remaining, ByteArray.empty_append,
    ByteArray.empty_append] at hdrained
  unfold decompressWith
  rw [hnew]
  cases answer with
  | ok out =>
    obtain ⟨read, tail, htail, ht', hsplit, hend⟩ := hdrained
    rw [ByteArray.empty_append] at htail ht' hend
    subst htail
    have hstate : Decoder.Rests G session read out ∨ Late session.engine := by
      rw [← or_assoc] at hend
      exact hend.imp_right And.right
    have hb : session.ledger.pending.bytes = b := by
      rw [hspan]
      split
      · next hempty => exact (ByteArray.size_eq_zero_iff.mp hempty).symm
      · rfl
    obtain ⟨r, hdrain, hcollected⟩ := drain_collects chunk hE ht' hsplit hstate hoffered out
    rw [hb] at hcollected
    simp only [hdrain, Option.getD_some]
    exact hcollected.judged hE
  | error e =>
    obtain ⟨m, he, hcorrupt⟩ := hdrained
    rw [codec_decodeEngine] at he
    subst he
    simp only [Judged, hcorrupt]
  | trap t => exact hdrained.elim

end OneShot

end

end StreamCodec
