import StreamCodec.Builtin
import StreamCodec.Proofs.Failing
import StreamCodec.Proofs.Builtin.Brotli
import StreamCodec.Proofs.Builtin.Bzip2
import StreamCodec.Proofs.Builtin.Inflating
import StreamCodec.Proofs.Builtin.Xz
import StreamCodec.Proofs.Builtin.Zstd

/-!
Native decoders behind an error. Those of xz and bzip2 stand still there and answer every call
alike. For xz the answer is that the call came out of turn, and so it can be for bzip2; a
decompressor is trapped by it. So these two are tame only where their caller stops at a refusal; the
other decoders of this library are tame under any caller.
-/

namespace StreamCodec

open Schedule

/-- Once it has refused a call, the native decoder stands still and refuses all that follow alike,
in a way that `R` says of the first refusal. -/
def NativeDecoder.Repeats (N : NativeDecoder) (R : Refusal → Refusal → Prop) : Prop :=
  ∀ s input room r s', N.run s input room = (.error r, s') →
    ∃ r', R r r' ∧ ∀ input' room', N.run s' input' room' = (.error r', s')

/-- A decoder that says behind a verdict that the next call came out of turn is not tame for a
caller who goes on. -/
theorem NativeDecoder.not_tame {N : NativeDecoder} {codec : Codec} {s s' : N.State}
    {input later : Slice} {room : Nat} {verdict message : String} (hfits : codec.Fits room)
    (hrun : N.run N.fresh input room = (.error (.data verdict), s))
    (hnext : N.run s later room = (.error (.sequence message), s')) : ¬ N.Tame codec True := by
  intro htame
  have hcall :
      (N.engine codec).decode N.fresh input room = (.error (.decode codec verdict), s) := by
    simp only [NativeDecoder.engine, hrun, Answer.outcome, Refusal.whileDecoding_data]
  have hgood := htame s later room (.error trivial .fresh hfits hcall) hfits
  rw [hnext] at hgood
  obtain ⟨m, hm⟩ := hgood
  cases hm

namespace Decoder

open DecodeEngine

variable {σ : Type} {E : DecodeEngine σ} {Fits : Nat → Prop} {R : Error → Outcome Step → Prop}
  {r : Outcome Step} {s : σ} {d d' : Decoder σ}

/-- Offered a window that fits, the engine answers `r`, which is no step, and else it is idle. -/
structure Stalls (E : DecodeEngine σ) (Fits : Nat → Prop) (r : Outcome Step) (s : σ) : Prop where
  refuses : ∀ step, r ≠ .ok step
  answers : ∀ input room, Fits room → E.decode s input room = (r, s)
  rests : ∀ input room, ¬ Fits room → E.decode s input room = (.ok .idle, s)

theorem Stalls.run (h : Stalls E Fits r s) (l : Ledger) (room : Nat) :
    (run E s l room ByteArray.empty).2.engine = s ∧
      (run E s l room ByteArray.empty).2.finished = false ∧
      (Fits room → (run E s l room ByteArray.empty).1 = r.map Step.output) := by
  by_cases hfits : Fits room
  · have hcall := h.answers l.pending.remaining room hfits
    cases r with
    | ok step => exact absurd rfl (h.refuses step)
    | error e =>
      rw [run_error hcall]
      exact ⟨rfl, rfl, fun _ => rfl⟩
    | trap t =>
      rw [run_trap hcall]
      exact ⟨rfl, rfl, fun _ => rfl⟩
  · obtain ⟨l', -, -, hrun⟩ := run_idle (h.rests l.pending.remaining room hfits) ByteArray.empty
    rw [hrun]
    exact ⟨rfl, rfl, fun hfit => absurd hfit hfits⟩

/-- A session over an engine that answers `r` to whatever it is offered. -/
structure Stalled (E : DecodeEngine σ) (Fits : Nat → Prop) (r : Outcome Step) (d : Decoder σ) :
    Prop where
  stalls : Stalls E Fits r d.engine
  unfinished : d.finished = false

theorem Stalled.exchange (h : Stalled E Fits r d) (m : ByteArray × Nat) :
    Stalled E Fits r (exchange E d m).2 := by
  rw [Decoder.exchange]
  obtain hearly | ⟨q, -, hcall⟩ := decompressInto_cases E d m.1 m.2
  · rw [hearly]
    exact h
  · obtain ⟨hengine, hopen, -⟩ := h.stalls.run { d.ledger with pending := q } m.2
    rw [hcall, h.unfinished, if_neg Bool.false_ne_true]
    refine ⟨?_, hopen⟩
    show Stalls E Fits r (run E d.engine { d.ledger with pending := q } m.2 _).2.engine
    rw [hengine]
    exact h.stalls

theorem Stalled.answer (h : Stalled E Fits r d) {input : ByteArray}
    (hinput : input.size = 0 ∨ d.ledger.pending.unread = 0) {room : Nat} (hfits : Fits room) :
    (Decoder.exchange E d (input, room)).1.answer = r.map Step.output := by
  obtain ⟨q, haccept, -⟩ := Pending.accept_ok E.codec hinput
  obtain ⟨engine, ledger, finished⟩ := d
  have hopen : finished = false := h.unfinished
  rw [Decoder.exchange, decompressInto_accepted E engine haccept, hopen,
    if_neg Bool.false_ne_true]
  exact (h.stalls.run { ledger with pending := q } room).2.2 hfits

/-- Once a call has failed, all that follow and may bring their input are answered alike. -/
theorem each_stalled
    (hE : ∀ s input room e s', E.decode s input room = (.error e, s') →
      ∃ r, R e r ∧ Stalls E Fits r s')
    {ms : List (ByteArray × Nat)} {xs : List Exchange} (hrun : each (exchange E) d ms = (xs, d'))
    (h : ∃ x ∈ xs, x.Fails) :
    ∃ e r, R e r ∧ ∀ later, Stalled E Fits r (each (exchange E) d' later).2 := by
  obtain ⟨rfl, rfl⟩ := Prod.mk.inj hrun
  have hstalled : ∃ e r, R e r ∧ Stalled E Fits r (each (exchange E) d ms).2 := by
    refine each_enters (P := fun d => ∃ e r, R e r ∧ Stalled E Fits r d) ?_ ?_ h
    · rintro d m ⟨e, herror⟩
      obtain ⟨hopen, before, room, hcall⟩ := decompressInto_of_error (Prod.ext herror rfl)
      obtain ⟨r, hr, hstalls⟩ := hE _ _ _ _ _ hcall
      exact ⟨e, r, hr, hstalls, hopen⟩
    · rintro d m ⟨e, r, hr, hd⟩
      exact ⟨e, r, hr, hd.exchange m⟩
  obtain ⟨e, r, hr, hd⟩ := hstalled
  refine ⟨e, r, hr, fun later => ?_⟩
  exact (each_keeps (P := Stalled E Fits r) (Q := fun _ => True)
    (fun d m hd => ⟨hd.exchange m, trivial⟩) hd later).1

end Decoder

/-- What the engine of a native decoder says behind an error, and says again and again. -/
theorem NativeDecoder.Repeats.stalls {N : NativeDecoder} {R : Refusal → Refusal → Prop}
    (hN : N.Repeats R) {codec : Codec} {s s' : N.State} {input : Slice} {room : Nat} {e : Error}
    (h : (N.engine codec).decode s input room = (.error e, s')) :
    ∃ r r', r.whileDecoding codec = .error e ∧ R r r' ∧
      Decoder.Stalls (N.engine codec) (fun _ => True) (r'.whileDecoding codec) s' := by
  obtain ⟨r, hrun, he⟩ := NativeDecoder.exists_of_error h
  obtain ⟨r', hr', hagain⟩ := hN s input room r s' hrun
  refine ⟨r, r', he, hr', r'.whileDecoding_ne_ok codec, ?_, fun _ _ hfits => absurd trivial hfits⟩
  intro input' room' _
  simp only [NativeDecoder.engine, hagain]
  rfl

theorem Decoder.Stalls.sparing {σ : Type} {E : DecodeEngine σ} {r : Outcome Step} {s : σ}
    (h : Stalls E (fun _ => True) r s) : Stalls E.sparing (0 < ·) r s where
  refuses := h.refuses
  answers := fun input room hroom => by
    rw [DecodeEngine.sparing_decode, if_neg (Nat.ne_of_gt hroom)]
    exact h.answers input room trivial
  rests := fun input room hroom => by
    rw [DecodeEngine.sparing_decode, if_pos (Nat.eq_zero_of_not_pos hroom)]

namespace Xz.Decoder

theorem failed_of_decode {s s' : Decoder} {input : Slice} {room : Nat} {r : Refusal}
    (h : decode s input room = (.error r, s')) : s'.failed = true := by
  unfold decode at h
  split at h
  · next hbefore =>
    cases h
    exact hbefore
  · simp only at h
    split at h
    · cases h
    · cases h
    · cases h
    · cases h
      rfl

/-- xz says of every call behind an error that it came out of turn. -/
theorem engine_repeats : engine.Repeats fun _ r' => r' = .sequence "liblzma internal error" := by
  intro s input room r s' h
  exact ⟨_, rfl, fun _ _ => if_pos (failed_of_decode h)⟩

/-- Twelve bytes that start no stream. -/
def foreign : ByteArray := Bytes.ofList [1, 2, 3, 4, 5, 6, 7, 8, 9, 10, 11, 12]

theorem engine_not_tame : ¬ engine.Tame .lzma True := by
  obtain ⟨m, s', hrun⟩ : ∃ m s', engine.run engine.fresh { bytes := foreign } 9 =
      (.error (.data m), s') := ⟨_, _, rfl⟩
  obtain ⟨r', rfl, hagain⟩ := engine_repeats _ _ _ _ _ hrun
  exact NativeDecoder.not_tame trivial hrun (hagain { bytes := ByteArray.empty } 9)

end Xz.Decoder

namespace Bzip2.Decoder

theorem items_bad {input : ByteArray} {room fuel limit pos : Nat} {phase : Phase}
    {combined : UInt32} {out : ByteArray} {refusal : Refusal} {e : Fault}
    (h : (items input room fuel phase limit combined pos out).halt = .bad refusal e) :
    refusal = .verdict e ∨ refusal = .misuse ∧ e = .data := by
  fun_induction items input room fuel phase limit combined pos out with
  | case1 | case2 | case5 | case8 | case11 | case15 | case18 | case23 | case26 => cases h
  | case3 | case6 | case12 | case16 | case19 | case20 | case22 | case25 =>
    cases h
    exact .inl rfl
  | case9 =>
    cases h
    exact .inr ⟨rfl, rfl⟩
  | case4 | case7 | case10 | case13 | case14 | case17 | case21 | case24 =>
    rename_i ih
    exact ih h

theorem refusal_of_decode {s s' : Decoder} {input : Slice} {room : Nat} {r : StreamCodec.Refusal}
    (h : decode s input room = (.error r, s')) :
    (∃ e, s'.refusal = some (.verdict e) ∧ r = rejection e) ∨ s'.refusal = some .misuse := by
  unfold decode at h
  split at h
  · next e hbefore =>
    cases h
    exact .inl ⟨e, hbefore, rfl⟩
  · next hbefore =>
    cases h
    exact .inr hbefore
  · simp only at h
    split at h
    · cases h
    · cases h
    · cases h
    · next refusal e hbad =>
      cases h
      obtain rfl | ⟨rfl, rfl⟩ := items_bad hbad
      · exact .inl ⟨e, rfl, rfl⟩
      · exact .inr rfl

theorem decode_of_misuse {s : Decoder} (h : s.refusal = some .misuse) (input : Slice) (room : Nat) :
    decode s input room = (.error (.sequence "bzip2: sequence of operations invalid"), s) := by
  unfold decode
  rw [h]

theorem decode_of_verdict {s : Decoder} {e : Fault} (h : s.refusal = some (.verdict e))
    (input : Slice) (room : Nat) : decode s input room = (.error (rejection e), s) := by
  unfold decode
  rw [h]

/-- bzip2 repeats its verdict, or says that the call came out of turn: where the checksum of the
whole stream was wrong, the stream is at its end. -/
theorem engine_repeats : engine.Repeats fun r r' =>
    (∃ e, r = rejection e ∧ r' = r) ∨
      r' = .sequence "bzip2: sequence of operations invalid" := by
  intro s input room r s' h
  obtain ⟨e, hrefusal, rfl⟩ | hrefusal := refusal_of_decode h
  · exact ⟨_, .inl ⟨e, rfl, rfl⟩, decode_of_verdict hrefusal⟩
  · exact ⟨_, .inr rfl, decode_of_misuse hrefusal⟩

/-- A stream without blocks, but for the last byte of its checksum. -/
def hollow : ByteArray :=
  Bytes.ofList [0x42, 0x5a, 0x68, 0x39, 0x17, 0x72, 0x45, 0x38, 0x50, 0x90, 0x00, 0x00, 0x00, 0x01]

theorem engine_not_tame : ¬ engine.Tame .bzip2 True := by
  obtain ⟨s', hrun, hrefusal⟩ : ∃ s', engine.run engine.fresh { bytes := hollow } 9 =
      (.error (rejection .data), s') ∧ s'.refusal = some .misuse := ⟨_, rfl, rfl⟩
  exact NativeDecoder.not_tame (Nat.succ_pos 8) hrun
    (decode_of_misuse hrefusal { bytes := ByteArray.empty } 9)

end Bzip2.Decoder

/-- The decoders of this library are tame, those of xz and bzip2 unless their caller goes on behind
a refusal. -/
theorem Builtin.decoder_tame_iff (codec : Codec) (Onward : Prop) :
    (Builtin.decoder codec).Tame codec Onward ↔ (Onward → codec ≠ .lzma ∧ codec ≠ .bzip2) := by
  constructor
  · intro htame honward
    obtain rfl : Onward = True := eq_true honward
    constructor
    · rintro rfl
      exact Xz.Decoder.engine_not_tame htame
    · rintro rfl
      exact Bzip2.Decoder.engine_not_tame htame
  · intro hstops
    cases codec with
    | deflate => exact Deflate.Decoder.engine_tame false .deflate Onward
    | gzip => exact Deflate.Decoder.engine_tame false .gzip Onward
    | zlib => exact Deflate.Decoder.engine_tame true .zlib Onward
    | brotli => exact Brotli.Decoder.engine_tame .brotli Onward
    | zstd => exact Zstd.Decoder.engine_tame .zstd Onward
    | lzma =>
      obtain rfl : Onward = False := eq_false fun honward => (hstops honward).1 rfl
      exact Xz.Decoder.engine_tame .lzma
    | bzip2 =>
      obtain rfl : Onward = False := eq_false fun honward => (hstops honward).2 rfl
      exact Bzip2.Decoder.engine_tame .bzip2

namespace Decompressor

/-- An xz decompressor of this library that has failed is trapped by every call that may bring its
input. -/
theorem exchange_lzma_of_fails (chunk : ChunkSize) (calls : List (ByteArray × Nat)) :
    let past := each exchange (new .lzma chunk) calls
    (∃ x ∈ past.1, x.Fails) →
      ∀ input room, (input.size = 0 ∨ past.2.session.ledger.pending.unread = 0) →
        (past.2.exchange (input, room)).1.answer =
          .trap (.callRejected .lzma "liblzma internal error") := by
  intro past hfails input room hinput
  obtain ⟨xs, session, hheld, hpast⟩ := exists_session .lzma chunk calls
  rw [show past = (xs, mk .lzma chunk session) from hpast] at hfails hinput ⊢
  have hE (s : Xz.Decoder) (input : Slice) (room : Nat) (e : Error) (s' : Xz.Decoder)
      (h : (engine .lzma).decode s input room = (.error e, s')) :
      ∃ r, r = .trap (.callRejected .lzma "liblzma internal error") ∧
        Decoder.Stalls (engine .lzma) (fun _ => True) r s' := by
    obtain ⟨-, r, -, rfl, hstalls⟩ := Xz.Decoder.engine_repeats.stalls h
    exact ⟨_, rfl, hstalls⟩
  obtain ⟨-, r, rfl, hstalled⟩ :=
    Decoder.each_stalled (R := fun _ r => r = .trap _) hE hheld hfails
  exact (hstalled []).answer hinput trivial

/-- A bzip2 decompressor of this library that has failed gives one answer to all the calls that
follow with room and may bring their input: a verdict on the data, or it is trapped. -/
theorem exchange_bzip2_of_fails (chunk : ChunkSize) (calls : List (ByteArray × Nat)) :
    let past := each exchange (new .bzip2 chunk) calls
    (∃ x ∈ past.1, x.Fails) → ∃ r,
      ((∃ message, r = .error (.decode .bzip2 message)) ∨
        r = .trap (.callRejected .bzip2 "bzip2: sequence of operations invalid")) ∧
      ∀ later input room,
        let d := (each exchange past.2 later).2
        0 < room → (input.size = 0 ∨ d.session.ledger.pending.unread = 0) →
          (d.exchange (input, room)).1.answer = r := by
  intro past hfails
  obtain ⟨xs, session, hheld, hpast⟩ := exists_session .bzip2 chunk calls
  rw [show past = (xs, mk .bzip2 chunk session) from hpast] at hfails ⊢
  have hE (s : Bzip2.Decoder) (input : Slice) (room : Nat) (e : Error) (s' : Bzip2.Decoder)
      (h : (engine .bzip2).decode s input room = (.error e, s')) :
      ∃ r, ((∃ message, r = .error (.decode .bzip2 message)) ∨
          r = .trap (.callRejected .bzip2 "bzip2: sequence of operations invalid")) ∧
        Decoder.Stalls (engine .bzip2) (0 < ·) r s' := by
    obtain ⟨hidle, -⟩ | ⟨-, hcall⟩ := DecodeEngine.sparing_cases h
    · cases hidle
    obtain ⟨r, r', -, hr', hstalls⟩ := Bzip2.Decoder.engine_repeats.stalls hcall
    refine ⟨_, ?_, hstalls.sparing⟩
    obtain ⟨e', rfl, rfl⟩ | rfl := hr'
    · cases e' with
      | magic => exact .inl ⟨_, rfl⟩
      | data => exact .inl ⟨_, rfl⟩
    · exact .inr rfl
  obtain ⟨-, r, hr, hstalled⟩ := Decoder.each_stalled (R := fun _ r =>
    (∃ message, r = .error (.decode .bzip2 message)) ∨ r = .trap _) hE hheld hfails
  refine ⟨r.map Step.output, ?_, ?_⟩
  · obtain ⟨message, rfl⟩ | rfl := hr
    · exact .inl ⟨message, rfl⟩
    · exact .inr rfl
  · intro later input room d hroom hinput
    have hd : d = mk .bzip2 chunk (each (Decoder.exchange (engine .bzip2)) session later).2 :=
      congrArg Prod.snd (each_mk .bzip2 chunk session later)
    rw [hd] at hinput ⊢
    exact (hstalled later).answer hinput hroom

end Decompressor

end StreamCodec
