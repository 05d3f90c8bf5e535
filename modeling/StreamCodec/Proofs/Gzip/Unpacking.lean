import StreamCodec.Gzip.Decoder
import StreamCodec.Proofs.Gzip.Member
import StreamCodec.Proofs.Reading

/-!
The gzip decoder follows the grammar of members when its body engine follows the grammar of
bodies. The decoder is before the end of the header, in the body or in the trailer, and what
it has read and written says how it stands there.
-/

namespace StreamCodec.Gzip

/-- Behind any header that `b` opens with there are bytes of `P`. -/
def Header.Before (P : ByteArray → Prop) (b : ByteArray) : Prop :=
  ∀ h body, Whole h → b = h ++ body → P body

namespace Decoder

open DecodeEngine Member

variable {σ : Type} {E : DecodeEngine σ} {s₀ : σ} {P : ByteArray → Prop} {D : Grammar}

/-- How a decoder stands that has read `read` and written `written`, and is not done. Its body
engine has been offered only bytes of `P`. -/
inductive Holds (E : DecodeEngine σ) (s₀ : σ) (P : ByteArray → Prop) :
    Decoder σ → (read written : ByteArray) → Prop
  | header {seen : ByteArray} (hopen : Header.parse seen = .ok none)
      (hsize : seen.size < Header.maxSize) :
      Holds E s₀ P { part := .header seen, body := s₀ } seen ByteArray.empty
  | body {h read written : ByteArray} {body : σ} (hwhole : Header.Whole h)
      (hbody : E.Reached s₀ (fun b _ => P b) false read written body) :
      Holds E s₀ P { part := .body, body, tally := Tally.ofBytes written } (h ++ read) written
  | trailer {h read written seen : ByteArray} {body : σ} (hwhole : Header.Whole h)
      (hbody : E.Reached s₀ (fun b _ => P b) true read written body)
      (hsize : seen.size < Tally.trailerSize) :
      Holds E s₀ P { part := .trailer seen, body, tally := Tally.ofBytes written }
        (h ++ (read ++ seen)) written

/-- What comes of header bytes: nothing without input, the end of the header, more of it,
or a fault. -/
theorem readHeader_cases (s : Decoder σ) {seen : ByteArray} (input : Slice)
    (hopen : Header.parse seen = .ok none) (hsize : seen.size < Header.maxSize) :
    (input.size = 0 ∧ s.readHeader seen input = (.ok .idle, s)) ∨
    (∃ k, 0 < k ∧ k ≤ input.size ∧ Header.Whole (seen ++ input.take k) ∧
      s.readHeader seen input = (.ok (.progress k ByteArray.empty), { s with part := .body })) ∨
    (∃ k, 0 < k ∧ k ≤ input.size ∧ Header.parse (seen ++ input.take k) = .ok none ∧
      (seen ++ input.take k).size < Header.maxSize ∧
      s.readHeader seen input =
        (.ok (.progress k ByteArray.empty), { s with part := .header (seen ++ input.take k) })) ∨
    (∃ f s', (∀ D, verdict D (seen ++ input.toBytes) = .corrupt f.message) ∧
      s.readHeader seen input = (.error (rejection f), s')) := by
  unfold readHeader
  by_cases hempty : input.isEmpty = true
  · exact .inl ⟨Slice.isEmpty_iff.mp hempty, by rw [if_pos hempty]⟩
  · have hinput : 0 < input.size := Nat.pos_of_ne_zero (mt Slice.isEmpty_iff.mpr hempty)
    rw [if_neg hempty]
    right
    generalize htaken : min input.size (Header.maxSize - seen.size) = taken
    have hsizeall : (seen ++ input.take taken).size = seen.size + taken := by
      rw [ByteArray.size_append, Slice.size_take, Nat.min_eq_left (by omega)]
    have hfront : (seen ++ input.toBytes).extract 0 Header.maxSize = seen ++ input.take taken := by
      rw [Bytes.extract_append_of_le _ _ (Nat.le_of_lt hsize), ← Slice.take_eq_extract, ← htaken,
        Slice.take_min_size]
    cases hparse : Header.parse (seen ++ input.take taken) with
    | error f =>
      refine .inr (.inr ⟨f, { s with part := .header (seen ++ input.take taken) }, ?_, ?_⟩)
      · exact fun D => verdict_of_error (hfront ▸ hparse)
      · simp only [hparse]
    | ok found =>
      cases found with
      | none =>
        by_cases hfull : (seen ++ input.take taken).size = Header.maxSize
        · refine .inr (.inr ⟨.headerTooLong,
            { s with part := .header (seen ++ input.take taken) }, ?_, ?_⟩)
          · have hlong : Header.maxSize ≤ (seen ++ input.toBytes).size := by
              rw [ByteArray.size_append, Slice.size_toBytes]
              omega
            exact fun D => (verdict_of_none (hfront ▸ hparse)).trans (if_pos hlong)
          · simp only [hparse, if_pos hfull]
        · refine .inr (.inl ⟨taken, by omega, by omega, hparse, by omega, ?_⟩)
          simp only [hparse, if_neg hfull]
      | some n =>
        have hn := Header.parse_bounds hparse
        have hlt : seen.size < n := by
          by_contra hge
          rw [Header.parse_of_append hparse (by omega)] at hopen
          cases hopen
        refine .inl ⟨n - seen.size, by omega, by omega, ?_, by simp only [hparse]⟩
        rw [← hfront] at hparse
        have hwhole := (Header.exists_whole hparse).1
        rw [Bytes.extract_append_of_le _ _ (Nat.le_of_lt hlt), ← Slice.take_eq_extract] at hwhole
        exact hwhole

/-- What comes of trailer bytes: nothing without input, more of it, the end of the member,
or a fault. -/
theorem readTrailer_cases (s : Decoder σ) {seen : ByteArray} (input : Slice)
    (hsize : seen.size < Tally.trailerSize) :
    (input.size = 0 ∧ s.readTrailer seen input = (.ok .idle, s)) ∨
    (0 < input.size ∧ (seen ++ input.toBytes).size < Tally.trailerSize ∧
      s.readTrailer seen input =
        (.ok (.progress input.size ByteArray.empty),
          { s with part := .trailer (seen ++ input.toBytes) })) ∨
    (∃ k trailer, 0 < k ∧ k ≤ input.size ∧ seen ++ input.take k = trailer ∧
      trailer.size = Tally.trailerSize ∧
      ((∃ f s', s.tally.check trailer = .error f ∧
        s.readTrailer seen input = (.error (rejection f), s')) ∨
        (s.tally.check trailer = .ok () ∧
          s.readTrailer seen input =
            (.ok (.ended k ByteArray.empty), { s with part := .done })))) := by
  unfold readTrailer
  by_cases hempty : input.size = 0
  · refine .inl ⟨hempty, ?_⟩
    simp only [hempty, Nat.min_zero, if_true]
  · have hnone : ¬ min (Tally.trailerSize - seen.size) input.size = 0 := by omega
    right
    by_cases hshort : (seen ++ input.toBytes).size < Tally.trailerSize
    · refine .inl ⟨by omega, hshort, ?_⟩
      have hsizes := hshort
      rw [ByteArray.size_append, Slice.size_toBytes] at hsizes
      have htaken : min (Tally.trailerSize - seen.size) input.size = input.size :=
        Nat.min_eq_right (by omega)
      simp only [htaken, if_neg hempty, Slice.take_of_size_le (Nat.le_refl _), if_pos hshort]
    · rw [ByteArray.size_append, Slice.size_toBytes] at hshort
      have htaken : min (Tally.trailerSize - seen.size) input.size =
          Tally.trailerSize - seen.size :=
        Nat.min_eq_left (by omega)
      have hwhole : (seen ++ input.take (Tally.trailerSize - seen.size)).size =
          Tally.trailerSize := by
        rw [ByteArray.size_append, Slice.size_take]
        omega
      refine .inr ⟨Tally.trailerSize - seen.size, _, by omega, by omega, rfl, hwhole, ?_⟩
      rw [if_neg hnone, htaken]
      simp only [hwhole, if_neg (Nat.lt_irrefl Tally.trailerSize)]
      cases hcheck : s.tally.check (seen ++ input.take (Tally.trailerSize - seen.size)) with
      | error f => exact .inl ⟨f, _, rfl, rfl⟩
      | ok u => exact .inr ⟨rfl, rfl⟩

/-- What comes of body bytes is what comes of them in the body engine, but for its end. -/
theorem readBody_eq_ok {s s' : Decoder σ} {input : Slice} {room : Nat} {step : Step}
    (h : s.readBody E input room = (.ok step, s')) :
    ∃ inner body, E.decode s.body input room = (.ok inner, body) ∧
      step = { inner with done := false } ∧
      s' = { part := if inner.done then .trailer ByteArray.empty else .body, body,
             tally := s.tally.add inner.output } := by
  unfold readBody at h
  split at h
  · next inner body hcall =>
    cases h
    exact ⟨inner, body, hcall, rfl, rfl⟩
  · cases h
  · cases h

theorem Holds.step {s s' : Decoder σ} {read written : ByteArray} {input : Slice}
    {room : Nat} {step : Step}
    (h : Holds E s₀ P s read written) (hoffered : Header.Before P (read ++ input.toBytes))
    (hcall : decode E s input room = (.ok step, s')) (hdone : step.done = false) :
    Holds E s₀ P s' (read ++ input.take step.consumed) (written ++ step.output) := by
  cases h with
  | header hopen hsize =>
    replace hcall : readHeader _ read input = (.ok step, s') := hcall
    obtain ⟨_, hstep⟩ | ⟨k, _, _, hwhole, hstep⟩ | ⟨k, _, _, hopen', hsize', hstep⟩ |
      ⟨f, s'', _, hstep⟩ :=
      readHeader_cases { part := .header read, body := s₀ } input hopen hsize
    · cases hcall.symm.trans hstep
      rw [Step.idle, Slice.take_zero, ByteArray.append_empty]
      exact .header hopen hsize
    · cases hcall.symm.trans hstep
      have hfresh : E.Reached s₀ (fun b _ => P b) false ByteArray.empty ByteArray.empty s₀ := .fresh
      have hholds := Holds.body hwhole hfresh
      rw [ByteArray.append_empty] at hholds
      exact hholds
    · cases hcall.symm.trans hstep
      exact .header hopen' hsize'
    · cases hcall.symm.trans hstep
  | @body h read written body hwhole hbody =>
    obtain ⟨inner, body', hinner, rfl, rfl⟩ := readBody_eq_ok hcall
    have hreach := Reached.step hbody (hoffered _ _ hwhole ByteArray.append_assoc) hinner
    rw [ByteArray.append_assoc, ← Tally.ofBytes_append]
    cases hend : inner.done with
    | true =>
      rw [hend] at hreach
      have hnone : ByteArray.empty.size < Tally.trailerSize := by decide
      have hholds := Holds.trailer hwhole hreach hnone
      rw [ByteArray.append_empty] at hholds
      exact hholds
    | false =>
      rw [hend] at hreach
      exact .body hwhole hreach
  | @trailer h read written seen body hwhole hbody hsize =>
    replace hcall : readTrailer _ seen input = (.ok step, s') := hcall
    obtain ⟨_, hstep⟩ | ⟨_, hsize', hstep⟩ |
      ⟨k, trailer, _, _, _, _, ⟨f, s'', _, hstep⟩ | ⟨_, hstep⟩⟩ :=
      readTrailer_cases { part := .trailer seen, body, tally := Tally.ofBytes written } input hsize
    · cases hcall.symm.trans hstep
      rw [Step.idle, Slice.take_zero, ByteArray.append_empty, ByteArray.append_empty]
      exact .trailer hwhole hbody hsize
    · cases hcall.symm.trans hstep
      rw [Step.progress, Slice.take_of_size_le (Nat.le_refl _), ByteArray.append_empty,
        ByteArray.append_assoc,
        ByteArray.append_assoc]
      exact .trailer hwhole hbody hsize'
    · cases hcall.symm.trans hstep
    · cases hcall.symm.trans hstep
      cases hdone

theorem holds_of_reached {s : Decoder σ} {read written : ByteArray}
    (h : (engine E).Reached (start s₀) (fun b _ => Header.Before P b) false read written s) :
    Holds E s₀ P s read written := by
  generalize hended : false = ended at h
  induction h with
  | fresh => exact .header rfl (by decide)
  | step before hoffered call ih => exact (ih rfl).step hoffered call hended.symm

theorem holds_of_reached_any {s : Decoder σ} {read written : ByteArray}
    (h : (engine E).Reached (start s₀) (fun _ _ => True) false read written s) :
    Holds E s₀ (fun _ => True) s read written :=
  holds_of_reached (h.mono fun _ _ _ _ _ _ _ => trivial)

/-- A body engine may report its end in a step that moves nothing; then the decoder stands behind
the body without having moved. -/
def Late (E : DecodeEngine σ) (s₀ : σ) (P : ByteArray → Prop) (s : Decoder σ) : Prop :=
  match s.part with
  | .header _ | .body => False
  | .trailer _ | .done => ¬ E.EndsMoving s₀ fun b _ => P b

theorem accords_header {read : ByteArray} (input : Slice) (room : Nat)
    (hopen : Header.parse read = .ok none) (hsize : read.size < Header.maxSize) :
    Accords .gzip (member D) (Late E s₀ P) read ByteArray.empty
      { part := .header read, body := s₀ } input room
      (readHeader { part := .header read, body := s₀ } read input) := by
  have hnothing : ∀ b, ∃ owed, (member D).plain b = ByteArray.empty ++ owed :=
    fun _ => ⟨_, ByteArray.empty_append.symm⟩
  obtain ⟨hempty, hstep⟩ | ⟨k, hpos, hle, _, hstep⟩ | ⟨k, hpos, hle, _, _, hstep⟩ |
    ⟨f, s', hfault, hstep⟩ :=
    readHeader_cases { part := .header read, body := s₀ } input hopen hsize
  · rw [hstep]
    obtain ⟨hverdict, hplain⟩ := verdict_open (D := D) hopen hsize
    exact ⟨Step.sound_idle hempty hverdict hplain, id⟩
  · rw [hstep]
    exact ⟨Step.sound_progress hpos hle (hnothing _), False.elim⟩
  · rw [hstep]
    exact ⟨Step.sound_progress hpos hle (hnothing _), id⟩
  · rw [hstep]
    exact ⟨f.message, rfl, hfault D⟩

theorem accords_body (hE : E.Follows s₀ (fun b _ => P b) D fun _ => False)
    (hcodec : E.codec = .gzip)
    {h read written : ByteArray} {body : σ} (input : Slice) (room : Nat) (hwhole : Header.Whole h)
    (hbody : E.Reached s₀ (fun b _ => P b) false read written body)
    (hoffered : P (read ++ input.toBytes)) :
    Accords .gzip (member D) (Late E s₀ P) (h ++ read) written
      { part := .body, body, tally := Tally.ofBytes written } input room
      (readBody E { part := .body, body, tally := Tally.ofBytes written } input room) := by
  unfold readBody
  rcases hcall : E.decode body input room with ⟨answer, body'⟩
  cases answer with
  | ok step =>
    have hsound := hE.sound hbody hoffered hcall
    refine ⟨⟨hsound.within, ?_, Bool.noConfusion, ?_⟩, False.elim⟩
    · rw [ByteArray.append_assoc]
      simp only [member, plain_header hwhole]
      exact hsound.output
    · intro _ hroom hidle
      simp only [member, verdict_header hwhole, plain_header hwhole]
      cases hend : step.done with
      | true =>
        -- The body has ended without a move, which only a body engine does that is not known to
        -- move then.
        refine .inr ⟨id, fun hmoves => ?_⟩
        have hmoved := hmoves _ _ _ _ _ _ _ hbody hoffered hcall hend hroom
        cases hmoved.symm.trans hidle
      | false =>
        obtain ⟨hempty, hverdict, hplain⟩ :=
          (hsound.idle hend hroom hidle).resolve_right fun h => h.2
        exact .inl ⟨hempty, bodyVerdict_of_unfinished hverdict, hplain⟩
  | error e =>
    obtain ⟨m, he, hcorrupt⟩ := hE.refuses hbody hoffered hcall
    refine ⟨m, he.trans (by rw [hcodec]), ?_⟩
    rw [ByteArray.append_assoc]
    exact (verdict_header hwhole _).trans (bodyVerdict_of_corrupt hcorrupt)
  | trap t => exact absurd hcall (hE.not_trap hbody hoffered)

theorem accords_trailer (hE : E.Follows s₀ (fun b _ => P b) D fun _ => False)
    {h read written seen : ByteArray}
    {body : σ} (input : Slice) (room : Nat) (hwhole : Header.Whole h)
    (hbody : E.Reached s₀ (fun b _ => P b) true read written body)
    (hsize : seen.size < Tally.trailerSize) :
    Accords .gzip (member D) (Late E s₀ P) (h ++ (read ++ seen)) written
      { part := .trailer seen, body, tally := Tally.ofBytes written } input room
      (readTrailer { part := .trailer seen, body, tally := Tally.ofBytes written } seen input) := by
  obtain ⟨hverdict, hplain⟩ := hE.complete hbody
  have hwritten : ∀ b, (member D).plain (h ++ (read ++ b)) = written := by
    intro b
    simp only [member, plain_header hwhole, D.plain_settled read b _ hverdict, hplain]
  have hjoin : ∀ b, h ++ (read ++ seen) ++ b = h ++ (read ++ (seen ++ b)) := by
    intro b
    simp only [ByteArray.append_assoc]
  obtain ⟨hempty, hstep⟩ | ⟨hpos, hsize', hstep⟩ | ⟨k, trailer, hpos, hle, rfl, hfull, hcheck⟩ :=
    readTrailer_cases { part := .trailer seen, body, tally := Tally.ofBytes written } input hsize
  · rw [hstep]
    exact ⟨Step.sound_idle hempty (verdict_trailer_open hwhole hverdict hsize).1
      (hwritten seen), id⟩
  · rw [hstep]
    refine ⟨Step.sound_progress hpos (Nat.le_refl _) ⟨ByteArray.empty, ?_⟩, id⟩
    rw [hjoin, hwritten, ByteArray.append_empty]
  · have hsizes : seen.size + k = Tally.trailerSize := by
      rw [ByteArray.size_append, Slice.size_take, Nat.min_eq_left hle] at hfull
      exact hfull
    have htrailer : (seen ++ input.toBytes).extract 0 Tally.trailerSize = seen ++ input.take k := by
      rw [Bytes.extract_append_of_le _ _ (Nat.le_of_lt hsize), ← Slice.take_eq_extract, ← hsizes,
        Nat.add_sub_cancel_left]
    have hexact : (seen ++ input.take k).extract 0 Tally.trailerSize = seen ++ input.take k := by
      rw [← hfull, ByteArray.extract_zero_size]
    obtain ⟨f, s', hfault, hstep⟩ | ⟨hgood, hstep⟩ := hcheck
    · rw [hstep]
      refine ⟨f.message, rfl, ?_⟩
      rw [ByteArray.append_assoc, ByteArray.append_assoc]
      simp only [member, verdict_trailer hwhole hverdict, htrailer, hplain]
      exact closing_of_error _ (Nat.le_of_eq hfull.symm) hfault
    · rw [hstep]
      refine ⟨⟨⟨hle, Nat.zero_le _⟩, ⟨ByteArray.empty, ?_⟩, fun _ => ⟨?_, ?_⟩, Bool.noConfusion⟩,
        id⟩
      · rw [hjoin, hwritten, Step.ended, ByteArray.append_empty, ByteArray.append_empty]
      · have hcomplete := closing_of_ok (h.size + read.size) (Nat.le_of_eq hfull.symm) hgood
        have hlength : (h ++ (read ++ seen)).size + k = h.size + read.size + Tally.trailerSize := by
          rw [ByteArray.size_append, ByteArray.size_append]
          omega
        simp only [Step.ended, hjoin, member, verdict_trailer hwhole hverdict, hexact,
          hplain, hlength]
        exact hcomplete
      · rw [hjoin, hwritten, Step.ended, ByteArray.append_empty]

/-- The gzip decoder follows the grammar of members, on all that hands on to the body engine what
that one follows its grammar on. -/
theorem follows (hE : E.Follows s₀ (fun b _ => P b) D fun _ => False) (hcodec : E.codec = .gzip) :
    (engine E).Follows (start s₀) (fun b _ => Header.Before P b) (member D) (Late E s₀ P) := by
  intro read written s input room hreach hoffered
  cases holds_of_reached hreach with
  | header hopen hsize => exact accords_header input room hopen hsize
  | body hwhole hbody =>
    exact accords_body hE hcodec input room hwhole hbody
      (hoffered _ _ hwhole ByteArray.append_assoc)
  | trailer hwhole hbody hsize => exact accords_trailer hE input room hwhole hbody hsize

end Decoder

end StreamCodec.Gzip
