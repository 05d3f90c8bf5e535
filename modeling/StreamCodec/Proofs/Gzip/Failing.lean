import StreamCodec.Proofs.Gzip.Unpacking

/-!
A gzip decoder that has failed stays broken. Header bytes that were rejected are kept, and no
bytes behind them make a header of them; a body engine that has failed goes on failing; and a
trailer that did not belong to the body is never looked at again.
-/

namespace StreamCodec

def DecodeEngine.Fails {σ : Type} (E : DecodeEngine σ) (s : σ) : Prop :=
  ∀ input room, ∃ e s', E.decode s input room = (.error e, s')

/-- An engine that has failed once fails from then on. -/
def DecodeEngine.StaysFailed {σ : Type} (E : DecodeEngine σ) : Prop :=
  ∀ s input room e s', E.decode s input room = (.error e, s') → E.Fails s'

namespace Gzip

/-- Bytes that no header starts with, or as many as a header may have without the end of one. -/
inductive Header.Rejected (seen : ByteArray) : Fault → Prop
  | fault {f : Fault} (hparse : parse seen = .error f) : Rejected seen f
  | long (hopen : parse seen = .ok none) (hfull : seen.size = maxSize) :
      Rejected seen .headerTooLong

namespace Decoder

open DecodeEngine

variable {σ : Type} {E : DecodeEngine σ} {s s' : Decoder σ} {seen : ByteArray} {input : Slice}
  {room : Nat}

def gathered (seen : ByteArray) (input : Slice) : ByteArray :=
  seen ++ input.take (min input.size (Header.maxSize - seen.size))

theorem readHeader_error {e : Error} (h : s.readHeader seen input = (.error e, s')) :
    input.size ≠ 0 ∧ ∃ f, e = rejection f ∧ s' = { s with part := .header (gathered seen input) } ∧
      Header.Rejected (gathered seen input) f := by
  unfold readHeader at h
  by_cases hempty : input.isEmpty = true
  · rw [if_pos hempty] at h
    cases h
  · rw [if_neg hempty] at h
    refine ⟨mt Slice.isEmpty_iff.mpr hempty, ?_⟩
    cases hparse : Header.parse (gathered seen input) with
    | error f =>
      rw [gathered] at hparse
      simp only [hparse] at h
      cases h
      exact ⟨f, rfl, rfl, .fault hparse⟩
    | ok found =>
      rw [gathered] at hparse
      simp only [hparse] at h
      cases found with
      | some n => cases h
      | none =>
        by_cases hfull : (gathered seen input).size = Header.maxSize
        · simp only [show (seen ++ input.take (min input.size (Header.maxSize - seen.size))).size =
            Header.maxSize from hfull, if_true] at h
          cases h
          exact ⟨.headerTooLong, rfl, rfl, .long hparse hfull⟩
        · simp only [if_neg (show ¬ (seen ++ input.take _).size = Header.maxSize from hfull)] at h
          cases h

/-- Bytes behind what was rejected do not make it a header, and the fault stays the same. -/
theorem rejected_gathered {f : Fault} (h : Header.Rejected seen f) (input : Slice) :
    Header.Rejected (gathered seen input) f := by
  cases h with
  | fault hparse => exact .fault (Header.parse_error_append hparse _)
  | long hopen hfull =>
    have hnone : gathered seen input = seen := by
      rw [gathered, hfull, Nat.sub_self, Nat.min_zero, Slice.take_zero, ByteArray.append_empty]
    rw [hnone]
    exact .long hopen hfull

theorem readHeader_of_rejected {f : Fault} (h : Header.Rejected seen f) (hinput : input.size ≠ 0) :
    s.readHeader seen input =
      (.error (rejection f), { s with part := .header (gathered seen input) }) := by
  have hempty : ¬ input.isEmpty = true := mt Slice.isEmpty_iff.mp hinput
  have hnext := rejected_gathered h input
  unfold readHeader
  rw [if_neg hempty]
  unfold gathered at hnext ⊢
  cases hnext with
  | fault hparse => simp only [hparse]
  | long hopen hfull => simp only [hopen, hfull, if_true]

inductive Broken (E : DecodeEngine σ) (s : Decoder σ) : Prop
  | header {seen : ByteArray} {f : Fault} (hpart : s.part = .header seen)
      (hrejected : Header.Rejected seen f)
  | body (hpart : s.part = .body) (hfails : E.Fails s.body)
  | trailer {seen : ByteArray} (hpart : s.part = .trailer seen)
      (hfull : seen.size = Tally.trailerSize)

theorem readBody_error {e : Error} (h : s.readBody E input room = (.error e, s')) :
    ∃ body, E.decode s.body input room = (.error e, body) ∧ s' = { s with body } := by
  unfold readBody at h
  split at h
  · cases h
  · next body hcall =>
    cases h
    exact ⟨body, hcall, rfl⟩
  · cases h

theorem readTrailer_error {e : Error} (h : s.readTrailer seen input = (.error e, s')) :
    ∃ trailer, trailer.size = Tally.trailerSize ∧ s' = { s with part := .trailer trailer } := by
  unfold readTrailer at h
  by_cases hnone : min (Tally.trailerSize - seen.size) input.size = 0
  · rw [if_pos hnone] at h
    cases h
  · rw [if_neg hnone] at h
    by_cases hshort :
        (seen ++ input.take (min (Tally.trailerSize - seen.size) input.size)).size <
          Tally.trailerSize
    · simp only [if_pos hshort] at h
      cases h
    · simp only [if_neg hshort] at h
      split at h
      · cases h
        refine ⟨_, ?_, rfl⟩
        rw [ByteArray.size_append, Slice.size_take] at hshort ⊢
        omega
      · cases h

section Parts

variable (E s input room)

theorem decode_header (hpart : s.part = .header seen) :
    decode E s input room = s.readHeader seen input := by
  simp only [decode, hpart]

theorem decode_body (hpart : s.part = .body) :
    decode E s input room = s.readBody E input room := by
  simp only [decode, hpart]

theorem decode_trailer (hpart : s.part = .trailer seen) :
    decode E s input room = s.readTrailer seen input := by
  simp only [decode, hpart]

theorem decode_done (hpart : s.part = .done) : decode E s input room = (.ok .idle, s) := by
  simp only [decode, hpart]

end Parts

theorem broken_of_error (hE : E.StaysFailed) {e : Error}
    (h : decode E s input room = (.error e, s')) : Broken E s' := by
  cases hpart : s.part with
  | header seen =>
    rw [decode_header E s input room hpart] at h
    obtain ⟨-, f, -, rfl, hrejected⟩ := readHeader_error h
    exact .header rfl hrejected
  | body =>
    rw [decode_body E s input room hpart] at h
    obtain ⟨body, hcall, rfl⟩ := readBody_error h
    exact .body hpart (hE _ _ _ _ _ hcall)
  | trailer seen =>
    rw [decode_trailer E s input room hpart] at h
    obtain ⟨trailer, hfull, rfl⟩ := readTrailer_error h
    exact .trailer rfl hfull
  | done =>
    rw [decode_done E s input room hpart] at h
    cases h

/-- A broken decoder stands still or fails, and stays broken. -/
theorem Broken.decode (hE : E.StaysFailed) (h : Broken E s) (input : Slice) (room : Nat) :
    Broken E (decode E s input room).2 ∧
      ((decode E s input room).1 = .ok .idle ∨ ∃ e, (decode E s input room).1 = .error e) := by
  cases h with
  | @header seen f hpart hrejected =>
    rw [decode_header E s input room hpart]
    by_cases hinput : input.size = 0
    · rw [readHeader, if_pos (Slice.isEmpty_iff.mpr hinput)]
      exact ⟨.header hpart hrejected, .inl rfl⟩
    · rw [readHeader_of_rejected hrejected hinput]
      exact ⟨.header rfl (rejected_gathered hrejected input), .inr ⟨_, rfl⟩⟩
  | body hpart hfails =>
    obtain ⟨e, body, hcall⟩ := hfails input room
    rw [decode_body E s input room hpart, readBody, hcall]
    exact ⟨.body hpart (hE _ _ _ _ _ hcall), .inr ⟨e, rfl⟩⟩
  | @trailer seen hpart hfull =>
    rw [decode_trailer E s input room hpart, readTrailer,
      if_pos (by rw [hfull, Nat.sub_self, Nat.zero_min])]
    exact ⟨.trailer hpart hfull, .inl rfl⟩

/-- A decoder that has failed before the end of the header holds bytes that were rejected. -/
theorem header_of_error {e : Error} (h : decode E s input room = (.error e, s'))
    (hpart : s'.part = .header seen) :
    input.size ≠ 0 ∧ ∃ f, e = rejection f ∧ Header.Rejected seen f := by
  cases hbefore : s.part with
  | header before =>
    rw [decode_header E s input room hbefore] at h
    obtain ⟨hinput, f, he, rfl, hrejected⟩ := readHeader_error h
    cases hpart
    exact ⟨hinput, f, he, hrejected⟩
  | body =>
    rw [decode_body E s input room hbefore] at h
    obtain ⟨body, -, rfl⟩ := readBody_error h
    cases hbefore.symm.trans hpart
  | trailer before =>
    rw [decode_trailer E s input room hbefore] at h
    obtain ⟨trailer, -, rfl⟩ := readTrailer_error h
    cases hpart
  | done =>
    rw [decode_done E s input room hbefore] at h
    cases h

theorem decode_ne_trap (hE : ∀ s input room t s', E.decode s input room ≠ (.trap t, s'))
    (s : Decoder σ) (input : Slice) (room : Nat) (t : Trap) (s' : Decoder σ) :
    (engine E).decode s input room ≠ (.trap t, s') := by
  intro h
  have h : decode E s input room = (.trap t, s') := h
  cases hpart : s.part with
  | header seen =>
    rw [decode_header E s input room hpart, readHeader] at h
    split at h
    · cases h
    · simp only at h
      split at h
      · cases h
      · cases h
      · split at h <;> cases h
  | body =>
    rw [decode_body E s input room hpart, readBody] at h
    split at h
    · cases h
    · cases h
    · next hcall => exact hE _ _ _ _ _ hcall
  | trailer seen =>
    rw [decode_trailer E s input room hpart, readTrailer] at h
    simp only at h
    split at h
    · cases h
    · split at h
      · cases h
      · split at h <;> cases h
  | done =>
    rw [decode_done E s input room hpart] at h
    cases h

/-- A member as a decoder has read it to its end: a header, a body that the body engine has taken
whole, and the trailer that belongs to what it has written. -/
structure ReadWhole (E : DecodeEngine σ) (s₀ : σ) (header body trailer written : ByteArray) :
    Prop where
  header : Header.Whole header
  body : ∃ s, E.Reached s₀ (fun _ _ => True) true body written s
  size : trailer.size = 8
  checksum : Bytes.le trailer 0 4 = (Crc32.ofBytes written).toNat
  length : Bytes.le trailer 4 4 = written.size % 0x100000000

theorem le_of_check {written trailer : ByteArray}
    (h : (Tally.ofBytes written).check trailer = .ok ()) :
    Bytes.le trailer 0 4 = (Crc32.ofBytes written).toNat ∧
      Bytes.le trailer 4 4 = written.size % 0x100000000 := by
  have hlength : (Tally.ofBytes written).lengthValue = written.size % 0x100000000 := by
    rw [Tally.lengthValue, Tally.length_ofBytes]
  unfold Tally.check at h
  split at h
  · cases h
  · next hchecksum =>
    split at h
    · cases h
    · next hsize =>
      rw [hlength] at hsize
      exact ⟨not_not.mp hchecksum, not_not.mp hsize⟩

/-- The step that ends the member has taken the last byte of the trailer. -/
theorem Holds.ended {s₀ : σ} {read written : ByteArray} {step : Step}
    (h : Holds E s₀ (fun _ => True) s read written) (hcall : decode E s input room = (.ok step, s'))
    (hdone : step.done = true) :
    ∃ header body trailer, read ++ input.take step.consumed = header ++ (body ++ trailer) ∧
      ReadWhole E s₀ header body trailer (written ++ step.output) := by
  cases h with
  | header hopen hsize =>
    replace hcall : readHeader _ read input = (.ok step, s') := hcall
    obtain ⟨_, hstep⟩ | ⟨k, _, _, _, hstep⟩ | ⟨k, _, _, _, _, hstep⟩ | ⟨f, s'', _, hstep⟩ :=
      readHeader_cases { part := .header read, body := s₀ } input hopen hsize
    · cases hcall.symm.trans hstep
      cases hdone
    · cases hcall.symm.trans hstep
      cases hdone
    · cases hcall.symm.trans hstep
      cases hdone
    · cases hcall.symm.trans hstep
  | body hwhole hbody =>
    obtain ⟨inner, body', -, rfl, -⟩ := readBody_eq_ok hcall
    cases hdone
  | @trailer h read written seen body hwhole hbody hsize =>
    replace hcall : readTrailer _ seen input = (.ok step, s') := hcall
    obtain ⟨_, hstep⟩ | ⟨_, _, hstep⟩ |
      ⟨k, trailer, _, _, htrailer, hfull, ⟨f, s'', _, hstep⟩ | ⟨hcheck, hstep⟩⟩ :=
      readTrailer_cases { part := .trailer seen, body, tally := Tally.ofBytes written } input hsize
    · cases hcall.symm.trans hstep
      cases hdone
    · cases hcall.symm.trans hstep
      cases hdone
    · cases hcall.symm.trans hstep
    · cases hcall.symm.trans hstep
      refine ⟨h, read, trailer, ?_, ?_⟩
      · rw [← htrailer, ByteArray.append_assoc, ByteArray.append_assoc]
        rfl
      · rw [Step.ended, ByteArray.append_empty]
        obtain ⟨hchecksum, hlength⟩ := le_of_check hcheck
        exact ⟨hwhole, ⟨body, hbody⟩, hfull, hchecksum, hlength⟩

theorem readWhole_of_reached {s₀ : σ} {read written : ByteArray}
    (h : (engine E).Reached (start s₀) (fun _ _ => True) true read written s) :
    ∃ header body trailer, read = header ++ (body ++ trailer) ∧
      ReadWhole E s₀ header body trailer written := by
  generalize hended : true = ended at h
  cases h with
  | fresh => cases hended
  | step before _ call =>
    exact (holds_of_reached_any before).ended call hended.symm

end Decoder

end Gzip

end StreamCodec
