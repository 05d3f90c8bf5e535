import StreamCodec.Proofs.Builtin.Scanning
import StreamCodec.Proofs.Visiting
import StreamCodec.Zstd.Decoder

/-!
The Zstandard decoder under any caller: whatever state it is in, it takes no more than it is
offered, hands out no more than there is room for, and refuses nothing but data.
-/

namespace StreamCodec.Zstd

theorem Frame.extent?_le {b : ByteArray} {checked : Bool} {fuel i n : Nat}
    (h : extent? b checked fuel i = some n) : n ≤ b.size := by
  induction fuel generalizing i with
  | zero => cases h
  | succ fuel ih =>
    unfold extent? at h
    split at h
    · cases h
    · split at h
      · cases h
      · next header hheader =>
        simp only at h
        split at h
        · cases h
        · split at h
          · generalize (if checked then i + 3 + header.bodySize + 4 else i + 3 + header.bodySize) =
              last at h
            split at h
            · cases h
            · cases h
              omega
          · exact ih h

/-- A frame that says how long its content is comes to that length or to nothing. -/
theorem Frame.size_decodeWhole {b content : ByteArray} {header : FrameHeader} {limit n : Nat}
    (hsize : header.contentSize = some n) (h : decodeWhole b header limit = .ok content) :
    content.size = n := by
  unfold decodeWhole at h
  by_cases hdictionary : header.dictionary ≠ 0
  · rw [if_pos hdictionary] at h
    cases h
  · rw [if_neg hdictionary] at h
    rcases hblocks : decodeBlocks b header limit b.size header.size {} ByteArray.empty with
      f | ⟨out, i⟩
    · rw [hblocks] at h
      cases h
    · rw [hblocks, hsize] at h
      change (if Option.any (fun x => decide (x ≠ out.size)) (some n) = true then _ else _) = _ at h
      split at h
      · cases h
      · next hany =>
        have hout : n = out.size := by simpa using hany
        rw [hout]
        split at h
        · cases h
        · cases h
          rfl

namespace Decoder

variable {s s' : Decoder} {input : ByteArray} {i j room : Nat}

/-- The position that a move comes to is one of the input. -/
def Stays (input : ByteArray) : Except Fault (Decoder × Nat × Bool) → Prop
  | .ok (_, j, _) => j ≤ input.size
  | .error _ => True

theorem Stays.bind {α : Type} {x : Except Fault α} {f : α → Except Fault (Decoder × Nat × Bool)}
    (hf : ∀ a, Stays input (f a)) : Stays input (x >>= f) := by
  cases x with
  | error e => trivial
  | ok a => exact hf a

theorem move_stays (s : Decoder) (hi : i ≤ input.size) : Stays input (move s input i) := by
  have htake (seen : ByteArray) (n : Nat) : (take input seen i n).2 ≤ input.size := by
    show i + min (n - seen.size) (input.size - i) ≤ input.size
    omega
  have hleft (left : Nat) : i + min left (input.size - i) ≤ input.size := by omega
  unfold move
  split
  · apply Stays.bind
    intro read
    split
    · apply Stays.bind
      intro s₁
      exact hi
    · exact hi
    · simp only
      split
      · apply Stays.bind
        intro _
        exact htake _ _
      · exact htake _ _
  · simp only
    split
    · exact htake _ _
    · apply Stays.bind
      intro block
      apply Stays.bind
      intro s₁
      exact htake _ _
  · simp only
    split
    · exact htake _ _
    · apply Stays.bind
      intro s₁
      exact htake _ _
  · simp only
    split
    · exact hi
    · split
      · exact hleft _
      · split
        · exact hleft _
        · trivial
  · simp only
    split
    · exact htake _ _
    · split
      · exact htake _ _
      · trivial
  · simp only
    split
    · exact hleft _
    · exact hleft _
  · exact hi

theorem moves_within {fuel : Nat} {out out' : ByteArray} (hi : i ≤ input.size)
    (h : moves input fuel s i room out = .ok (s', j, out')) :
    j ≤ input.size ∧ out'.size ≤ out.size + room := by
  fun_induction moves input fuel s i room out with
  | case1 =>
    cases h
    exact ⟨hi, Nat.le_add_right _ _⟩
  | case2 fuel i room out stage frame entropy content handed hostage fault howed n out₁ s₁ hmore =>
    obtain ⟨-, hrest⟩ := Prod.mk.inj (Except.ok.inj h)
    obtain ⟨rfl, hout⟩ := Prod.mk.inj hrest
    have hle : out₁.size ≤ out.size + n := Bytes.size_append_extract_le out content handed n
    rw [← hout]
    exact ⟨hi, by omega⟩
  | case3 fuel i room out stage frame entropy content handed hostage fault howed n out₁ s₁ hnone
    ih =>
    have hle : out₁.size ≤ out.size + n := Bytes.size_append_extract_le out content handed n
    obtain ⟨hj, hlater⟩ := ih hi h
    exact ⟨hj, by omega⟩
  | case4 => cases h
  | case5 fuel s i room out howed s₁ i₁ hmove ih =>
    have hstays := move_stays s hi
    rw [hmove] at hstays
    exact ih hstays h
  | case6 fuel s i room out howed s₁ i₁ more hmove hstop =>
    have hstays := move_stays s hi
    rw [hmove] at hstays
    cases h
    exact ⟨hstays, Nat.le_add_right _ _⟩

theorem whole?_eq_some {header : FrameHeader} {n : Nat}
    (h : whole? s input room = some (header, n)) :
    n ≤ input.size ∧ ∃ k ≤ room, header.contentSize = some k := by
  unfold whole? at h
  split at h
  · split at h
    · split at h
      · next header' hread =>
        split at h
        · next hfits =>
          obtain ⟨n', hextent, hpair⟩ := Option.map_eq_some_iff.mp h
          cases hpair
          refine ⟨Frame.extent?_le hextent, ?_⟩
          cases hcontent : header.contentSize with
          | none =>
            rw [hcontent] at hfits
            cases hfits
          | some k =>
            rw [hcontent] at hfits
            exact ⟨k, of_decide_eq_true hfits, rfl⟩
        · cases h
      · cases h
    · cases h
  · cases h

theorem settle_within (s : Decoder) {consumed offered : Nat} (h : consumed ≤ offered)
    (output : ByteArray) :
    (s.settle consumed offered output).1.consumed ≤ offered ∧
      (s.settle consumed offered output).1.output = output := by
  unfold settle
  split
  · split
    · split
      · split
        · next hmore => exact ⟨hmore, rfl⟩
        · exact ⟨h, rfl⟩
      · exact ⟨h, rfl⟩
    · split
      · exact ⟨h, rfl⟩
      · exact ⟨Nat.le_trans (Nat.sub_le _ _) h, rfl⟩
  · exact ⟨h, rfl⟩

theorem decode_serves (s : Decoder) (offered : Slice) (room : Nat) :
    (∃ m s', decode s offered room = (.error (.data m), s')) ∨
      ∃ step s', step.Within offered.size room ∧ decode s offered room = (.ok step, s') := by
  have hsize := Slice.size_toBytes offered
  unfold decode
  cases s.fault with
  | some f => exact .inl ⟨_, _, rfl⟩
  | none =>
    rcases hwhole : whole? s offered.toBytes room with _ | ⟨header, n⟩
    · rcases hmoves : moves offered.toBytes (2 * offered.toBytes.size + 16) s 0 room
        ByteArray.empty with f | ⟨s₁, i, out⟩
      · simp only [hwhole, hmoves]
        exact .inl ⟨_, _, rfl⟩
      · simp only [hwhole, hmoves]
        obtain ⟨hi, hout⟩ := moves_within (Nat.zero_le _) hmoves
        obtain ⟨hconsumed, houtput⟩ := settle_within s₁ hi out
        rw [ByteArray.size_empty] at hout
        refine .inr ⟨_, _, ⟨by omega, ?_⟩, rfl⟩
        rw [houtput]
        omega
    · obtain ⟨hn, k, hk, hcontent⟩ := whole?_eq_some hwhole
      rcases hdecoded : Frame.decodeWhole (offered.toBytes.extract 0 n) header room with f | content
      · simp only [hwhole, hdecoded]
        exact .inl ⟨_, _, rfl⟩
      · simp only [hwhole, hdecoded]
        have hlength := Frame.size_decodeWhole hcontent hdecoded
        exact .inr ⟨_, _, ⟨hsize ▸ hn, hlength ▸ hk⟩, rfl⟩

/-- The Zstandard engine is tame under any caller, also one who goes on behind a rejected
stream. -/
theorem engine_tame (codec : Codec) (Onward : Prop) : engine.Tame codec Onward := by
  refine NativeDecoder.tame_of_keeps (P := fun _ => True) trivial (fun s offered room _ => ?_) codec
  obtain ⟨m, s', hcall⟩ | ⟨step, s', hwithin, hcall⟩ := decode_serves s offered room
  · exact .inl ⟨m, s', fun _ => trivial, hcall⟩
  · exact .inr ⟨step, s', trivial, hwithin, hcall⟩

end Decoder

end StreamCodec.Zstd
