import StreamCodec.Bzip2.Decoder
import StreamCodec.Proofs.Builtin.Scanning
import StreamCodec.Proofs.Visiting

/-!
The bzip2 decoder up to its first refusal. It reads bits that are there, so it takes no more than it
is offered, it hands out no more than there is room for, and what it refuses is data.
-/

namespace StreamCodec.Bzip2

open Scan

namespace Code

theorem reads_walk (h : Huffman) (left len code first index : Nat) :
    (walk h left len code first index).Reads 0 := by
  induction left generalizing len code first index with
  | zero =>
    intro b p a q _ hwalk
    unfold walk at hwalk
    split at hwalk
    · cases hwalk
    · cases hwalk
  | succ left ih =>
    intro b p a q hp hwalk
    unfold walk at hwalk
    split at hwalk
    · cases hwalk
    · cases hwalk
    · next x m hx =>
      obtain ⟨hread, hm⟩ := reads_highBit b p x m hp hx
      simp only at hwalk
      split at hwalk
      · cases hwalk
        exact ⟨by omega, hm⟩
      · obtain ⟨hlater, hq⟩ := ih _ _ _ _ b m a q hm hwalk
        exact ⟨by omega, hq⟩

theorem reads_walkLength (fuel length : Nat) : (walkLength fuel length).Reads 0 := by
  induction fuel generalizing length with
  | zero =>
    intro b p a q _ h
    cases h
  | succ fuel ih =>
    refine (reads_guard _ _).bind fun _ => reads_highBit.any.bind fun x => ?_
    split
    · exact reads_pure length
    · refine reads_highBit.any.bind fun x => ?_
      split
      · exact ih _
      · exact ih _

theorem reads_readLength (length : Nat) : (readLength length).Reads 0 :=
  fun b p => reads_walkLength (8 * b.size + 1) length b p

theorem reads_readLengths (n length : Nat) (acc : Array Nat) :
    (readLengths n length acc).Reads 0 := by
  induction n generalizing length acc with
  | zero => exact reads_pure acc
  | succ n ih => exact (reads_readLength length).bind fun length => ih _ _

theorem reads_read (alphabet : Nat) : (read alphabet).Reads 0 :=
  (reads_highBits 5).bind fun length => (reads_readLengths alphabet length #[]).bind fun _ =>
    reads_pure _

end Code

theorem reads_expect (e : Fault) (l : List UInt8) : (expect e l).Reads 0 := by
  induction l with
  | nil => exact reads_pure ()
  | cons x rest ih => exact (reads_highBits 8).bind fun _ => (reads_guard _ _).bind fun _ => ih

theorem reads_readStart : readStart.Reads 0 :=
  (reads_expect _ _).bind fun _ => (reads_highBits 8).bind fun _ => (reads_guard _ _).bind fun _ =>
    reads_pure _

namespace Head

theorem reads_readRanges (l : List UInt8) (acc : Array UInt8) : (readRanges l acc).Reads 0 := by
  induction l generalizing acc with
  | nil => exact reads_pure acc
  | cons r rest ih => exact (reads_highBits 16).bind fun x => ih _

theorem reads_read (limit : Nat) : (read limit).Reads 0 := by
  refine (reads_highBits 32).bind fun crc => reads_highBit.any.bind fun disturbed => ?_
  refine (reads_highBits 24).bind fun origin => (reads_guard _ _).bind fun _ => ?_
  refine (reads_highBits 16).bind fun ranges => (reads_readRanges _ _).bind fun bytes => ?_
  refine (reads_guard _ _).bind fun _ => (reads_highBits 3).bind fun codes => ?_
  refine (reads_guard _ _).bind fun _ => (reads_highBits 15).bind fun choices => ?_
  exact (reads_guard _ _).bind fun _ => reads_pure _

end Head

theorem reads_readOpening (limit : Nat) : (readOpening limit).Reads 0 := by
  refine (reads_highBits 8).bind fun x => ?_
  split
  · exact (reads_expect _ _).bind fun _ => (Head.reads_read limit).bind fun _ => reads_pure _
  · exact (reads_expect _ _).bind fun _ => (reads_highBits 32).bind fun _ => reads_pure _
  · exact reads_fail _

theorem reads_readUnary (n j : Nat) : (readUnary n j).Reads 0 := by
  induction n generalizing j with
  | zero => exact reads_fail _
  | succ n ih =>
    refine reads_highBit.any.bind fun x => ?_
    split
    · exact reads_pure j
    · exact ih _

/-- Symbols are read from bits that are there. -/
theorem Symbols.read_le {c : Codes} {limit ending fuel pos q : Nat} {input : ByteArray}
    {s : Symbols} {e : SymbolsEnd} (hpos : pos ≤ 8 * input.size)
    (h : read c limit ending input fuel s pos = (e, q)) : q ≤ 8 * input.size := by
  fun_induction read c limit ending input fuel s pos with
  | case1 | case2 | case4 | case5 =>
    cases h
    exact hpos
  | case3 fuel s pos hleft hchoice ih => exact ih hpos h
  | case6 fuel s pos hleft codes symbol q' hsymbol s' hmore ih =>
    exact ih (Code.reads_walk codes _ _ _ _ _ _ _ _ _ hpos hsymbol).2 h
  | case7 fuel s pos hleft codes symbol q' hsymbol column hcomplete =>
    cases h
    exact (Code.reads_walk codes _ _ _ _ _ _ _ _ _ hpos hsymbol).2
  | case8 fuel s pos hleft codes symbol q' hsymbol hbad =>
    cases h
    exact (Code.reads_walk codes _ _ _ _ _ _ _ _ _ hpos hsymbol).2

namespace Runs

theorem size_pay (r : Runs) (n : Nat) (out : ByteArray) : (r.pay n out).2.size = out.size + n := by
  show (Nat.repeat (fun b => b.push r.byte) n out).size = out.size + n
  induction n with
  | zero => rfl
  | succ n ih =>
    rw [Nat.repeat, ByteArray.size_push, ih]
    omega

/-- What is handed out fits into the room. -/
theorem emit_le {fuel room : Nat} {r r' : Runs} {out out' : ByteArray}
    (h : emit fuel r room out = some (r', out')) : out'.size ≤ out.size + room := by
  induction fuel generalizing r room out with
  | zero =>
    cases h
    exact Nat.le_add_right _ _
  | succ fuel ih =>
    have hn := Nat.min_le_right r.owed room
    have hsize := r.size_pay (min r.owed room) out
    simp only [emit] at h
    split at h
    · cases h
      omega
    · split at h
      · cases h
      · split at h
        · cases h
          omega
        · have hrest := ih h
          omega

end Runs

namespace Decoder

variable {input : ByteArray} {room pos : Nat} {out : ByteArray}

theorem fair_emit {most fuel : Nat} {r r' : Runs} {out' : ByteArray} (h : Fair most room pos out)
    (hemit : Runs.emit fuel r (room - out.size) out = some (r', out')) :
    Fair most room pos out' := by
  have hle := Runs.emit_le hemit
  have hfits := h.fits
  exact ⟨h.within, by omega⟩

theorem items_fair (fuel : Nat) (phase : Phase) (limit : Nat) (combined : UInt32)
    (hfair : Fair (8 * input.size) room pos out) :
    let r := items input room fuel phase limit combined pos out
    Fair (8 * input.size) room r.pos r.out := by
  fun_induction items input room fuel phase limit combined pos out with
  | case1 | case2 | case5 | case11 | case15 | case26 => exact hfair
  | case3 | case6 | case12 | case16 | case19 | case20 | case22 | case25 => exact hfair.nothing
  | case10 | case14 =>
    rename_i ih
    exact ih hfair
  | case4 =>
    rename_i hread ih
    exact ih (hfair.reads reads_readStart hread)
  | case7 =>
    rename_i hread ih
    exact ih (hfair.reads (reads_readOpening _) hread)
  | case8 =>
    rename_i hread _
    exact hfair.reads (reads_readOpening _) hread
  | case9 =>
    rename_i hread _
    exact (hfair.reads (reads_readOpening _) hread).nothing
  | case13 =>
    rename_i hread _ _ _ ih
    exact ih (hfair.reads (reads_readUnary _ _) hread)
  | case17 =>
    rename_i hread ih
    exact ih (hfair.reads (Code.reads_read _) hread)
  | case18 =>
    rename_i hread
    exact ⟨Symbols.read_le hfair.within hread, hfair.fits⟩
  | case21 =>
    rename_i hread _ ih
    exact ih ⟨Symbols.read_le hfair.within hread, hfair.fits⟩
  | case23 =>
    rename_i hemit _
    exact fair_emit hfair hemit
  | case24 =>
    rename_i hemit _ ih
    exact ih (fair_emit hfair hemit)

/-- No call has been refused yet, and the held bytes hold the bit where reading goes on. -/
structure Standing (s : Decoder) : Prop where
  unrefused : s.refusal = none
  bit : s.held.bit ≤ 8 * s.held.bytes.size

theorem decode_serves {s : Decoder} (hs : s.Standing) (offered : Slice) (room : Nat) :
    (∃ m s', decode s offered room = (.error (.data m), s')) ∨
      ∃ step s', s'.Standing ∧ step.Within offered.size room ∧
        decode s offered room = (.ok step, s') := by
  obtain ⟨phase, held, limit, combined, refusal⟩ := s
  obtain rfl : refusal = none := hs.unrefused
  have hjoined : Fair (8 * (held.join offered).1.size) room (held.join offered).2 ByteArray.empty :=
    ⟨Held.bit_join_le hs.bit offered, Nat.zero_le room⟩
  have hfair := items_fair (8 * (held.join offered).1.size + 16) phase limit combined hjoined
  unfold decode
  simp only at hfair ⊢
  generalize items (held.join offered).1 room (8 * (held.join offered).1.size + 16) phase limit
    combined (held.join offered).2 ByteArray.empty = r at hfair ⊢
  obtain ⟨phase', limit', combined', pos, out, halt⟩ := r
  obtain ⟨hpos, hout⟩ := hfair
  cases halt with
  | short =>
    refine .inr ⟨_, _, ⟨rfl, Held.bit_keepAll_le hpos⟩, ⟨?_, hout⟩, rfl⟩
    exact Nat.le_refl _
  | full =>
    refine .inr ⟨_, _, ⟨rfl, Held.bit_keepPart_le hpos⟩, ⟨?_, hout⟩, rfl⟩
    exact Held.takenTo_le hpos
  | ended =>
    refine .inr ⟨_, _, ⟨rfl, Held.bit_keepPart_le hpos⟩, ⟨?_, hout⟩, rfl⟩
    exact Held.takenTo_le hpos
  | bad refusal e =>
    cases e with
    | magic => exact .inl ⟨_, _, rfl⟩
    | data => exact .inl ⟨_, _, rfl⟩

/-- The bzip2 engine is tame under a caller who stops at a rejected stream. -/
theorem engine_tame (codec : Codec) : engine.Tame codec False := by
  refine NativeDecoder.tame_of_keeps (P := Standing) ⟨rfl, Nat.zero_le _⟩
    (fun s offered room hs => ?_) codec
  obtain ⟨m, s', hcall⟩ | hserved := decode_serves hs offered room
  · exact .inl ⟨m, s', False.elim, hcall⟩
  · exact .inr hserved

end Decoder

end StreamCodec.Bzip2
