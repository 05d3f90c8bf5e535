import StreamCodec.Xz.Decoder
import StreamCodec.Proofs.Builtin.Scanning
import StreamCodec.Proofs.Visiting

/-!
The xz decoder up to its first refusal. It reads bytes that are there, so it takes no more than it
is offered, it hands out no more than there is room for, and what it refuses is data.
-/

namespace StreamCodec

namespace Lzma

theorem Range.widen_le {r r' : Range} {input : ByteArray} {stop : Nat} (hpos : r.pos ≤ stop)
    (h : r.widen input stop = some r') : r'.pos ≤ stop := by
  unfold widen at h
  split at h
  · split at h
    · cases h
      assumption
    · cases h
  · cases h
    exact hpos

namespace Draw

variable {α β : Type}

/-- Bytes are taken in front of `stop` only. -/
def Stays (x : Draw α) : Prop :=
  ∀ odds input stop r trail a r' trail', r.pos ≤ stop →
    x odds input stop r trail = .value a r' trail' → r'.pos ≤ stop

theorem stays_pure (a : α) : Stays (Pure.pure a : Draw α) := by
  intro odds input stop r trail a' r' trail' hpos h
  cases h
  exact hpos

theorem Stays.bind {x : Draw α} {f : α → Draw β} (hx : x.Stays) (hf : ∀ a, (f a).Stays) :
    (x >>= f).Stays := by
  intro odds input stop r trail b r' trail' hpos h
  change Draw.bind x f odds input stop r trail = .value b r' trail' at h
  unfold Draw.bind at h
  split at h
  · next a r₁ trail₁ hfirst =>
    exact hf a _ _ _ _ _ _ _ _ (hx _ _ _ _ _ _ _ _ hpos hfirst) h
  · cases h
  · cases h

theorem stays_fail : Stays (fail : Draw α) := by
  intro odds input stop r trail a r' trail' _ h
  cases h

theorem stays_answer (slot : Nat) : (answer slot).Stays := by
  intro odds input stop r trail a r' trail' hpos h
  unfold answer at h
  split at h
  · cases h
  · next range code pos hwiden =>
    have hle : pos ≤ stop := Range.widen_le hpos hwiden
    simp only at h
    split at h
    · cases h
      exact hle
    · cases h
      exact hle

theorem stays_direct (n acc : Nat) : (direct n acc).Stays := by
  induction n generalizing acc with
  | zero => exact stays_pure acc
  | succ n ih =>
    intro odds input stop r trail a r' trail' hpos h
    unfold direct at h
    split at h
    · cases h
    · next range code pos hwiden =>
      have hle : pos ≤ stop := Range.widen_le hpos hwiden
      simp only at h
      split at h
      · exact ih _ _ _ _ _ _ _ _ _ hle h
      · exact ih _ _ _ _ _ _ _ _ _ hle h

theorem stays_tree (base n node : Nat) : (tree base n node).Stays := by
  induction n generalizing node with
  | zero => exact stays_pure node
  | succ n ih => exact (stays_answer _).bind fun b => ih _

theorem stays_number (base n : Nat) : (number base n).Stays :=
  (stays_tree base n 1).bind fun _ => stays_pure _

theorem stays_reversed (base n node weight acc : Nat) :
    (reversed base n node weight acc).Stays := by
  induction n generalizing node weight acc with
  | zero => exact stays_pure acc
  | succ n ih => exact (stays_answer _).bind fun b => ih _ _ _

theorem stays_length (repeated : Bool) (place : Nat) : (length repeated place).Stays := by
  refine (stays_answer _).bind fun b => ?_
  split
  · exact (stays_number _ _).bind fun _ => stays_pure _
  · refine (stays_answer _).bind fun b => ?_
    split
    · exact (stays_number _ _).bind fun _ => stays_pure _
    · exact (stays_number _ _).bind fun _ => stays_pure _

theorem stays_distance (n : Nat) : (distance n).Stays := by
  refine (stays_number _ _).bind fun slot => ?_
  split
  · exact stays_pure slot
  · simp only
    split
    · exact stays_reversed _ _ _ _ _
    · exact (stays_direct _ _).bind fun high => stays_reversed _ _ _ _ _

theorem stays_facingBits (base facing n node : Nat) (agree : Bool) :
    (facingBits base facing n node agree).Stays := by
  induction n generalizing node agree with
  | zero => exact stays_pure node
  | succ n ih => exact (stays_answer _).bind fun b => ih _ _

theorem stays_symbol (m : Model) (s : Surroundings) : (symbol m s).Stays := by
  have hagain (n : Nat) (place : Nat) :
      Stays (do return .again n (← length true place) : Draw Symbol) :=
    (stays_length true place).bind fun _ => stays_pure _
  refine (stays_answer _).bind fun b => ?_
  split
  · exact (stays_facingBits _ _ _ _ _).bind fun _ => stays_pure _
  · refine (stays_answer _).bind fun b => ?_
    split
    · exact (stays_length _ _).bind fun n => (stays_distance n).bind fun _ => stays_pure _
    · split
      · exact stays_fail
      · refine (stays_answer _).bind fun b => ?_
        split
        · refine (stays_answer _).bind fun b => ?_
          split
          · exact stays_pure _
          · exact hagain 0 _
        · refine (stays_answer _).bind fun b => ?_
          split
          · exact hagain 1 _
          · refine (stays_answer _).bind fun b => ?_
            split
            · exact hagain 2 _
            · exact hagain 3 _

end Draw

namespace Chunks

variable {input : ByteArray} {pos stop : Nat}

theorem head_le {c c' : Chunks} {b n : Nat} (h : c.head b input pos stop = .ok (c', n)) :
    pos + n ≤ stop := by
  unfold head at h
  split at h
  · split at h
    · cases h
    · cases h
      omega
  · split at h
    · cases h
    · simp only at h
      split at h
      · cases h
        omega
      · split at h
        · cases h
        · split at h
          · cases h
          · cases h
            omega

theorem openRange_le {r : Range} (h : openRange input pos stop = .ok r) : r.pos ≤ stop := by
  unfold openRange at h
  split at h
  · cases h
  · split at h
    · cases h
    · split at h
      · cases h
      · cases h
        show pos + 5 ≤ stop
        omega

/-- Stored bytes are copied as far as there are any. -/
theorem copied_le (hpos : pos ≤ stop) (left room : Nat) :
    pos + min left (min (stop - pos) room) ≤ stop := by
  omega

theorem run_le {limit dictionary : Nat} (hpos : pos ≤ stop) (fuel : Nat) (c : Chunks)
    (out : ByteArray) : (run input stop limit dictionary fuel c pos out).2.1 ≤ stop := by
  fun_induction run input stop limit dictionary fuel c pos out with
  | case1 | case2 | case3 | case5 | case8 | case10 | case11 | case12 | case14 | case15 | case17
  | case19 | case20 | case21 | case26 | case28 | case29 | case30 => exact hpos
  | case4 =>
    rename_i hmore _ _
    exact Nat.lt_of_not_le hmore
  | case6 =>
    rename_i hmore _ _ _ _ _ _
    exact Nat.lt_of_not_le hmore
  | case7 =>
    rename_i hmore _ _ _ _ _ _ ih
    exact ih (Nat.lt_of_not_le hmore)
  | case9 =>
    rename_i hhead ih
    exact ih (head_le hhead)
  | case13 =>
    rename_i hopen _ ih
    exact ih (openRange_le hopen)
  | case16 =>
    rename_i hwiden _ _ _
    exact Range.widen_le hpos hwiden
  | case18 =>
    rename_i hwiden _ _ _ _ ih
    exact ih (Range.widen_le hpos hwiden)
  | case22 | case23 | case24 | case25 =>
    rename_i hsymbol ih
    exact ih _ _ (Draw.stays_symbol _ _ _ _ _ _ _ _ _ _ hpos hsymbol)
  | case27 =>
    rename_i ih
    exact ih hpos
  | case31 =>
    rename_i ih
    exact ih (copied_le hpos _ _)
  | case32 => exact copied_le hpos _ _

end Chunks

end Lzma

namespace Xz

open Scan

theorem bytewise_byte : byte.Bytewise := by
  intro b i a q _ h
  obtain ⟨rfl, hq, -⟩ := bits_eq_value h
  exact ⟨i + 1, rfl, by omega⟩

theorem bytewise_zeros (e : Fault) (n : Nat) : (zeros e n).Bytewise := by
  induction n with
  | zero => exact bytewise_pure ()
  | succ n ih => exact bytewise_byte.bind fun _ => (bytewise_guard _ _).bind fun _ => ih

theorem bytewise_numberFrom (left weight acc : Nat) : (numberFrom left weight acc).Bytewise := by
  induction left generalizing weight acc with
  | zero => exact bytewise_fail _
  | succ left ih =>
    refine bytewise_byte.bind fun b => ?_
    simp only
    split
    · exact (bytewise_guard _ _).bind fun _ => bytewise_pure _
    · exact ih _ _

theorem bytewise_judged {α : Type} (r : Except Fault α) : (judged r).Bytewise := by
  cases r with
  | ok a => exact bytewise_pure a
  | error e => exact bytewise_fail e

theorem bytewise_readStart : readStart.Bytewise :=
  (bytewise_bytes 12).bind fun _ => (bytewise_guard _ _).bind fun _ =>
    (bytewise_guard _ _).bind fun _ => bytewise_judged _

theorem bytewise_readFooter (id size : Nat) : (readFooter id size).Bytewise :=
  (bytewise_bytes 12).bind fun _ => (bytewise_guard _ _).bind fun _ =>
    (bytewise_guard _ _).bind fun _ => (bytewise_judged _).bind fun _ => bytewise_guard _ _

theorem bytewise_readBlockHeader (checkSize : Nat) : (readBlockHeader checkSize).Bytewise := by
  refine bytewise_byte.bind fun x => (bytewise_bytes _).bind fun rest => ?_
  refine (bytewise_guard _ _).bind fun _ => ?_
  split
  · exact bytewise_pure _
  · exact bytewise_fail _
  · exact bytewise_fail _

theorem bytewise_readRecords (blocks : List Record) (left : Nat) (acc : List Record) :
    (readRecords blocks left acc).Bytewise := by
  induction left generalizing acc with
  | zero => exact bytewise_pure _
  | succ left ih =>
    refine (bytewise_numberFrom _ _ _).bind fun n => (bytewise_guard _ _).bind fun _ => ?_
    refine (bytewise_numberFrom _ _ _).bind fun m => ?_
    exact (bytewise_guard _ _).bind fun _ => ih _

theorem bytewise_expectNumber (n value : Nat) : (expectNumber n value).Bytewise := by
  induction n generalizing value with
  | zero => exact bytewise_pure ()
  | succ n ih => exact bytewise_byte.bind fun _ => (bytewise_guard _ _).bind fun _ => ih _

theorem bytewise_readIndex (blocks : List Record) : (readIndex blocks).Bytewise := by
  intro b i a q hi h
  unfold readIndex at h
  refine Bytewise.bind bytewise_byte (fun _ => ?_) b i a q hi h
  refine (bytewise_numberFrom _ _ _).bind fun _ => (bytewise_guard _ _).bind fun _ => ?_
  refine (bytewise_readRecords _ _ _).bind fun _ => bytewise_position.bind fun _ => ?_
  refine (bytewise_zeros _ _).bind fun _ => bytewise_ahead.bind fun _ => ?_
  refine (bytewise_guard _ _).bind fun _ => (bytewise_expectNumber _ _).bind fun _ => ?_
  exact bytewise_pure _

namespace Block

theorem bytewise_readEnd (id read : Nat) (check : Check) : (readEnd id read check).Bytewise :=
  (bytewise_zeros _ _).bind fun _ => (bytewise_bytes _).bind fun _ => bytewise_guard _ _

theorem pass_le {b : Block} {input : ByteArray} {pos room : Nat} {p : Passed}
    (hpos : pos ≤ input.size) (h : b.pass input pos room = .ok p) :
    p.pos ≤ input.size ∧ p.out.size ≤ room := by
  obtain ⟨header, chunks, raw, filters, ready, check, read, handed⟩ := b
  unfold pass at h
  simp -zeta only at h
  extract_lets stop allowed old limit fuel more ready out at h
  have hstop : pos ≤ stop ∧ stop ≤ input.size := by
    dsimp only [stop]
    split
    · exact ⟨by omega, by omega⟩
    · exact ⟨hpos, Nat.le_refl _⟩
  have hallowed : allowed ≤ room := by
    dsimp only [allowed]
    split
    · exact Nat.min_le_left _ _
    · exact Nat.le_refl _
  have hout : out.size ≤ allowed := by
    rw [ByteArray.size_extract]
    omega
  split at h
  · cases h
  · split at h
    · cases h
    · split at h
      · cases h
      · cases h
        exact ⟨Nat.le_trans (Lzma.Chunks.run_le hstop.1 fuel chunks raw) hstop.2,
          Nat.le_trans hout hallowed⟩

end Block

namespace Decoder

variable {input : ByteArray} {room pos : Nat} {out : ByteArray}

theorem fair_pass {b : Block} {p : Block.Passed} (h : Fair input.size room pos out)
    (hpass : b.pass input pos (room - out.size) = .ok p) :
    Fair input.size room p.pos (out ++ p.out) := by
  obtain ⟨hpos, hout⟩ := Block.pass_le h.within hpass
  have hfits := h.fits
  refine ⟨hpos, ?_⟩
  rw [ByteArray.size_append]
  omega

theorem parts_fair (fuel : Nat) (phase : Phase) (id : Nat) (records : List Record)
    (hfair : Fair input.size room pos out) :
    let r := parts input room fuel phase id records pos out
    Fair input.size room r.pos r.out := by
  fun_induction parts input room fuel phase id records pos out with
  | case1 | case2 | case5 | case7 | case14 | case17 | case20 | case23 => exact hfair
  | case3 | case8 | case10 | case15 | case18 | case21 => exact hfair.nothing
  | case4 =>
    rename_i hread ih
    exact ih (hfair.bytewise bytewise_readStart hread)
  | case6 =>
    rename_i ih
    exact ih hfair
  | case9 =>
    rename_i hread ih
    exact ih (hfair.bytewise (bytewise_readBlockHeader _) hread)
  | case11 =>
    rename_i hpass ih
    exact ih (fair_pass hfair hpass)
  | case12 | case13 =>
    rename_i hpass
    exact fair_pass hfair hpass
  | case16 =>
    rename_i hread ih
    exact ih (hfair.bytewise (Block.bytewise_readEnd _ _ _) hread)
  | case19 =>
    rename_i hread ih
    exact ih (hfair.bytewise (bytewise_readIndex _) hread)
  | case22 =>
    rename_i hread
    exact hfair.bytewise (bytewise_readFooter _ _) hread

/-- No call has been refused yet, and the held bytes hold the bit where reading goes on. -/
structure Standing (s : Decoder) : Prop where
  unfailed : s.failed = false
  bit : s.held.bit ≤ 8 * s.held.bytes.size

theorem decode_serves {s : Decoder} (hs : s.Standing) (offered : Slice) (room : Nat) :
    (∃ m s', decode s offered room = (.error (.data m), s')) ∨
      ∃ step s', s'.Standing ∧ step.Within offered.size room ∧
        decode s offered room = (.ok step, s') := by
  obtain ⟨phase, held, id, records, failed⟩ := s
  obtain rfl : failed = false := hs.unfailed
  have hstart : (held.join offered).2 ≤ 8 * (held.join offered).1.size :=
    Held.bit_join_le hs.bit offered
  have hjoined : Fair (held.join offered).1.size room ((held.join offered).2 / 8)
      ByteArray.empty := ⟨by omega, Nat.zero_le room⟩
  have hfair := parts_fair (2 * (held.join offered).1.size + 16) phase id records hjoined
  unfold decode
  simp only at hfair ⊢
  generalize parts (held.join offered).1 room (2 * (held.join offered).1.size + 16) phase id records
    ((held.join offered).2 / 8) ByteArray.empty = r at hfair ⊢
  obtain ⟨phase', id', records', pos, out, halt⟩ := r
  obtain ⟨hwithin, hout⟩ := hfair
  have hpos : 8 * pos ≤ 8 * (held.join offered).1.size := Nat.mul_le_mul_left 8 hwithin
  cases halt with
  | short =>
    refine .inr ⟨_, _, ⟨rfl, Held.bit_keepAll_le hpos⟩, ⟨?_, hout⟩, rfl⟩
    exact Nat.le_refl _
  | full =>
    refine .inr ⟨_, _, ⟨rfl, held.bit_keepTo_le hpos⟩, ⟨?_, hout⟩, rfl⟩
    exact Held.takenTo_le hpos
  | ended =>
    refine .inr ⟨_, _, ⟨rfl, held.bit_keepTo_le hpos⟩, ⟨?_, hout⟩, rfl⟩
    exact Held.takenTo_le hpos
  | bad e =>
    cases e with
    | format => exact .inl ⟨_, _, rfl⟩
    | options => exact .inl ⟨_, _, rfl⟩
    | data => exact .inl ⟨_, _, rfl⟩

/-- The xz engine is tame under a caller who stops at a rejected stream. -/
theorem engine_tame (codec : Codec) : engine.Tame codec False := by
  refine NativeDecoder.tame_of_keeps (P := Standing) ⟨rfl, Nat.zero_le _⟩
    (fun s offered room hs => ?_) codec
  obtain ⟨m, s', hcall⟩ | hserved := decode_serves hs offered room
  · exact .inl ⟨m, s', False.elim, hcall⟩
  · exact .inr hserved

end Decoder

end Xz

end StreamCodec
