import StreamCodec.Proofs.Builtin.Scanning
import StreamCodec.Proofs.Visiting
import StreamCodec.Deflate.Decoder

/-!
The inflate engine under any caller. Its position stays within the bytes it has, so it never takes
more than it is offered; what it has written and what is due is paid for by the bits it has read;
and all that it refuses is data.
-/

namespace StreamCodec

theorem Bytes.size_copyBack (out : ByteArray) (distance n : Nat) :
    (copyBack out distance n).size = out.size + n := by
  induction n generalizing out with
  | zero => rfl
  | succ n ih =>
    rw [copyBack, ih, ByteArray.size_push]
    omega

/-- Bytes that are there, put behind `out`. -/
theorem Bytes.size_copySlice_end {input : ByteArray} {i n : Nat} (h : n ≤ input.size - i)
    (out : ByteArray) : (input.copySlice i out out.size n).size = out.size + n := by
  simp only [ByteArray.copySlice_eq_append, ByteArray.size_append, ByteArray.size_extract]
  omega

namespace Deflate

open Scan

namespace Codes

theorem reads_ranged (codes : Array (Nat × Nat)) (symbol : Nat) :
    (ranged codes symbol).Reads 0 := by
  unfold ranged
  split
  · exact (reads_bits _).bind fun _ => reads_pure _
  · exact reads_fail _

theorem reads_token (c : Codes) : c.token.Reads 1 := by
  refine (c.literal.reads_decode Malformed.symbol).bind fun s => ?_
  by_cases hliteral : s < 256
  · rw [if_pos hliteral]
    exact reads_pure _
  · rw [if_neg hliteral]
    by_cases hend : s = 256
    · rw [if_pos hend]
      exact reads_pure _
    · rw [if_neg hend]
      refine (reads_ranged _ _).bind fun length => ?_
      refine (c.distance.reads_decode Malformed.symbol).any.bind fun s => ?_
      exact (reads_ranged _ _).bind fun _ => reads_pure _

theorem longest_length : ∀ code ∈ lengthCodes, code.1 + (Bits.mask code.2).toNat ≤ 258 := by
  decide

theorem ranged_length_le {b : ByteArray} {p q symbol length : Nat}
    (h : ranged lengthCodes symbol b p = .value length q) : length ≤ 258 := by
  unfold ranged at h
  rcases hcode : lengthCodes[symbol]? with _ | ⟨base, extra⟩
  · rw [hcode] at h
    cases h
  · rw [hcode] at h
    obtain ⟨x, m, hx, h⟩ := bind_eq_value h
    cases h
    have hmost := longest_length (base, extra) (Array.mem_of_getElem? hcode)
    have hle := (bits_eq_value hx).2.2
    simp only at hmost
    omega

/-- No copy is longer than 258 bytes. -/
theorem token_copy_le {c : Codes} {b : ByteArray} {p q length distance : Nat}
    (h : c.token b p = .value (.copy length distance) q) : length ≤ 258 := by
  obtain ⟨s, m, -, h⟩ := bind_eq_value h
  by_cases hliteral : s < 256
  · rw [if_pos hliteral] at h
    cases h
  · rw [if_neg hliteral] at h
    by_cases hend : s = 256
    · rw [if_pos hend] at h
      cases h
    · rw [if_neg hend] at h
      obtain ⟨n, m, hlength, h⟩ := bind_eq_value h
      obtain ⟨s', m, -, h⟩ := bind_eq_value h
      obtain ⟨d, m, -, h⟩ := bind_eq_value h
      cases h
      exact ranged_length_le hlength

end Codes

namespace BlockHeader

theorem reads_expand (lengths : Array Nat) (symbol : Nat) : (expand lengths symbol).Reads 0 := by
  unfold expand
  split
  · exact reads_pure _
  · split
    · split
      · exact reads_fail _
      · exact (reads_bits 2).bind fun _ => reads_pure _
    · split
      · exact (reads_bits 3).bind fun _ => reads_pure _
      · exact (reads_bits 7).bind fun _ => reads_pure _

theorem reads_readLengths (code : Huffman) (total left : Nat) (lengths : Array Nat) :
    (readLengths code total left lengths).Reads 0 := by
  induction left generalizing lengths with
  | zero => exact reads_pure lengths
  | succ left ih =>
    unfold readLengths
    split
    · exact reads_pure lengths
    · refine (code.reads_decode Malformed.codeLengths).any.bind fun s => ?_
      exact (reads_expand lengths s).bind fun _ => ih _

theorem reads_dynamicCodes : dynamicCodes.Reads 0 := by
  refine (reads_bits 5).bind fun _ => (reads_bits 5).bind fun _ => (reads_bits 4).bind fun _ => ?_
  refine (reads_guard _ _).bind fun _ => (reads_times (reads_bits 3) _ _).bind fun _ => ?_
  refine (reads_guard _ _).bind fun _ => (reads_readLengths _ _ _ _).bind fun _ => ?_
  refine (reads_guard _ _).bind fun _ => (reads_guard _ _).bind fun _ => ?_
  exact (reads_guard _ _).bind fun _ => reads_pure _

theorem reads_storedLength : storedLength.Reads 0 := by
  refine reads_align.bind fun _ => (reads_bits 16).bind fun _ => (reads_bits 16).bind fun _ => ?_
  exact (reads_guard _ _).bind fun _ => reads_pure _

theorem reads_read : read.Reads 0 := by
  refine (reads_bits 1).bind fun _ => (reads_bits 2).bind fun kind => ?_
  split
  · exact reads_storedLength.bind fun _ => reads_pure _
  · exact reads_pure _
  · exact reads_dynamicCodes.bind fun _ => reads_pure _
  · exact reads_fail _

/-- Behind the length of a stored block a byte starts. -/
theorem storedLength_mod {b : ByteArray} {p n q : Nat} (h : storedLength b p = .value n q) :
    q % 8 = 0 := by
  obtain ⟨_, m, halign, h⟩ := bind_eq_value h
  obtain ⟨_, m', hlength, h⟩ := bind_eq_value h
  obtain ⟨_, m'', hcomplement, h⟩ := bind_eq_value h
  obtain ⟨_, m''', hguard, h⟩ := bind_eq_value h
  cases h
  have hm := (bits_eq_value halign).1
  have hm' := (bits_eq_value hlength).1
  have hm'' := (bits_eq_value hcomplement).1
  have hle := Bits.le_align p
  have hmod := Bits.align_mod p
  unfold Scan.guard at hguard
  split at hguard
  · cases hguard
    omega
  · cases hguard

theorem read_stored_mod {b : ByteArray} {p q n : Nat} {last : Bool}
    (h : read b p = .value { last, body := .stored n } q) : q % 8 = 0 := by
  obtain ⟨_, m, -, h⟩ := bind_eq_value h
  obtain ⟨kind, m', -, h⟩ := bind_eq_value h
  split at h
  · obtain ⟨n', m'', hlength, h⟩ := bind_eq_value h
    cases h
    exact storedLength_mod hlength
  · cases h
  · obtain ⟨codes, m'', -, h⟩ := bind_eq_value h
    cases h
  · cases h

end BlockHeader

/-- The bytes that have been read and wait for room. -/
def Phase.due : Phase → Nat
  | .literal _ _ => 1
  | .copy length _ _ => length
  | .frame | .block | .stored _ | .tokens _ | .check | .ended => 0

/-- The bytes of a stored block start at a byte boundary. -/
def Phase.Placed (pos : Nat) : Phase → Prop
  | .stored _ => pos % 8 = 0
  | .frame | .block | .tokens _ | .literal _ _ | .copy _ _ _ | .check | .ended => True

theorem Phase.placed_zero (phase : Phase) : phase.Placed 0 := by
  cases phase <;> trivial

namespace Inflate

/-- Reading on from `pos` to `pos'`, with `size` and then `size'` bytes written: every bit pays for
258 bytes, of which some may be due. -/
structure Advances (input : ByteArray) (phase : Phase) (pos size : Nat) (phase' : Phase)
    (pos' size' : Nat) : Prop where
  within : pos' ≤ 8 * input.size
  placed : phase'.Placed pos'
  onward : pos ≤ pos'
  grows : size ≤ size'
  paid : size' + phase'.due + 258 * pos ≤ size + phase.due + 258 * pos'

variable {input : ByteArray} {phase phase' phase'' : Phase} {pos pos' pos'' size size' size'' : Nat}

theorem Advances.refl (hpos : pos ≤ 8 * input.size) (hplaced : phase.Placed pos) :
    Advances input phase pos size phase pos size :=
  ⟨hpos, hplaced, Nat.le_refl _, Nat.le_refl _, Nat.le_refl _⟩

theorem Advances.trans (h : Advances input phase pos size phase' pos' size')
    (h' : Advances input phase' pos' size' phase'' pos'' size'') :
    Advances input phase pos size phase'' pos'' size'' := by
  obtain ⟨-, -, honward, hgrows, hpaid⟩ := h
  obtain ⟨hwithin, hplaced, honward', hgrows', hpaid'⟩ := h'
  exact ⟨hwithin, hplaced, by omega, by omega, by omega⟩

theorem Advances.behind (h : Advances input phase pos 0 phase' pos' size') (size : Nat) :
    Advances input phase pos size phase' pos' (size + size') := by
  obtain ⟨hwithin, hplaced, honward, -, hpaid⟩ := h
  exact ⟨hwithin, hplaced, honward, Nat.le_add_right _ _, by omega⟩

/-- Where nothing is due, what was read was read for nothing. -/
theorem Advances.of_read (hle : pos ≤ pos') (hpos : pos' ≤ 8 * input.size)
    (hplaced : phase'.Placed pos') (hdue : phase'.due = 0) :
    Advances input phase pos size phase' pos' size :=
  ⟨hpos, hplaced, hle, Nat.le_refl _, by omega⟩

def Pause.due : Pause → Nat
  | .literal _ => 1
  | .copy length _ => length
  | .short | .bad | .endOfBlock => 0

/-- A token takes a bit at least, and stands for 258 bytes at most. -/
theorem tokens_advances {codes : Codes} {fuel room q : Nat} {out out' : ByteArray} {pause : Pause}
    (hpos : pos ≤ 8 * input.size) (h : tokens codes input fuel pos room out = (q, out', pause)) :
    pos ≤ q ∧ q ≤ 8 * input.size ∧ out.size ≤ out'.size ∧
      out'.size + pause.due + 258 * pos ≤ out.size + 258 * q := by
  fun_induction tokens codes input fuel pos room out with
  | case1 | case2 | case3 =>
    cases h
    exact ⟨Nat.le_refl _, hpos, Nat.le_refl _, Nat.le_refl _⟩
  | case4 fuel pos room out q' htoken =>
    cases h
    obtain ⟨hread, hq⟩ := codes.reads_token _ _ _ _ hpos htoken
    exact ⟨by omega, hq, Nat.le_refl _, by simp only [Pause.due]; omega⟩
  | case5 fuel pos out x q' htoken =>
    cases h
    obtain ⟨hread, hq⟩ := codes.reads_token _ _ _ _ hpos htoken
    exact ⟨by omega, hq, Nat.le_refl _, by simp only [Pause.due]; omega⟩
  | case6 fuel pos room out x q' htoken hroom ih =>
    obtain ⟨hread, hq⟩ := codes.reads_token _ _ _ _ hpos htoken
    obtain ⟨hle, hend, hgrows, hpaid⟩ := ih hq h
    rw [ByteArray.size_push] at hgrows hpaid
    exact ⟨by omega, hend, by omega, by omega⟩
  | case7 fuel pos room out length distance q' htoken n out₁ hfull =>
    obtain ⟨rfl, hrest⟩ := Prod.mk.inj h
    obtain ⟨hout, rfl⟩ := Prod.mk.inj hrest
    obtain ⟨hread, hq⟩ := codes.reads_token _ _ _ _ hpos htoken
    have hmost := Codes.token_copy_le htoken
    have hsize : out₁.size = out.size + n := Bytes.size_copyBack out distance n
    rw [← hout]
    exact ⟨by omega, hq, by omega, by simp only [Pause.due]; omega⟩
  | case8 fuel pos room out length distance q' htoken n out₁ hfull ih =>
    obtain ⟨hread, hq⟩ := codes.reads_token _ _ _ _ hpos htoken
    have hmost := Codes.token_copy_le htoken
    have hsize : out₁.size = out.size + n := Bytes.size_copyBack out distance n
    obtain ⟨hle, hend, hgrows, hpaid⟩ := ih hq h
    exact ⟨by omega, hend, by omega, by omega⟩

theorem Advances.of_tokens {codes : Codes} {fuel room q : Nat} {out out' : ByteArray}
    {pause : Pause} (hpos : pos ≤ 8 * input.size)
    (h : tokens codes input fuel pos room out = (q, out', pause)) (hplaced : phase'.Placed q)
    (hdue : phase'.due = pause.due) :
    Advances input (.tokens codes) pos out.size phase' q out'.size := by
  obtain ⟨hle, hq, hgrows, hpaid⟩ := tokens_advances hpos h
  refine ⟨hq, hplaced, hle, hgrows, ?_⟩
  show out'.size + phase'.due + 258 * pos ≤ out.size + 0 + 258 * q
  omega

theorem Advances.of_stored {left n : Nat} (hpos : pos ≤ 8 * input.size)
    (hplaced : (Phase.stored left).Placed pos) (out : ByteArray) (hn : n ≤ input.size - pos / 8) :
    Advances input (.stored left) pos out.size (.stored (left - n)) (pos + 8 * n)
      (input.copySlice (pos / 8) out out.size n).size := by
  have hmod : pos % 8 = 0 := hplaced
  rw [Bytes.size_copySlice_end hn]
  refine ⟨by omega, ?_, by omega, by omega, by simp only [Phase.due]; omega⟩
  show (pos + 8 * n) % 8 = 0
  omega

theorem Advances.of_copy {length distance n : Nat} {codes : Codes} {out : ByteArray}
    (hpos : pos ≤ 8 * input.size) (hn : n ≤ length) (hplaced : phase'.Placed pos)
    (hdue : phase'.due = length - n) :
    Advances input (.copy length distance codes) pos out.size phase' pos
      (Bytes.copyBack out distance n).size := by
  rw [Bytes.size_copyBack]
  refine ⟨hpos, hplaced, Nat.le_refl _, by omega, ?_⟩
  show out.size + n + phase'.due + 258 * pos ≤ out.size + length + 258 * pos
  omega

theorem placed_afterBlock (framed last : Bool) (pos : Nat) :
    (afterBlock framed last).Placed pos := by
  unfold afterBlock
  split
  · split
    · trivial
    · trivial
  · trivial

theorem due_afterBlock (framed last : Bool) : (afterBlock framed last).due = 0 := by
  unfold afterBlock
  split
  · split
    · rfl
    · rfl
  · rfl

section

variable {framed : Bool} {base : Nat} {sum : Adler32} {fuel full : Nat} {last : Bool}
  {out : ByteArray} {r : Run}

/-- One turn of the loop: it stops or goes on, and either way it advances. -/
inductive Turns (framed : Bool) (base : Nat) (sum : Adler32) (input : ByteArray) (fuel full : Nat)
    (phase : Phase) (pos size : Nat) : Run → Prop
  | stops {r : Run} (h : Advances input phase pos size r.phase r.pos r.out.size) :
    Turns framed base sum input fuel full phase pos size r
  | goes {phase' : Phase} {last : Bool} {pos' : Nat} {out : ByteArray}
    (h : Advances input phase pos size phase' pos' out.size) :
    Turns framed base sum input fuel full phase pos size
      (items framed base sum input fuel full phase' last pos' out)

theorem turns_frame (hpos : pos ≤ 8 * input.size) :
    Turns framed base sum input fuel full .frame pos out.size
      (items framed base sum input (fuel + 1) full .frame last pos out) := by
  simp only [items]
  split
  · next cmf flags hcmf hflags =>
    split
    · have hread := (Bits.takeLow?_eq_some hflags).1
      exact .goes (.of_read (by omega) hread trivial rfl)
    · exact .stops (.refl hpos trivial)
  · exact .stops (.refl hpos trivial)

theorem turns_block (hpos : pos ≤ 8 * input.size) :
    Turns framed base sum input fuel full .block pos out.size
      (items framed base sum input (fuel + 1) full .block last pos out) := by
  simp only [items]
  split
  · exact .stops (.refl hpos trivial)
  · exact .stops (.refl hpos trivial)
  · next header q hheader =>
    obtain ⟨hread, hq⟩ := BlockHeader.reads_read _ _ _ _ hpos hheader
    obtain ⟨last', body⟩ := header
    cases body with
    | stored n => exact .goes (.of_read hread hq (BlockHeader.read_stored_mod hheader) rfl)
    | compressed codes => exact .goes (.of_read hread hq trivial rfl)

theorem turns_stored {left : Nat} (hpos : pos ≤ 8 * input.size)
    (hplaced : (Phase.stored left).Placed pos) :
    Turns framed base sum input fuel full (.stored left) pos out.size
      (items framed base sum input (fuel + 1) full (.stored left) last pos out) := by
  simp only [items]
  split
  · exact .goes (.of_read (Nat.le_refl _) hpos (placed_afterBlock framed last pos)
      (due_afterBlock framed last))
  · split
    · exact .stops (.refl hpos hplaced)
    · split
      · exact .stops (.refl hpos hplaced)
      · exact .goes (.of_stored hpos hplaced out (Nat.le_trans
          (Nat.min_le_right left (min (full - out.size) (input.size - pos / 8)))
          (Nat.min_le_right _ _)))

theorem turns_tokens {codes : Codes} (hpos : pos ≤ 8 * input.size) :
    Turns framed base sum input fuel full (.tokens codes) pos out.size
      (items framed base sum input (fuel + 1) full (.tokens codes) last pos out) := by
  simp only [items]
  split
  · next htokens => exact .stops (.of_tokens hpos htokens trivial rfl)
  · next htokens => exact .stops (.of_tokens hpos htokens trivial rfl)
  · next q out htokens =>
    exact .goes (.of_tokens hpos htokens (placed_afterBlock framed last q)
      (due_afterBlock framed last))
  · next htokens => exact .stops (.of_tokens hpos htokens trivial rfl)
  · next htokens => exact .stops (.of_tokens hpos htokens trivial rfl)

theorem turns_literal {x : UInt8} {codes : Codes} (hpos : pos ≤ 8 * input.size) :
    Turns framed base sum input fuel full (.literal x codes) pos out.size
      (items framed base sum input (fuel + 1) full (.literal x codes) last pos out) := by
  simp only [items]
  split
  · exact .stops (.refl hpos trivial)
  · refine .goes ⟨hpos, trivial, Nat.le_refl _, ?_, ?_⟩
    · rw [ByteArray.size_push]
      omega
    · rw [ByteArray.size_push]
      simp only [Phase.due]
      omega

theorem turns_copy {length distance : Nat} {codes : Codes} (hpos : pos ≤ 8 * input.size) :
    Turns framed base sum input fuel full (.copy length distance codes) pos out.size
      (items framed base sum input (fuel + 1) full (.copy length distance codes) last pos out) := by
  have hn := Nat.min_le_left length (full - out.size)
  simp only [items]
  split
  · exact .stops (.of_copy hpos hn trivial rfl)
  · exact .goes (.of_copy hpos hn trivial (by simp only [Phase.due]; omega))

theorem turns_check (hpos : pos ≤ 8 * input.size) :
    Turns framed base sum input fuel full .check pos out.size
      (items framed base sum input (fuel + 1) full .check last pos out) := by
  simp only [items]
  split
  · exact .stops (.refl hpos trivial)
  · next stored hstored =>
    split
    · have hread := (Bits.takeLow?_eq_some hstored).1
      have hle := Bits.le_align pos
      exact .goes (.of_read (by omega) hread trivial rfl)
    · exact .stops (.refl hpos trivial)

theorem items_turns (hpos : pos ≤ 8 * input.size) (hplaced : phase.Placed pos) :
    Turns framed base sum input fuel full phase pos out.size
      (items framed base sum input (fuel + 1) full phase last pos out) := by
  cases phase with
  | frame => exact turns_frame hpos
  | block => exact turns_block hpos
  | stored left => exact turns_stored hpos hplaced
  | tokens codes => exact turns_tokens hpos
  | literal x codes => exact turns_literal hpos
  | copy length distance codes => exact turns_copy hpos
  | check => exact turns_check hpos
  | ended => exact .stops (.of_read (Bits.le_align pos) (Bits.align_le hpos) trivial rfl)

theorem items_advances (hpos : pos ≤ 8 * input.size) (hplaced : phase.Placed pos)
    (h : items framed base sum input fuel full phase last pos out = r) :
    Advances input phase pos out.size r.phase r.pos r.out.size := by
  induction fuel generalizing phase last pos out with
  | zero =>
    subst h
    exact .refl hpos hplaced
  | succ fuel ih =>
    have hturn : Turns framed base sum input fuel full phase pos out.size r :=
      h ▸ items_turns hpos hplaced
    cases hturn with
    | stops hstep => exact hstep
    | goes hstep => exact hstep.trans (ih hstep.within hstep.placed rfl)

end

theorem run_advances {s s' : Inflate} {written : ByteArray} {halt : Halt}
    (hpos : pos ≤ 8 * input.size) (hplaced : s.phase.Placed pos)
    (h : s.run input pos = (s', pos', written, halt)) :
    Advances input s.phase pos 0 s'.phase pos' written.size := by
  obtain ⟨framed, phase, last, recent, total, sum⟩ := s
  simp only [run] at h
  generalize hr : items framed recent.size sum input (8 * input.size + 8)
    (recent.size + (windowSize - total % windowSize)) phase last pos recent = r at h
  obtain ⟨hwithin, hplaced, honward, hgrows, hpaid⟩ := items_advances hpos hplaced hr
  cases h
  refine ⟨hwithin, hplaced, honward, Nat.zero_le _, ?_⟩
  rw [ByteArray.size_extract]
  show _ + r.phase.due + 258 * pos ≤ 0 + phase.due + 258 * r.pos
  simp only at hpaid
  omega

end Inflate

namespace Decoder

open Inflate

variable {input : ByteArray} {s s' : Decoder} {offered : Slice} {room : Nat} {step : Step}

theorem size_handed (out written : ByteArray) (room : Nat) :
    (out ++ written.extract 0 (min written.size room)).size =
      out.size + min written.size room := by
  rw [ByteArray.size_append, ByteArray.size_extract]
  omega

/-- What a burst has read pays for what it has handed out and what it owes. -/
theorem bursts_advances {fuel pos : Nat} {core : Inflate} {out : ByteArray} {b : Burst}
    (hpos : pos ≤ 8 * input.size) (hplaced : core.phase.Placed pos)
    (h : bursts input fuel core pos room out = b) :
    Advances input core.phase pos out.size b.core.phase b.pos (b.out.size + b.owed.size) ∧
      b.out.size ≤ out.size + room := by
  fun_induction bursts input fuel core pos room out with
  | case1 core pos room out =>
    subst h
    exact ⟨.refl hpos hplaced, Nat.le_add_right _ _⟩
  | case2 fuel core pos room out core' pos' written halt hrun n out' owed hgo ih =>
    obtain ⟨-, hempty, -, -⟩ := hgo
    have hstep := (run_advances hpos hplaced hrun).behind out.size
    have hsize : out'.size = out.size + n := size_handed out written room
    have howed : owed.size = written.size - n := rfl
    rw [Slice.isEmpty_iff] at hempty
    obtain ⟨hlater, hle⟩ := ih hstep.within hstep.placed h
    have hall : out.size + written.size = out'.size := by omega
    rw [hall] at hstep
    exact ⟨hstep.trans hlater, by omega⟩
  | case3 fuel core pos room out core' pos' written halt hrun n out' owed hstop =>
    subst h
    have hstep := (run_advances hpos hplaced hrun).behind out.size
    have hsize : out'.size = out.size + n := size_handed out written room
    have howed : owed.size = written.size - n := rfl
    have hall : out.size + written.size = out'.size + owed.size := by omega
    rw [hall] at hstep
    refine ⟨hstep, ?_⟩
    show out'.size ≤ out.size + room
    omega

/-- The held bytes hold the bit where reading goes on. -/
structure Standing (s : Decoder) : Prop where
  bit : s.held.bit ≤ 8 * s.held.bytes.size
  placed : s.core.phase.Placed s.held.bit

def due (s : Decoder) : Nat := s.owed.size + s.core.phase.due

/-- How many of the bits of `read` bytes are used up. -/
def used (s : Decoder) (read : Nat) : Nat := 8 * (read - s.held.bytes.size) + s.held.bit

/-- A step that stays within what it is offered, and is paid for by the bits it uses up. -/
structure Serves (s : Decoder) (offered : Slice) (room : Nat) (step : Step) (s' : Decoder) :
    Prop where
  standing : s'.Standing
  within : step.Within offered.size room
  held (read : Nat) : s.held.bytes.size ≤ read → s'.held.bytes.size ≤ read + step.consumed
  paid (read : Nat) : s.held.bytes.size ≤ read → step.output.size + s'.due + 258 * s.used read ≤
    s.due + 258 * s'.used (read + step.consumed)

theorem Serves.of_owed (hs : s.Standing) (offered : Slice) (room : Nat) (done : Bool) :
    s.Serves offered room { consumed := 0, output := s.owed.take room, done }
      { s with owed := s.owed.drop (s.owed.take room).size } := by
  refine ⟨⟨hs.bit, hs.placed⟩, ⟨Nat.zero_le _, Slice.size_take_le s.owed room⟩, ?_, ?_⟩
  · intro read hread
    exact hread
  · intro read _
    have hle : (s.owed.take room).size ≤ s.owed.size := by
      rw [Slice.size_take]
      omega
    have hdue : s.due = s.owed.size + s.core.phase.due := rfl
    show (s.owed.take room).size + ((s.owed.drop (s.owed.take room).size).size + s.core.phase.due) +
      258 * s.used read ≤ s.due + 258 * s.used read
    rw [Slice.size_drop]
    omega

/-- A byte boundary stays one where the bytes in front of it are given up. -/
theorem placed_mod {phase : Phase} {pos : Nat} (h : phase.Placed pos) : phase.Placed (pos % 8) := by
  cases phase with
  | stored left =>
    have hpos : pos % 8 = 0 := h
    show pos % 8 % 8 = 0
    omega
  | frame | block | tokens _ | literal _ _ | copy _ _ _ | check | ended => trivial

theorem Serves.of_advances {pos : Nat} (hsize : input.size = s.held.bytes.size + offered.size)
    (howed : s.owed.size = 0)
    (h : Advances input s.core.phase s.held.bit 0 s'.core.phase pos
      (step.output.size + s'.owed.size))
    (hroom : step.output.size ≤ room)
    (hheld : s'.held = Held.keepAll input pos ∧ step.consumed = offered.size ∨
      s'.held = Held.keepPart input pos ∧ step.consumed = s.held.takenTo pos) :
    s.Serves offered room step s' := by
  obtain ⟨hwithin, hplaced, -, -, hpaid⟩ := h
  have hplaced := placed_mod hplaced
  obtain ⟨hkept, htaken⟩ | ⟨hkept, htaken⟩ := hheld
  · have hbytes := Held.size_keepAll input pos
    have hbit : (Held.keepAll input pos).bit = pos % 8 := rfl
    rw [← hkept] at hbytes hbit
    refine ⟨⟨by omega, hbit ▸ hplaced⟩, ⟨Nat.le_of_eq htaken, hroom⟩, by omega, ?_⟩
    intro read hread
    simp only [due, used]
    omega
  · have hbytes := Held.size_keepPart hwithin
    have hbit : (Held.keepPart input pos).bit = pos % 8 := rfl
    rw [← hkept] at hbytes hbit
    have htaken : step.consumed = (pos + 7) / 8 - s.held.bytes.size := htaken
    refine ⟨⟨by omega, hbit ▸ hplaced⟩, ⟨by omega, hroom⟩, by omega, ?_⟩
    intro read hread
    simp only [due, used]
    omega

theorem decode_serves (hs : s.Standing) (offered : Slice) (room : Nat) :
    (∃ s', s'.Standing ∧ decode s offered room = (.error rejection, s')) ∨
      ∃ step s', s.Serves offered room step s' ∧ decode s offered room = (.ok step, s') := by
  unfold decode
  split
  · exact .inl ⟨s, hs, rfl⟩
  · split
    · exact .inr ⟨_, _, .of_owed hs offered room _, rfl⟩
    · next hempty =>
      obtain ⟨core, held, owed, ended, failed⟩ := s
      obtain ⟨hsize, hbit⟩ := held.size_join offered
      have howed : owed.size = 0 := by simpa [Slice.isEmpty_iff] using hempty
      have hpos := Held.bit_join_le hs.bit offered
      have hplaced : core.phase.Placed (held.join offered).2 := hbit ▸ hs.placed
      simp only
      generalize hburst : bursts (held.join offered).1 (room + 1) core (held.join offered).2 room
        ByteArray.empty = b
      obtain ⟨hadvances, hroom⟩ := bursts_advances hpos hplaced hburst
      rw [hbit] at hadvances
      have hroom : b.out.size ≤ room := by simpa using hroom
      cases b.halt with
      | bad => exact .inl ⟨_, ⟨Nat.zero_le _, b.core.phase.placed_zero⟩, rfl⟩
      | short =>
        refine .inr ⟨_, _, ?_, rfl⟩
        exact .of_advances hsize howed hadvances hroom (.inl ⟨rfl, rfl⟩)
      | full =>
        refine .inr ⟨_, _, ?_, rfl⟩
        exact .of_advances hsize howed hadvances hroom (.inr ⟨rfl, rfl⟩)
      | ended =>
        refine .inr ⟨_, _, ?_, rfl⟩
        exact .of_advances hsize howed hadvances hroom (.inr ⟨rfl, rfl⟩)

theorem standing_fresh (framed : Bool) : (engine framed).fresh.Standing :=
  ⟨Nat.zero_le _, Phase.placed_zero _⟩

/-- The inflate engine is tame under any caller, also one who goes on behind a rejected stream. -/
theorem engine_tame (framed : Bool) (codec : Codec) (Onward : Prop) :
    (engine framed).Tame codec Onward := by
  refine NativeDecoder.tame_of_keeps (standing_fresh framed) (fun s offered room hs => ?_) codec
  obtain ⟨s', hstanding, hcall⟩ | ⟨step, s', hserves, hcall⟩ := decode_serves hs offered room
  · exact .inl ⟨_, s', fun _ => hstanding, hcall⟩
  · exact .inr ⟨step, s', hserves.standing, hserves.within, hcall⟩

theorem paid_of_reached {framed ended : Bool} {codec : Codec} {Fits : ByteArray → Nat → Prop}
    {read written : ByteArray}
    (h : ((engine framed).engine codec).Reached (start framed) Fits ended read written s) :
    s.Standing ∧ s.held.bytes.size ≤ read.size ∧ written.size + s.due ≤ 258 * s.used read.size := by
  induction h with
  | fresh =>
    refine ⟨standing_fresh framed, Nat.le_refl _, ?_⟩
    cases framed with
    | false => exact Nat.le_refl _
    | true => exact Nat.le_refl _
  | @step read written s s' offered room step _ _ call ih =>
    obtain ⟨hstanding, hheld, hpaid⟩ := ih
    have hrun : decode s offered room = (.ok step, s') := NativeDecoder.engine_eq_ok.mp call
    obtain ⟨s₁, -, hcall⟩ | ⟨step₁, s₁, hserves, hcall⟩ := decode_serves hstanding offered room
    · cases hcall.symm.trans hrun
    · cases hcall.symm.trans hrun
      have hsize : (read ++ offered.take step.consumed).size = read.size + step.consumed := by
        have hle := hserves.within.1
        rw [ByteArray.size_append, Slice.size_take]
        omega
      have hnext := hserves.paid read.size hheld
      rw [hsize, ByteArray.size_append]
      exact ⟨hserves.standing, hserves.held read.size hheld, by omega⟩

/-- What it writes is limited, since a bit pays for 258 bytes at most. -/
theorem engine_bounded (framed : Bool) (codec : Codec) : (engine framed).Bounded codec := by
  intro n
  refine ⟨258 * (8 * n), fun ended read written s hs hread => ?_⟩
  obtain ⟨hstands, hheld, hpaid⟩ := paid_of_reached hs
  have hbit := hstands.bit
  simp only [used] at hpaid
  omega

end Decoder

end Deflate

end StreamCodec
