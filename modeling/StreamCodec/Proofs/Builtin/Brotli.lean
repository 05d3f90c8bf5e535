import StreamCodec.Brotli.Decoder
import StreamCodec.Proofs.Builtin.Scanning
import StreamCodec.Proofs.Visiting

/-!
The Brotli decoder under any caller. All that it reads of a stream, it reads from bytes that are
there, so it takes no more than it is offered; it hands out no more than there is room for, and
refuses nothing but data.
-/

namespace StreamCodec.Brotli

open Scan

namespace Code

theorem reads_decode (c : Code) : c.decode.Reads 0 := by
  cases c with
  | lone s => exact reads_pure s
  | words h => exact (h.reads_decode Fault.code).any

theorem reads_readSimple (nameable alphabet : Nat) : (readSimple nameable alphabet).Reads 0 := by
  refine (reads_bits 2).bind fun count => (reads_times (reads_bits _) _ _).bind fun symbols => ?_
  refine (reads_guard _ _).bind fun _ => (reads_bits _).bind fun deep => ?_
  exact reads_pure _

theorem reads_lengthLength : lengthLength.Reads 0 := by
  refine (reads_bits 2).bind fun x => ?_
  split
  · exact reads_pure 0
  · exact reads_pure 4
  · exact reads_pure 3
  · refine (reads_bits 1).bind fun x => ?_
    split
    · exact reads_pure 2
    · refine (reads_bits 1).bind fun x => ?_
      split
      · exact reads_pure 1
      · exact reads_pure 5

theorem reads_readLengthLengths (left i : Nat) (space : Int) (acc : Array Nat) :
    (readLengthLengths left i space acc).Reads 0 := by
  induction left generalizing i space acc with
  | zero => exact reads_pure _
  | succ left ih =>
    unfold readLengthLengths
    split
    · exact reads_pure _
    · exact reads_lengthLength.bind fun n => ih _ _ _

theorem reads_readFrom (code : Code) (alphabet left : Nat) (l : Lengths) :
    (Lengths.readFrom code alphabet left l).Reads 0 := by
  induction left generalizing l with
  | zero => exact reads_pure l
  | succ left ih =>
    unfold Lengths.readFrom
    split
    · exact reads_pure l
    · refine code.reads_decode.bind fun s => ?_
      split
      · exact ih _
      · split
        · exact (reads_bits 2).bind fun _ => ih _
        · exact (reads_bits 3).bind fun _ => ih _

theorem reads_readComplex (alphabet skipped : Nat) : (readComplex alphabet skipped).Reads 0 := by
  refine (reads_readLengthLengths _ _ _ _).bind fun lengths => (reads_guard _ _).bind fun _ => ?_
  refine (reads_readFrom _ _ _ _).bind fun l => (reads_guard _ _).bind fun _ => ?_
  exact reads_pure _

theorem reads_readWithin (nameable alphabet : Nat) : (readWithin nameable alphabet).Reads 0 := by
  refine (reads_bits 2).bind fun kind => ?_
  split
  · exact reads_readSimple _ _
  · exact reads_readComplex _ _

theorem reads_read (alphabet : Nat) : (read alphabet).Reads 0 := reads_readWithin _ _

end Code

theorem reads_ranged (codes : Array (Nat × Nat)) (symbol : Nat) :
    (ranged codes symbol).Reads 0 := by
  unfold ranged
  split
  · exact (reads_bits _).bind fun _ => reads_pure _
  · exact reads_fail _

theorem reads_byteNumber : byteNumber.Reads 0 := by
  refine (reads_bits 1).bind fun x => ?_
  split
  · exact reads_pure 0
  · exact (reads_bits 3).bind fun n => (reads_bits n).bind fun _ => reads_pure _

namespace Blocks

theorem reads_read : read.Reads 0 := by
  refine reads_byteNumber.bind fun n => ?_
  simp only
  split
  · exact reads_pure _
  · refine (Code.reads_read _).bind fun typeCode => (Code.reads_read _).bind fun lengthCode => ?_
    refine lengthCode.reads_decode.bind fun s => (reads_ranged _ _).bind fun left => ?_
    exact reads_pure _

theorem reads_advance (b : Blocks) : b.advance.Reads 0 := by
  unfold advance
  split
  · refine b.typeCode.reads_decode.bind fun symbol => b.lengthCode.reads_decode.bind fun s => ?_
    exact (reads_ranged _ _).bind fun left => reads_pure _
  · exact reads_pure _

end Blocks

namespace ContextMap

theorem reads_readFrom (code : Code) (longest size left : Nat) (acc : Array Nat) :
    (readFrom code longest size left acc).Reads 0 := by
  induction left generalizing acc with
  | zero => exact reads_pure acc
  | succ left ih =>
    unfold readFrom
    split
    · exact reads_pure acc
    · refine code.reads_decode.bind fun s => ?_
      split
      · exact ih _
      · split
        · exact (reads_bits _).bind fun n => (reads_guard _ _).bind fun _ => ih _
        · exact ih _

theorem reads_read (size : Nat) : (read size).Reads 0 := by
  refine reads_byteNumber.bind fun n => ?_
  simp only
  split
  · exact reads_pure _
  · refine (reads_bits 1).bind fun hasRuns => (reads_bits _).bind fun longest => ?_
    refine (Code.reads_read _).bind fun code => (reads_readFrom _ _ _ _ _).bind fun map => ?_
    refine (reads_bits 1).bind fun x => ?_
    split
    · exact reads_pure _
    · exact reads_pure _

end ContextMap

theorem Tables.reads_read (large : Bool) : (read large).Reads 0 := by
  refine Blocks.reads_read.bind fun literals => Blocks.reads_read.bind fun commands => ?_
  refine Blocks.reads_read.bind fun distances => (reads_bits 2).bind fun tailBits => ?_
  refine (reads_bits 4).bind fun direct => (reads_times (reads_bits 2) _ _).bind fun modes => ?_
  refine (ContextMap.reads_read _).bind fun literalMap => ?_
  refine (ContextMap.reads_read _).bind fun distanceMap => ?_
  refine (reads_times (Code.reads_read _) _ _).bind fun literalCodes => ?_
  refine (reads_times (Code.reads_read _) _ _).bind fun commandCodes => ?_
  refine (reads_times (Code.reads_readWithin _ _) _ _).bind fun distanceCodes => ?_
  exact reads_pure _

theorem Command.reads_ofSymbol (symbol : Nat) : (ofSymbol symbol).Reads 0 := by
  refine (reads_ranged _ _).bind fun insert => (reads_ranged _ _).bind fun copy => ?_
  exact reads_pure _

theorem reads_distanceOf (t : Tables) (ring : Ring) (symbol : Nat) :
    (distanceOf t ring symbol).Reads 0 := by
  unfold distanceOf
  split
  · exact (reads_guard _ _).bind fun _ => reads_pure _
  · split
    · exact reads_pure _
    · exact (reads_bits _).bind fun _ => reads_pure _

namespace MetaHeader

theorem reads_lengthIn (width parts least : Nat) : (lengthIn width parts least).Reads 0 :=
  (reads_bits _).bind fun _ => (reads_guard _ _).bind fun _ => reads_pure _

theorem reads_boundary : boundary.Reads 0 := reads_align.bind fun _ => reads_guard _ _

theorem reads_readMetadata (last : Bool) : (readMetadata last).Reads 0 := by
  refine (reads_bits 1).bind fun _ => (reads_guard _ _).bind fun _ => ?_
  refine (reads_bits 2).bind fun parts => ?_
  simp only
  split
  · exact reads_boundary.bind fun _ => reads_pure _
  · refine (reads_lengthIn _ _ _).bind fun n => reads_boundary.bind fun _ => reads_pure _

theorem reads_read : read.Reads 0 := by
  refine (reads_bits 1).bind fun x => (reads_bits _).bind fun isEmpty => ?_
  split
  · exact reads_pure _
  · refine (reads_bits 2).bind fun parts => ?_
    simp only
    split
    · exact reads_readMetadata _
    · refine (reads_lengthIn _ _ _).bind fun length => (reads_bits _).bind fun isPlain => ?_
      split
      · exact reads_boundary.bind fun _ => reads_pure _
      · exact reads_pure _

theorem reads_largeWindow : largeWindow.Reads 0 := by
  refine (reads_bits 1).bind fun _ => (reads_guard _ _).bind fun _ => ?_
  exact (reads_bits 6).bind fun n => (reads_guard _ _).bind fun _ => reads_pure _

theorem reads_windowBits : windowBits.Reads 0 := by
  refine (reads_bits 1).bind fun x => ?_
  split
  · exact reads_pure _
  · refine (reads_bits 3).bind fun x => ?_
    split
    · refine (reads_bits 3).bind fun x => ?_
      split
      · exact reads_pure _
      · exact reads_largeWindow.bind fun _ => reads_pure _
      · exact reads_pure _
    · exact reads_pure _

end MetaHeader

/-- Bytes that are taken as they are start at a byte boundary. -/
def Phase.Placed (pos : Nat) : Phase → Prop
  | .metadata _ | .plain _ => pos % 8 = 0
  | .start | .header | .tables _ | .command _ _ | .literals _ _ _ _ | .distance _ _ _
  | .copy _ _ _ _ | .ended => True

def MetaBody.Placed (pos : Nat) : MetaBody → Prop
  | .metadata _ | .plain _ => pos % 8 = 0
  | .nothing | .compressed _ => True

namespace MetaHeader

theorem ends_boundary : Ends (fun _ q => q % 8 = 0) boundary := by
  intro b p x q h
  obtain ⟨_, m, halign, h⟩ := bind_eq_value h
  have hm := (bits_eq_value halign).1
  have hle := Bits.le_align p
  have hmod := Bits.align_mod p
  unfold Scan.guard at h
  split at h
  · cases h
    omega
  · cases h

theorem read_placed : Ends (fun h q => h.body.Placed q) read := by
  refine .bind fun x => .bind fun isEmpty => ?_
  split
  · exact ends_pure fun _ => trivial
  · refine .bind fun parts => ?_
    simp only
    split
    · refine .bind fun _ => .bind fun _ => .bind fun parts => ?_
      simp only
      split
      · exact ends_boundary.map fun _ _ hq => hq
      · exact .bind fun _ => ends_boundary.map fun _ _ hq => hq
    · refine .bind fun length => .bind fun isPlain => ?_
      split
      · exact ends_boundary.map fun _ _ hq => hq
      · exact ends_pure fun _ => trivial

end MetaHeader

namespace Core

/-- The scanner reads what is there, and where it leads to, reading can go on. -/
structure Leads (x : Scan Fault Core) : Prop where
  reads : x.Reads 0
  placed : Ends (fun c q => c.phase.Placed q) x

theorem leads_afterBlock (c : Core) : Leads c.afterBlock := by
  unfold afterBlock
  split
  · exact ⟨MetaHeader.reads_boundary.bind fun _ => reads_pure _,
      .bind fun _ => ends_pure fun _ => trivial⟩
  · exact ⟨reads_pure _, ends_pure fun _ => trivial⟩

theorem leads_onward (c : Core) (t : Tables) (left : Nat) : Leads (c.onward t left) := by
  unfold onward
  split
  · exact leads_afterBlock c
  · exact ⟨reads_pure _, ends_pure fun _ => trivial⟩

theorem leads_readHeader (c : Core) : Leads c.readHeader := by
  constructor
  · refine MetaHeader.reads_read.bind fun h => ?_
    simp only
    split
    · exact (leads_afterBlock _).reads
    · exact reads_pure _
    · exact reads_pure _
    · exact reads_pure _
  · intro b p c' q h
    obtain ⟨⟨last, body⟩, m, hheader, h⟩ := bind_eq_value h
    have hplaced := MetaHeader.read_placed b p _ _ hheader
    cases body with
    | nothing => exact (leads_afterBlock _).placed b m c' q h
    | metadata n | plain n | compressed n =>
      cases h
      exact hplaced

theorem leads_readCommand (c : Core) (t : Tables) (left : Nat) : Leads (c.readCommand t left) := by
  constructor
  · refine t.commands.reads_advance.bind fun commands => (Code.reads_decode _).bind fun symbol => ?_
    refine (Command.reads_ofSymbol _).bind fun command => (reads_guard _ _).bind fun _ => ?_
    simp only
    split
    · exact reads_pure _
    · exact reads_pure _
  · refine .bind fun commands => .bind fun symbol => .bind fun command => .bind fun _ => ?_
    simp only
    split
    · exact ends_pure fun _ => trivial
    · exact ends_pure fun _ => trivial

theorem reads_readLiteral (t : Tables) (out : ByteArray) : (readLiteral t out).Reads 0 := by
  refine t.literals.reads_advance.bind fun literals => (Code.reads_decode _).bind fun x => ?_
  exact reads_pure _

theorem reads_readSymbol (t : Tables) (command : Command) : (readSymbol t command).Reads 0 := by
  unfold readSymbol
  split
  · exact reads_pure _
  · refine t.distances.reads_advance.bind fun distances => (Code.reads_decode _).bind fun _ => ?_
    exact reads_pure _

theorem reads_readDistance (c : Core) (t : Tables) (left : Nat) (command : Command)
    (out : ByteArray) : (c.readDistance t left command out).Reads 0 := by
  unfold readDistance
  split
  · exact (leads_afterBlock c).reads.bind fun _ => reads_pure _
  · refine (reads_readSymbol t command).bind fun symbol => ?_
    refine (reads_distanceOf _ _ _).bind fun d => ?_
    simp only
    split
    · exact (reads_guard _ _).bind fun _ => reads_pure _
    · split
      · exact reads_fail _
      · refine (reads_guard _ _).bind fun _ => ?_
        exact (leads_onward _ _ _).reads.bind fun _ => reads_pure _

theorem readDistance_placed (c : Core) (t : Tables) (left : Nat) (command : Command)
    (out : ByteArray) :
    Ends (fun r q => r.1.phase.Placed q) (c.readDistance t left command out) := by
  unfold readDistance
  split
  · exact (leads_afterBlock c).placed.map fun _ _ hc => hc
  · refine .bind fun symbol => .bind fun d => ?_
    simp only
    split
    · exact .bind fun _ => ends_pure fun _ => trivial
    · split
      · exact ends_fail _
      · exact .bind fun _ => (leads_onward _ _ _).placed.map fun _ _ hc => hc

variable {input : ByteArray} {limit fuel : Nat} {c c' : Core} {pos pos' : Nat}
  {out out' : ByteArray} {halt : Halt}

/-- The position is one of the input, and reading can go on from there. -/
structure Stands (input : ByteArray) (c : Core) (pos : Nat) : Prop where
  within : pos ≤ 8 * input.size
  placed : c.phase.Placed pos

theorem Leads.stands {x : Scan Fault Core} (hx : Leads x) (hpos : pos ≤ 8 * input.size)
    (h : x input pos = .value c' pos') : Stands input c' pos' :=
  ⟨(hx.reads input pos c' pos' hpos h).2, hx.placed input pos c' pos' h⟩

/-- Whole bytes are taken from a byte boundary on. -/
theorem stands_skip {n : Nat} (hpos : pos ≤ 8 * input.size) (hmod : pos % 8 = 0)
    (hn : n ≤ input.size - pos / 8) (hplaced : ∀ p, p % 8 = 0 → c.phase.Placed p) :
    Stands input c (pos + 8 * n) :=
  ⟨by omega, hplaced _ (by omega)⟩

/-- One turn of the loop: it stops or goes on, and either way it stands. -/
inductive Turns (input : ByteArray) (limit fuel : Nat) : Core × Nat × ByteArray × Halt → Prop
  | stops {c : Core} {pos : Nat} {out : ByteArray} {halt : Halt} (h : Stands input c pos) :
    Turns input limit fuel (c, pos, out, halt)
  | goes {c : Core} {pos : Nat} {out : ByteArray} (h : Stands input c pos) :
    Turns input limit fuel (items input limit fuel c pos out)

theorem items_turns (hs : Stands input c pos) :
    Turns input limit fuel (items input limit (fuel + 1) c pos out) := by
  have hpos := hs.within
  unfold items
  split
  · exact .stops hs
  simp only
  -- The phases in their order; what a scanner reads is short, wrong or there.
  split
  · split
    · exact .stops hs
    · exact .stops hs
    · next hbits => exact .goes ⟨(MetaHeader.reads_windowBits _ _ _ _ hpos hbits).2, trivial⟩
  · split
    · exact .stops hs
    · exact .stops hs
    · next hheader => exact .goes ((leads_readHeader c).stands hpos hheader)
  · next left hphase =>
    have hmod : pos % 8 = 0 := show (Phase.metadata left).Placed pos from hphase ▸ hs.placed
    split
    · split
      · exact .stops hs
      · exact .stops hs
      · next hblock => exact .goes ((leads_afterBlock c).stands (by omega) hblock)
    · exact .stops (stands_skip hpos hmod (Nat.min_le_right _ _) fun _ hmod => hmod)
  · next left hphase =>
    have hmod : pos % 8 = 0 := show (Phase.plain left).Placed pos from hphase ▸ hs.placed
    split
    · split
      · exact .stops hs
      · exact .stops hs
      · next hblock => exact .goes ((leads_afterBlock c).stands (by omega) hblock)
    · split
      · exact .stops hs
      · exact .goes (stands_skip hpos hmod (by omega) fun _ hmod => hmod)
  · split
    · exact .stops hs
    · exact .stops hs
    · next htables => exact .goes ⟨(Tables.reads_read _ _ _ _ _ hpos htables).2, trivial⟩
  · split
    · exact .stops hs
    · exact .stops hs
    · next hcommand => exact .goes ((leads_readCommand c _ _).stands hpos hcommand)
  · next t left n command hphase =>
    split
    · exact .stops hs
    · exact .stops hs
    · next t' x q hliteral =>
      refine .goes ⟨(reads_readLiteral t out input pos _ q hpos hliteral).2, ?_⟩
      show Phase.Placed q (if n = 1 then _ else _)
      split
      · trivial
      · trivial
  · next t left command hphase =>
    split
    · exact .stops hs
    · exact .stops hs
    · next c₁ out₁ q hdistance =>
      exact .goes ⟨(reads_readDistance c t left command out input pos _ q hpos hdistance).2,
        readDistance_placed c t left command out input pos _ q hdistance⟩
  · split
    · exact .goes ⟨hpos, trivial⟩
    · split
      · exact .stops hs
      · exact .stops hs
      · next honward => exact .goes ((leads_onward c _ _).stands hpos honward)
  · exact .stops hs

theorem items_stands (hs : Stands input c pos)
    (h : items input limit fuel c pos out = (c', pos', out', halt)) : Stands input c' pos' := by
  induction fuel generalizing c pos out with
  | zero =>
    cases h
    exact hs
  | succ fuel ih =>
    have hturn : Turns input limit fuel (items input limit (fuel + 1) c pos out) := items_turns hs
    generalize hr : items input limit (fuel + 1) c pos out = r at h hturn
    cases hturn with
    | stops hnext =>
      cases h
      exact hnext
    | goes hnext => exact ih hnext h

end Core

namespace Decoder

open Brotli.Core

theorem runs_stands {input : ByteArray} {c : Core} {pos : Nat} (hs : Stands input c pos)
    (fuel : Nat) (out : ByteArray) (handed room : Nat) (written : ByteArray) :
    let r := runs input fuel c pos out handed room written
    Stands input r.1 r.2.1 ∧ r.2.2.2.2.1.size ≤ written.size + room := by
  fun_induction runs input fuel c pos out handed room written with
  | case1 => exact ⟨hs, Nat.le_add_right _ _⟩
  | case2 fuel c pos out handed room written window limit c' pos' out' halt hitems n written'
      handed' hgo ih =>
    have hle : written'.size ≤ written.size + n :=
      Bytes.size_append_extract_le written out' handed n
    obtain ⟨hlast, hsize⟩ := ih (items_stands hs hitems)
    exact ⟨hlast, by omega⟩
  | case3 fuel c pos out handed room written window limit c' pos' out' halt hitems n written'
      handed' hstop =>
    have hle : written'.size ≤ written.size + n :=
      Bytes.size_append_extract_le written out' handed n
    refine ⟨items_stands hs hitems, ?_⟩
    show written'.size ≤ written.size + room
    omega

/-- A byte boundary stays one where the bytes in front of it are given up. -/
theorem placed_mod {phase : Phase} {pos : Nat} (h : phase.Placed pos) : phase.Placed (pos % 8) := by
  cases phase with
  | metadata left | plain left =>
    have hpos : pos % 8 = 0 := h
    show pos % 8 % 8 = 0
    omega
  | start | header | tables | command | literals | distance | copy | ended => trivial

/-- The held bytes hold the bit where reading goes on. -/
def Standing (s : Decoder) : Prop := Stands s.held.bytes s.core s.held.bit

theorem decode_serves {s : Decoder} (hs : s.Standing) (offered : Slice) (room : Nat) :
    (∃ m s', s'.Standing ∧ decode s offered room = (.error (.data m), s')) ∨
      ∃ step s', s'.Standing ∧ step.Within offered.size room ∧
        decode s offered room = (.ok step, s') := by
  unfold decode
  split
  · exact .inl ⟨_, s, hs, rfl⟩
  · obtain ⟨core, held, out, handed, failed⟩ := s
    obtain ⟨-, hbit⟩ := held.size_join offered
    have hjoined : Stands (held.join offered).1 core (held.join offered).2 :=
      ⟨Held.bit_join_le hs.within offered, hbit ▸ hs.placed⟩
    have hruns := runs_stands hjoined (room + 1) out handed room ByteArray.empty
    simp only at hruns ⊢
    generalize runs (held.join offered).1 (room + 1) core (held.join offered).2 out handed room
      ByteArray.empty = r at hruns ⊢
    obtain ⟨core', pos, out', handed', written, halt⟩ := r
    obtain ⟨⟨hpos, hplaced⟩, hwritten⟩ := hruns
    rw [ByteArray.size_empty, Nat.zero_add] at hwritten
    cases halt with
    | bad =>
      refine .inl ⟨_, _, ⟨Nat.zero_le _, ?_⟩, rfl⟩
      trivial
    | short =>
      refine .inr ⟨_, _, ⟨Held.bit_keepAll_le hpos, placed_mod hplaced⟩, ⟨?_, hwritten⟩, rfl⟩
      exact Nat.le_refl _
    | full =>
      refine .inr ⟨_, _, ⟨Held.bit_keepPart_le hpos, placed_mod hplaced⟩, ⟨?_, hwritten⟩, rfl⟩
      exact Held.takenTo_le hpos
    | ended =>
      refine .inr ⟨_, _, ⟨Held.bit_keepPart_le hpos, placed_mod hplaced⟩, ⟨?_, hwritten⟩, rfl⟩
      exact Held.takenTo_le hpos

theorem standing_fresh : engine.fresh.Standing := by
  refine ⟨Nat.zero_le _, ?_⟩
  trivial

/-- The Brotli engine is tame under any caller, also one who goes on behind a rejected stream. -/
theorem engine_tame (codec : Codec) (Onward : Prop) : engine.Tame codec Onward := by
  refine NativeDecoder.tame_of_keeps standing_fresh (fun s offered room hs => ?_) codec
  obtain ⟨m, s', hstanding, hcall⟩ | hserved := decode_serves hs offered room
  · exact .inl ⟨m, s', fun _ => hstanding, hcall⟩
  · exact .inr hserved

end Decoder

end StreamCodec.Brotli
