import StreamCodec.Proofs.Decoders

/-!
A decoder for any grammar. It keeps all that it has read and all that it has written, so what
comes next is read off the grammar, and it follows the grammar.
-/

namespace StreamCodec

namespace Grammar

variable {G : Grammar}

def handOut (G : Grammar) (s : ByteArray × ByteArray) (read : ByteArray) (last : Bool)
    (room : Nat) :
    Answer × (ByteArray × ByteArray) :=
  let owed : Slice := { bytes := G.plain read, start := s.2.size }
  let output := owed.take room
  (.ok { consumed := read.size - s.1.size, output,
         done := last && (owed.drop output.size).isEmpty },
    (read, s.2 ++ output))

/-- A decoder that remembers everything. -/
abbrev decoder (G : Grammar) : NativeDecoder where
  State := ByteArray × ByteArray
  fresh := (ByteArray.empty, ByteArray.empty)
  run s input room :=
    match G.verdict (s.1 ++ input.toBytes) with
    | .corrupt m => (.error (.data m), s)
    | .complete n => G.handOut s ((s.1 ++ input.toBytes).extract 0 n) true room
    | .unfinished => G.handOut s (s.1 ++ input.toBytes) false room

/-- Where it stands before the end: what was read is an open stream, or a whole one that is not
written out. -/
structure Buffers (G : Grammar) (s : ByteArray × ByteArray) (read written : ByteArray) : Prop where
  state : s = (read, written)
  plain : ∃ owed, G.plain read = written ++ owed
  stands : G.verdict read = .unfinished ∨
    (G.verdict read = .complete read.size ∧ written.size < (G.plain read).size)

variable {codec : Codec} {s : ByteArray × ByteArray} {read written : ByteArray} {input : Slice}
  {room n : Nat}

/-- What is owed when more has been read. -/
theorem Buffers.owed (hs : G.Buffers s read written) (more : ByteArray) :
    G.plain (read ++ more) = written ++ Slice.toBytes
      { bytes := G.plain (read ++ more), start := written.size } := by
  obtain ⟨owed, howed⟩ := hs.plain
  obtain ⟨tail, htail⟩ := G.plain_append read more
  rw [htail, howed, ByteArray.append_assoc]
  congr 1
  exact (ByteArray.extract_append_eq_right rfl ByteArray.size_append).symm

structure Reads (G : Grammar) (read : ByteArray) (input : Slice) (n : Nat)
    (last : Bool) : Prop where
  le : n ≤ input.size
  ends : last = true → G.verdict (read ++ input.take n) = .complete (read.size + n)
  stays : last = false → n = input.size ∧ G.verdict (read ++ input.take n) = .unfinished

theorem Reads.size_take {last : Bool} (h : G.Reads read input n last) :
    (input.take n).size = n := by
  rw [Slice.size_take, Nat.min_eq_left h.le]

section HandOut

variable {last : Bool} {owed : Slice}

def handingOut (owed : Slice) (n : Nat) (last : Bool) (room : Nat) : Step :=
  { consumed := n, output := owed.take room,
    done := last && (owed.drop (owed.take room).size).isEmpty }

theorem Buffers.handOut_eq (hs : G.Buffers s read written) (h : G.Reads read input n last)
    (room : Nat) :
    ∃ owed : Slice, G.plain (read ++ input.take n) = written ++ owed.toBytes ∧
      G.handOut s (read ++ input.take n) last room =
        (.ok (handingOut owed n last room), (read ++ input.take n, written ++ owed.take room)) := by
  have hconsumed : (read ++ input.take n).size - read.size = n := by
    rw [ByteArray.size_append, h.size_take, Nat.add_sub_cancel_left]
  refine ⟨_, hs.owed (input.take n), ?_⟩
  rw [hs.state, Grammar.handOut, hconsumed, handingOut]

/-- What is behind the bytes handed out is still owed. -/
theorem plain_eq_append (howed : G.plain read = written ++ owed.toBytes) (room : Nat) :
    G.plain read = written ++ owed.take room ++ (owed.drop (owed.take room).size).toBytes := by
  rw [howed, ByteArray.append_assoc, Slice.take_append_rest]

theorem plain_eq_of_isEmpty (howed : G.plain read = written ++ owed.toBytes)
    (h : owed.isEmpty = true) :
    G.plain read = written := by
  rw [howed, Slice.toBytes_of_size_eq_zero (Slice.isEmpty_iff.mp h), ByteArray.append_empty]

theorem Reads.sound (h : G.Reads read input n last)
    (howed : G.plain (read ++ input.take n) = written ++ owed.toBytes) :
    (handingOut owed n last room).Sound G read written input room False where
  within := ⟨h.le, Slice.size_take_le _ _⟩
  output := ⟨_, plain_eq_append howed room⟩
  ended := by
    intro hdone
    obtain ⟨hlast, hleft⟩ := (Bool.and_eq_true _ _).mp hdone
    have hplain := plain_eq_append howed room
    rw [Slice.toBytes_of_size_eq_zero (Slice.isEmpty_iff.mp hleft),
      ByteArray.append_empty] at hplain
    exact ⟨h.ends hlast, hplain⟩
  idle := by
    intro hdone hroom hidle
    obtain ⟨rfl, hout⟩ : n = 0 ∧ (owed.take room).size = 0 := Step.isIdle_iff.mp hidle
    have hempty := Slice.isEmpty_of_take hroom hout
    rw [handingOut, hout, Slice.drop_zero, hempty, Bool.and_true] at hdone
    obtain ⟨hall, hverdict⟩ := h.stays hdone
    have hplain := plain_eq_of_isEmpty howed hempty
    rw [Slice.take_zero, ByteArray.append_empty] at hverdict hplain
    exact .inl ⟨hall.symm, hverdict, hplain⟩

/-- The end of the stream comes with a byte read or a byte written. -/
theorem Buffers.moves (hs : G.Buffers s read written) (h : G.Reads read input n last)
    (howed : G.plain (read ++ input.take n) = written ++ owed.toBytes)
    (hdone : (handingOut owed n last room).done = true) (hroom : 0 < room) :
    (handingOut owed n last room).isIdle = false := by
  rw [← Bool.not_eq_true, Step.isIdle_iff]
  intro hidle
  obtain ⟨rfl, hout⟩ : n = 0 ∧ (owed.take room).size = 0 := hidle
  have hend := h.ends ((Bool.and_eq_true _ _).mp hdone).1
  have hplain := plain_eq_of_isEmpty howed (Slice.isEmpty_of_take hroom hout)
  rw [Slice.take_zero, ByteArray.append_empty] at hend hplain
  obtain hunfinished | ⟨-, hlt⟩ := hs.stands
  · rw [hend] at hunfinished
    cases hunfinished
  · rw [hplain] at hlt
    exact Nat.lt_irrefl _ hlt

theorem Reads.buffers (h : G.Reads read input n last)
    (howed : G.plain (read ++ input.take n) = written ++ owed.toBytes)
    (hdone : (handingOut owed n last room).done = false) :
    G.Buffers (read ++ input.take n, written ++ owed.take room) (read ++ input.take n)
      (written ++ owed.take room) := by
  have hplain := plain_eq_append howed room
  refine ⟨rfl, ⟨_, hplain⟩, ?_⟩
  cases last with
  | false => exact .inl (h.stays rfl).2
  | true =>
    refine .inr ⟨?_, ?_⟩
    · rw [ByteArray.size_append, h.size_take]
      exact h.ends rfl
    · have hleft : 0 < (owed.drop (owed.take room).size).size := Slice.isEmpty_eq_false_iff.mp hdone
      rw [hplain, ByteArray.size_append (a := written ++ owed.take room), Slice.size_toBytes]
      omega

/-- A step that hands out what fits keeps to the grammar, and so does the decoder behind it. -/
theorem Buffers.handOut (hs : G.Buffers s read written) (h : G.Reads read input n last)
    (room : Nat) :
    ∃ step s', G.handOut s (read ++ input.take n) last room = (.ok step, s') ∧
      step.Sound G read written input room False ∧
      (step.done = true → 0 < room → step.isIdle = false) ∧
      (step.done = false →
        G.Buffers s' (read ++ input.take step.consumed) (written ++ step.output)) := by
  obtain ⟨owed, howed, hstep⟩ := hs.handOut_eq h room
  exact ⟨_, _, hstep, h.sound howed, hs.moves h howed, h.buffers howed⟩

end HandOut

theorem decoder_decode (G : Grammar) (codec : Codec) (s : ByteArray × ByteArray) (input : Slice)
    (room : Nat) :
    (G.decoder.engine codec).decode s input room =
      match G.verdict (s.1 ++ input.toBytes) with
      | .corrupt m => (.error (.decode codec m), s)
      | .complete n =>
        Answer.outcome (Refusal.whileDecoding codec)
          (G.handOut s ((s.1 ++ input.toBytes).extract 0 n) true room)
      | .unfinished =>
        Answer.outcome (Refusal.whileDecoding codec)
          (G.handOut s (s.1 ++ input.toBytes) false room) := by
  simp only [NativeDecoder.engine, decoder]
  cases G.verdict (s.1 ++ input.toBytes) with
  | complete n => rfl
  | corrupt m => cases codec <;> rfl
  | unfinished => rfl

/-- What has been read of a stream does not go beyond its end. -/
theorem Buffers.size_le (hs : G.Buffers s read written) {b : ByteArray}
    (h : G.verdict (read ++ b) = .complete n) :
    read.size ≤ n := by
  by_contra hlt
  have hfront := G.complete_of_append h (Nat.le_of_not_le hlt)
  obtain hunfinished | ⟨hcomplete, -⟩ := hs.stands
  · rw [hfront] at hunfinished
    cases hunfinished
  · rw [hfront] at hcomplete
    exact hlt (Nat.le_of_eq (Verdict.complete.inj hcomplete).symm)

/-- A call refuses what no stream starts with, and takes a sound step otherwise. -/
theorem Buffers.decode (hs : G.Buffers s read written) (codec : Codec) (input : Slice)
    (room : Nat) :
    (∃ m, (G.decoder.engine codec).decode s input room = (.error (.decode codec m), s) ∧
        G.verdict (read ++ input.toBytes) = .corrupt m) ∨
      ∃ step s', (G.decoder.engine codec).decode s input room = (.ok step, s') ∧
        step.Sound G read written input room False ∧
        (step.done = true → 0 < room → step.isIdle = false) ∧
        (step.done = false →
          G.Buffers s' (read ++ input.take step.consumed) (written ++ step.output)) := by
  have hfst : s.1 = read := by rw [hs.state]
  rw [decoder_decode, hfst]
  cases hverdict : G.verdict (read ++ input.toBytes) with
  | corrupt m => exact .inl ⟨m, rfl, rfl⟩
  | complete n =>
    have hle := hs.size_le hverdict
    have hn := G.length_le _ _ hverdict
    rw [ByteArray.size_append, Slice.size_toBytes] at hn
    have hfront := G.verdict_front _ n hverdict
    have hread : (read ++ input.toBytes).extract 0 n = read ++ input.take (n - read.size) := by
      rw [Bytes.extract_append_of_le _ _ hle, Slice.take_eq_extract]
    have hend : n = read.size + (n - read.size) := by omega
    rw [hread] at hfront
    have hreads : G.Reads read input (n - read.size) true :=
      ⟨by omega, fun _ => hfront.trans (congrArg Verdict.complete hend), Bool.noConfusion⟩
    obtain ⟨step, s', hstep, hsound⟩ := hs.handOut hreads room
    refine .inr ⟨step, s', ?_, hsound⟩
    show Answer.outcome _ (G.handOut s ((read ++ input.toBytes).extract 0 n) true room) = _
    rw [hread, hstep]
    rfl
  | unfinished =>
    have hall := Slice.take_of_size_le (Nat.le_refl input.size)
    rw [← hall] at hverdict
    have hreads : G.Reads read input input.size false :=
      ⟨Nat.le_refl _, Bool.noConfusion, fun _ => ⟨rfl, hverdict⟩⟩
    obtain ⟨step, s', hstep, hsound⟩ := hs.handOut hreads room
    refine .inr ⟨step, s', ?_, hsound⟩
    show Answer.outcome _ (G.handOut s (read ++ input.toBytes) false room) = _
    rw [← hall, hstep]
    rfl

open DecodeEngine

theorem buffers_of_reached {Fits : ByteArray → Nat → Prop}
    (h : (G.decoder.engine codec).Reached G.decoder.fresh Fits false read written s) :
    G.Buffers s read written := by
  generalize hended : false = ended at h
  induction h with
  | fresh =>
    exact ⟨rfl, ⟨ByteArray.empty, G.plain_empty.trans ByteArray.append_empty.symm⟩,
      .inl G.verdict_empty⟩
  | @step read written s s' input room step before hfits call ih =>
    obtain ⟨m, hcall, -⟩ | ⟨step', s'', hcall, -, -, hnext⟩ := (ih rfl).decode codec input room
    · cases call.symm.trans hcall
    · cases call.symm.trans hcall
      exact hnext hended.symm

theorem decoder_follows (G : Grammar) (codec : Codec) : G.decoder.Follows codec G := by
  intro read written s input room hreach hfits
  obtain ⟨m, hcall, hverdict⟩ | ⟨step, s', hcall, hsound, -, -⟩ :=
    (buffers_of_reached hreach).decode codec input room
  · rw [hcall]
    exact ⟨m, rfl, hverdict⟩
  · rw [hcall]
    refine ⟨⟨hsound.within, hsound.output, hsound.ended, ?_⟩, id⟩
    intro hdone hroom hidle
    exact .inl ((hsound.idle hdone hroom hidle).resolve_right id)

theorem decoder_endsMoving (G : Grammar) (codec : Codec) : G.decoder.EndsMoving codec := by
  intro read written s input room step s' hreach hfits hcall hdone hroom
  obtain ⟨m, hcall', -⟩ | ⟨step', s'', hcall', -, hmoves, -⟩ :=
    (buffers_of_reached hreach).decode codec input room
  · cases hcall.symm.trans hcall'
  · cases hcall.symm.trans hcall'
    exact hmoves hdone hroom

end Grammar

end StreamCodec
