import StreamCodec.Proofs.Grammar
import StreamCodec.Stream.Engine

/-!
What a decoder's engine has to keep to, step by step, for a grammar to say what comes of a
whole stream. A step writes only what the bytes read so far decode to; it is done exactly
behind a stream, and refuses only what no stream starts with. A step that has room and moves
nothing means that all is read and written, and that more input is needed.
-/

namespace StreamCodec

/-- A step that keeps to a grammar, after `read` has been read and `written` written. -/
structure Step.Sound (G : Grammar) (read written : ByteArray) (input : Slice) (room : Nat)
    (step : Step) (Excused : Prop) : Prop where
  within : step.Within input.size room
  output : ∃ owed, G.plain (read ++ input.take step.consumed) = written ++ step.output ++ owed
  ended : step.done = true →
    G.verdict (read ++ input.take step.consumed) = .complete (read.size + step.consumed) ∧
      G.plain (read ++ input.take step.consumed) = written ++ step.output
  idle : step.done = false → 0 < room → step.isIdle = true →
    (input.size = 0 ∧ G.verdict read = .unfinished ∧ G.plain read = written) ∨ Excused

namespace Step

variable {G : Grammar} {read written : ByteArray} {input : Slice} {room : Nat} {Excused : Prop}

/-- Standing still is sound when all is said and done for the input so far. -/
theorem sound_idle (hempty : input.size = 0) (hverdict : G.verdict read = .unfinished)
    (hplain : G.plain read = written) : idle.Sound G read written input room Excused where
  within := ⟨Nat.zero_le _, Nat.zero_le _⟩
  output := ⟨ByteArray.empty, by simp only [idle, Slice.take_zero, ByteArray.append_empty, hplain]⟩
  ended := Bool.noConfusion
  idle := fun _ _ _ => .inl ⟨hempty, hverdict, hplain⟩

/-- Reading on without writing is sound when what was written stays a front of what is read. -/
theorem sound_progress {k : Nat} (hpos : 0 < k) (hle : k ≤ input.size)
    (hplain : ∃ owed, G.plain (read ++ input.take k) = written ++ owed) :
    (progress k ByteArray.empty).Sound G read written input room Excused where
  within := ⟨hle, Nat.zero_le _⟩
  output := by
    obtain ⟨owed, howed⟩ := hplain
    exact ⟨owed, by simp only [progress, ByteArray.append_empty, howed]⟩
  ended := Bool.noConfusion
  idle := by
    intro _ _ hidle
    rw [isIdle, Bool.and_eq_true] at hidle
    have hzero : k = 0 := of_decide_eq_true hidle.1
    omega

end Step

namespace DecodeEngine

variable {σ : Type}

/-- The states that good steps lead to, with what they have read and written. `Fits` says what the
engine is offered, all bytes so far and a window, and nothing follows a step that is done. -/
inductive Reached (E : DecodeEngine σ) (s₀ : σ)
    (Fits : (offered : ByteArray) → (room : Nat) → Prop) :
    (ended : Bool) → (read written : ByteArray) → σ → Prop
  | fresh : Reached E s₀ Fits false ByteArray.empty ByteArray.empty s₀
  | step {read written : ByteArray} {s s' : σ} {input : Slice} {room : Nat} {step : Step}
      (before : Reached E s₀ Fits false read written s)
      (hfits : Fits (read ++ input.toBytes) room)
      (call : E.decode s input room = (.ok step, s')) :
      Reached E s₀ Fits step.done (read ++ input.take step.consumed) (written ++ step.output) s'

/-- What a step may come to. One step may stand still without a reason: that which enters `Late`. -/
def Accords (codec : Codec) (G : Grammar) (Late : σ → Prop) (read written : ByteArray) (s : σ)
    (input : Slice) (room : Nat) : Outcome Step × σ → Prop
  | (.ok step, s') => step.Sound G read written input room (¬ Late s ∧ Late s') ∧ (Late s → Late s')
  | (.error e, _) => ∃ m, e = .decode codec m ∧ G.verdict (read ++ input.toBytes) = .corrupt m
  | (.trap _, _) => False

/-- The engine follows a grammar, as long as it is offered what fits. -/
def Follows (E : DecodeEngine σ) (s₀ : σ) (Fits : ByteArray → Nat → Prop) (G : Grammar)
    (Late : σ → Prop) : Prop :=
  ∀ read written s input room, E.Reached s₀ Fits false read written s →
    Fits (read ++ input.toBytes) room →
    Accords E.codec G Late read written s input room (E.decode s input room)

/-- A step that ends the stream moves a byte where there is room. -/
def EndsMoving (E : DecodeEngine σ) (s₀ : σ) (Fits : ByteArray → Nat → Prop) : Prop :=
  ∀ read written s input room step s', E.Reached s₀ Fits false read written s →
    Fits (read ++ input.toBytes) room →
    E.decode s input room = (.ok step, s') → step.done = true → 0 < room → step.isIdle = false

variable {E : DecodeEngine σ} {s₀ : σ} {Fits : ByteArray → Nat → Prop} {G : Grammar}
  {Late : σ → Prop}

theorem Follows.sound (h : E.Follows s₀ Fits G Late) {read written : ByteArray} {s s' : σ}
    {input : Slice} {room : Nat} {step : Step} (hs : E.Reached s₀ Fits false read written s)
    (hfits : Fits (read ++ input.toBytes) room) (hcall : E.decode s input room = (.ok step, s')) :
    step.Sound G read written input room (¬ Late s ∧ Late s') := by
  have hstep := h read written s input room hs hfits
  rw [hcall] at hstep
  exact hstep.1

theorem Follows.late (h : E.Follows s₀ Fits G Late) {read written : ByteArray} {s s' : σ}
    {input : Slice} {room : Nat} {step : Step} (hs : E.Reached s₀ Fits false read written s)
    (hfits : Fits (read ++ input.toBytes) room) (hcall : E.decode s input room = (.ok step, s'))
    (hlate : Late s) :
    Late s' := by
  have hstep := h read written s input room hs hfits
  rw [hcall] at hstep
  exact hstep.2 hlate

theorem Follows.refuses (h : E.Follows s₀ Fits G Late) {read written : ByteArray} {s s' : σ}
    {input : Slice} {room : Nat} {e : Error} (hs : E.Reached s₀ Fits false read written s)
    (hfits : Fits (read ++ input.toBytes) room) (hcall : E.decode s input room = (.error e, s')) :
    ∃ m, e = .decode E.codec m ∧ G.verdict (read ++ input.toBytes) = .corrupt m := by
  have hstep := h read written s input room hs hfits
  rw [hcall] at hstep
  exact hstep

theorem Follows.not_trap (h : E.Follows s₀ Fits G Late) {read written : ByteArray} {s s' : σ}
    {input : Slice} {room : Nat} {t : Trap} (hs : E.Reached s₀ Fits false read written s)
    (hfits : Fits (read ++ input.toBytes) room) : E.decode s input room ≠ (.trap t, s') := by
  intro hcall
  have hstep := h read written s input room hs hfits
  rw [hcall] at hstep
  exact hstep

/-- What has been written is the front of what the bytes read so far decode to. -/
theorem Follows.written (h : E.Follows s₀ Fits G Late) {ended : Bool} {read written : ByteArray}
    {s : σ} (hs : E.Reached s₀ Fits ended read written s) :
    ∃ owed, G.plain read = written ++ owed := by
  cases hs with
  | fresh => exact ⟨G.plain ByteArray.empty, by rw [ByteArray.empty_append]⟩
  | step before hfits call => exact (h.sound before hfits call).output

/-- Behind the end, what was read is one stream, and it is written out. -/
theorem Follows.complete (h : E.Follows s₀ Fits G Late) {read written : ByteArray} {s : σ}
    (hs : E.Reached s₀ Fits true read written s) :
    G.verdict read = .complete read.size ∧ G.plain read = written := by
  generalize hended : true = ended at hs
  cases hs with
  | fresh => cases hended
  | @step read written s s' input room step before hfits call =>
    have hsound := h.sound before hfits call
    have hsize : (input.take step.consumed).size = step.consumed := by
      rw [Slice.size_take, Nat.min_eq_left hsound.within.1]
    rw [ByteArray.size_append, hsize]
    exact hsound.ended hended.symm

theorem Reached.mono {Fits' : ByteArray → Nat → Prop}
    (hfits : ∀ b room, Fits b room → Fits' b room) {ended : Bool} {read written : ByteArray} {s : σ}
    (hs : E.Reached s₀ Fits ended read written s) : E.Reached s₀ Fits' ended read written s := by
  induction hs with
  | fresh => exact .fresh
  | step _ hstep call ih => exact .step ih (hfits _ _ hstep) call

/-- Who keeps to a grammar on more offers does so on fewer. -/
theorem Follows.mono {Fits' : ByteArray → Nat → Prop} (h : E.Follows s₀ Fits G Late)
    (hfits : ∀ b room, Fits' b room → Fits b room) : E.Follows s₀ Fits' G Late :=
  fun read written s input room hs hstep =>
    h read written s input room (hs.mono hfits) (hfits _ _ hstep)

theorem EndsMoving.mono {Fits' : ByteArray → Nat → Prop} (h : E.EndsMoving s₀ Fits)
    (hfits : ∀ b room, Fits' b room → Fits b room) : E.EndsMoving s₀ Fits' :=
  fun read written s input room step s' hs hstep =>
    h read written s input room step s' (hs.mono hfits) (hfits _ _ hstep)

end DecodeEngine

end StreamCodec
