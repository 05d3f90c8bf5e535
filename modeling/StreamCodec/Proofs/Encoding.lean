import StreamCodec.Proofs.Ledger
import StreamCodec.Proofs.Writing
import StreamCodec.Stream.Encoder
import StreamCodec.Stream.Schedule

/-!
Compression sessions. A session keeps track of what its engine has taken and written, whatever
the engine is. Over an engine that writes streams of a grammar every call succeeds, a short
call has taken all of its input, and a short call that finishes has written the end.
-/

namespace StreamCodec.Encoder

open EncodeEngine

variable {σ : Type} {E : EncodeEngine σ} {s₀ : σ} {Q : Request → ByteArray → Prop} {G : Grammar}

/-- The steps of a call, without the facts by which they end. -/
theorem run_eq (E : EncodeEngine σ) (engine : σ) (l : Ledger) (room : Nat) (out : ByteArray) :
    run E engine l room out =
      match E.encode engine l.pending.remaining room with
      | (.error e, engine) => (.error e, { engine, ledger := l })
      | (.trap t, engine) => (.trap t, { engine, ledger := l })
      | (.ok step, engine) =>
        match l.book step room with
        | .error e => (.error e, { engine, ledger := l })
        | .trap t => (.trap t, { engine, ledger := l })
        | .ok l' =>
          if room = step.output.size then (.ok (out ++ step.output), { engine, ledger := l' })
          else if step.isIdle then (.ok (out ++ step.output), { engine, ledger := l' })
          else run E engine l' (room - step.output.size) (out ++ step.output) := by
  rw [run]
  rcases E.encode engine l.pending.remaining room with ⟨answer, engine'⟩
  cases answer with
  | ok step =>
    simp only
    split
    · next h => rw [h]
    · next h => rw [h]
    · next h =>
      rw [h]
      rfl
  | error e => rfl
  | trap t => rfl

theorem conclude_eq (E : EncodeEngine σ) (engine : σ) (l : Ledger) (room : Nat) (out : ByteArray) :
    conclude E engine l room out =
      match E.finish engine l.pending.remaining room with
      | (.error e, engine) => (.error e, { engine, ledger := l })
      | (.trap t, engine) => (.trap t, { engine, ledger := l })
      | (.ok step, engine) =>
        match l.book step room with
        | .error e => (.error e, { engine, ledger := l })
        | .trap t => (.trap t, { engine, ledger := l })
        | .ok l' =>
          if step.done then (.ok (out ++ step.output), { engine, ledger := l', finished := true })
          else if room = step.output.size then (.ok (out ++ step.output), { engine, ledger := l' })
          else if step.isIdle then (.trap (.noProgress E.codec), { engine, ledger := l' })
          else conclude E engine l' (room - step.output.size) (out ++ step.output) := by
  rw [conclude]
  rcases E.finish engine l.pending.remaining room with ⟨answer, engine'⟩
  cases answer with
  | ok step =>
    simp only
    split
    · next h => rw [h]
    · next h => rw [h]
    · next h =>
      rw [h]
      rfl
  | error e => rfl
  | trap t => rfl

section Calls

variable {s : Encoder σ} {input : ByteArray}

theorem compressInto_late (E : EncodeEngine σ) (hfinished : s.finished = true)
    (hinput : input.size ≠ 0) (room : Nat) :
    compressInto E s input room = (.trap (.inputAfterFinish E.codec), s) := by
  rw [compressInto, if_pos hfinished, if_neg hinput]

theorem compressInto_early (E : EncodeEngine σ) (hopen : s.finished = false)
    (hinput : input.size ≠ 0) (hunread : s.ledger.pending.unread ≠ 0) (room : Nat) :
    compressInto E s input room =
      (.trap (.inputPending E.codec s.ledger.pending.unread), s) := by
  rw [compressInto, hopen, if_neg Bool.false_ne_true]
  simp only [Pending.accept_early E.codec hinput hunread]

theorem compressInto_finished (E : EncodeEngine σ) (hfinished : s.finished = true)
    (hinput : input.size = 0) (room : Nat) :
    compressInto E s input room = (.ok ByteArray.empty, s) := by
  rw [compressInto, if_pos hfinished, if_pos hinput]

theorem compressInto_open (E : EncodeEngine σ) (engine : σ) {ledger : Ledger} {q : Pending}
    (haccept : ledger.pending.accept E.codec input = .ok q) (room : Nat) :
    compressInto E { engine, ledger } input room =
      run E engine { ledger with pending := q } room ByteArray.empty := by
  rw [compressInto, if_neg Bool.false_ne_true]
  simp only [haccept]

end Calls

/-- The stage of its engine, as a session knows it: one that has been asked to finish is still
offered all that is left. -/
def Stands (s : Encoder σ) : Stage → Prop
  | .feeding => s.finished = false
  | .closing rest => s.finished = false ∧ s.ledger.pending.remaining.toBytes = rest
  | .ended => s.finished = true

/-- A session whose engine has taken `taken` and written `written`, as its totals say. -/
structure Tracks (E : EncodeEngine σ) (s₀ : σ) (Q : Request → ByteArray → Prop) (s : Encoder σ)
    (stage : Stage) (taken written : ByteArray) : Prop where
  reached : E.Reached s₀ (Offers Q) stage taken written s.engine
  stats : s.stats = { bytesIn := taken.size, bytesOut := written.size }
  stands : s.Stands stage

theorem tracks_fresh (E : EncodeEngine σ) (s₀ : σ) (Q : Request → ByteArray → Prop) :
    Tracks E s₀ Q { engine := s₀ } .feeding ByteArray.empty ByteArray.empty :=
  ⟨.fresh, rfl, rfl⟩

theorem Stands.allows {s : Encoder σ} {stage : Stage} (h : s.Stands stage)
    (hopen : s.finished = false) :
    stage.Allows .finish s.ledger.pending.remaining.toBytes := by
  cases stage with
  | feeding => exact trivial
  | closing rest => exact h.2
  | ended =>
    rw [Stands, hopen] at h
    exact absurd h Bool.false_ne_true

section Steps

variable {engine engine' : σ} {l l' : Ledger} {room : Nat} {step : Step} {stage : Stage}
  {taken written : ByteArray}

structure Booked (E : EncodeEngine σ) (s₀ : σ) (Q : Request → ByteArray → Prop) (l l' : Ledger)
    (stage : Stage) (engine : σ) (taken written more out : ByteArray) : Prop where
  reached : E.Reached s₀ (Offers Q) stage (taken ++ more) (written ++ out) engine
  stats : l'.stats = { bytesIn := (taken ++ more).size, bytesOut := (written ++ out).size }
  split : more ++ l'.pending.remaining.toBytes = l.pending.remaining.toBytes

theorem booked (request : Request) (hreach : E.Reached s₀ (Offers Q) stage taken written engine)
    (hstats : l.stats = { bytesIn := taken.size, bytesOut := written.size })
    (hallows : stage.Allows request l.pending.remaining.toBytes)
    (hoffers : Q request (taken ++ l.pending.remaining.toBytes))
    (hcall : E.call request engine l.pending.remaining room = (.ok step, engine'))
    (hbook : l.book step room = .ok l') :
    Booked E s₀ Q l l' (Stage.after l.pending.remaining step request) engine' taken written
      (l.pending.remaining.take step.consumed) step.output := by
  have hwithin := (Ledger.book_inv hbook).1
  rw [← Pending.size_remaining] at hwithin
  exact ⟨.call hreach hallows hoffers hcall hwithin, Ledger.book_stats hbook hstats,
    Ledger.take_append_remaining hbook⟩

end Steps

theorem after_finish {l l' : Ledger} {step : Step} {room : Nat} (hopen : ¬ step.done = true)
    (hbook : l.book step room = .ok l') :
    Stage.after l.pending.remaining step .finish = .closing l'.pending.remaining.toBytes := by
  rw [Stage.after, if_neg hopen, (Ledger.book_inv hbook).2.1]

section Runs

variable {engine engine' : σ} {l l' : Ledger} {room : Nat}
  {out tail b taken written more : ByteArray} {s : Encoder σ} {stage stage' : Stage}

/-- What a call has moved, with a window of `room` bytes: it has taken some of `offered`. -/
structure Moved (E : EncodeEngine σ) (s₀ : σ) (Q : Request → ByteArray → Prop) (s : Encoder σ)
    (stage : Stage) (room : Nat) (offered taken written more b : ByteArray) : Prop where
  tracks : Tracks E s₀ Q s stage (taken ++ more) (written ++ b)
  split : more ++ s.ledger.pending.remaining.toBytes = offered
  size_le : b.size ≤ room

/-- A call may come back behind any step. -/
theorem Booked.moved (h : Booked E s₀ Q l l' stage engine taken (written ++ out) more tail)
    {finished : Bool} (hstands : Stands { engine, ledger := l', finished } stage)
    (hle : tail.size ≤ room) :
    Moved E s₀ Q { engine, ledger := l', finished } stage (out.size + room)
      l.pending.remaining.toBytes taken written more (out ++ tail) := by
  have hreach := h.reached
  have hstats := h.stats
  rw [ByteArray.append_assoc] at hreach hstats
  refine ⟨⟨hreach, hstats, hstands⟩, h.split, ?_⟩
  rw [ByteArray.size_append]
  omega

/-- Or it goes on. -/
theorem Booked.andMoved (h : Booked E s₀ Q l l' stage engine taken (written ++ out) more tail)
    (hle : tail.size ≤ room) {more' : ByteArray}
    (hrest : Moved E s₀ Q s stage' ((out ++ tail).size + (room - tail.size))
      l'.pending.remaining.toBytes (taken ++ more) written more' b) :
    Moved E s₀ Q s stage' (out.size + room) l.pending.remaining.toBytes taken written
      (more ++ more') b := by
  obtain ⟨htracks, hsplit, hsize⟩ := hrest
  rw [ByteArray.append_assoc] at htracks
  refine ⟨htracks, ?_, ?_⟩
  · rw [ByteArray.append_assoc, hsplit, h.split]
  · rw [ByteArray.size_append] at hsize
    omega

theorem run_moves (hreach : E.Reached s₀ (Offers Q) .feeding taken (written ++ out) engine)
    (hstats : l.stats = { bytesIn := taken.size, bytesOut := (written ++ out).size })
    (hoffers : Q .encode (taken ++ l.pending.remaining.toBytes))
    (h : run E engine l room out = (.ok b, s)) :
    ∃ more, Moved E s₀ Q s .feeding (out.size + room) l.pending.remaining.toBytes taken written
      more b := by
  fun_induction run E engine l room out generalizing taken with
  | case1 | case2 | case3 | case4 => cases h
  | case5 engine l out step engine' l' hcall hbook =>
    have hbooked := booked .encode hreach hstats trivial hoffers hcall hbook
    cases h
    exact ⟨_, hbooked.moved rfl (Nat.le_refl _)⟩
  | case6 engine l room out step engine' hcall l' hbook hfull hidle =>
    have hbooked := booked .encode hreach hstats trivial hoffers hcall hbook
    cases h
    exact ⟨_, hbooked.moved rfl (Ledger.book_inv hbook).1.2⟩
  | case7 engine l room out step engine' hcall l' hbook hfull hidle ih =>
    have hbooked := booked .encode hreach hstats trivial hoffers hcall hbook
    have hreach' := hbooked.reached
    have hstats' := hbooked.stats
    rw [ByteArray.append_assoc] at hreach' hstats'
    obtain ⟨more, hmoved⟩ :=
      ih hreach' hstats' (by rw [ByteArray.append_assoc, hbooked.split]; exact hoffers) h
    exact ⟨_, hbooked.andMoved (Ledger.book_inv hbook).1.2 hmoved⟩

theorem conclude_moves (hreach : E.Reached s₀ (Offers Q) stage taken (written ++ out) engine)
    (hstats : l.stats = { bytesIn := taken.size, bytesOut := (written ++ out).size })
    (hallows : stage.Allows .finish l.pending.remaining.toBytes)
    (hoffers : Q .finish (taken ++ l.pending.remaining.toBytes))
    (h : conclude E engine l room out = (.ok b, s)) :
    ∃ stage' more, stage' ≠ .feeding ∧
      Moved E s₀ Q s stage' (out.size + room) l.pending.remaining.toBytes taken written more b := by
  fun_induction conclude E engine l room out generalizing taken stage with
  | case1 | case2 | case3 | case4 => cases h
  | case5 engine l room out step engine' hcall l' hbook hdone =>
    have hbooked := booked .finish hreach hstats hallows hoffers hcall hbook
    rw [Stage.after, if_pos hdone] at hbooked
    cases h
    exact ⟨_, _, Stage.noConfusion, hbooked.moved rfl (Ledger.book_inv hbook).1.2⟩
  | case6 engine l out step engine' l' hopen hcall hbook =>
    have hbooked := booked .finish hreach hstats hallows hoffers hcall hbook
    rw [after_finish hopen hbook] at hbooked
    cases h
    exact ⟨_, _, Stage.noConfusion, hbooked.moved ⟨rfl, rfl⟩ (Nat.le_refl _)⟩
  | case7 => cases h
  | case8 engine l room out step engine' hcall l' hbook hopen hfull hidle ih =>
    have hbooked := booked .finish hreach hstats hallows hoffers hcall hbook
    rw [after_finish hopen hbook] at hbooked
    have hreach' := hbooked.reached
    have hstats' := hbooked.stats
    rw [ByteArray.append_assoc] at hreach' hstats'
    obtain ⟨stage', more, hstage', hmoved⟩ := ih hreach' hstats' rfl
      (by rw [ByteArray.append_assoc, hbooked.split]; exact hoffers) h
    exact ⟨stage', _, hstage', hbooked.andMoved (Ledger.book_inv hbook).1.2 hmoved⟩

variable {input : ByteArray}

theorem compressInto_moves (ht : Tracks E s₀ Q s .feeding taken written)
    (hoffers : Q .encode (taken ++ (s.ledger.pending.remaining.toBytes ++ input))) {s' : Encoder σ}
    (h : compressInto E s input room = (.ok b, s')) :
    ∃ more, Moved E s₀ Q s' .feeding room
      (s.ledger.pending.remaining.toBytes ++ input) taken written more b := by
  obtain ⟨hreach, hstats, hstands⟩ := ht
  obtain ⟨engine, ledger, finished⟩ := s
  cases hstands
  unfold compressInto at h
  rw [if_neg Bool.false_ne_true] at h
  cases haccept : ledger.pending.accept E.codec input with
  | ok q =>
    simp only [haccept] at h
    have hrest := Pending.accept_inv haccept
    rw [← hrest] at hoffers ⊢
    rw [← ByteArray.append_empty (b := written)] at hreach hstats
    obtain ⟨more, hmoved⟩ := run_moves (l := { ledger with pending := q }) hreach hstats hoffers h
    rw [ByteArray.size_empty, Nat.zero_add] at hmoved
    exact ⟨more, hmoved⟩
  | error e =>
    simp only [haccept] at h
    cases h
  | trap t =>
    simp only [haccept] at h
    cases h

theorem finishInto_moves (ht : Tracks E s₀ Q s stage taken written)
    (hoffers : Q .finish (taken ++ s.ledger.pending.remaining.toBytes)) {s' : Encoder σ}
    (h : finishInto E s room = (.ok b, s')) :
    ∃ stage' more, stage' ≠ .feeding ∧
      Moved E s₀ Q s' stage' room s.ledger.pending.remaining.toBytes taken written more b := by
  unfold finishInto at h
  cases hopen : s.finished with
  | true =>
    rw [hopen, if_pos rfl] at h
    cases h
    refine ⟨stage, ByteArray.empty, ?_, ?_, ByteArray.empty_append, Nat.zero_le _⟩
    · rintro rfl
      have hstands := ht.stands
      rw [Stands, hopen] at hstands
      cases hstands
    · rw [ByteArray.append_empty, ByteArray.append_empty]
      exact ht
  | false =>
    have hallows := ht.stands.allows hopen
    obtain ⟨hreach, hstats, -⟩ := ht
    obtain ⟨engine, ledger, finished⟩ := s
    cases hopen
    rw [if_neg Bool.false_ne_true] at h
    rw [← ByteArray.append_empty (b := written)] at hreach hstats
    obtain ⟨stage', more, hstage', hmoved⟩ := conclude_moves hreach hstats hallows hoffers h
    rw [ByteArray.size_empty, Nat.zero_add] at hmoved
    exact ⟨stage', more, hstage', hmoved⟩

end Runs

section Totals

variable {engine engine' : σ} {l l' : Ledger} {room : Nat} {out taken written : ByteArray}
  {s : Encoder σ} {stage : Stage} {step : Step}

theorem run_step (hcall : E.encode engine l.pending.remaining room = (.ok step, engine'))
    (hbook : l.book step room = .ok l') :
    run E engine l room out =
      if room = step.output.size then (.ok (out ++ step.output),
        { engine := engine', ledger := l' })
      else if step.isIdle then (.ok (out ++ step.output), { engine := engine', ledger := l' })
      else run E engine' l' (room - step.output.size) (out ++ step.output) := by
  rw [run_eq, hcall]
  simp only [hbook]

/-- An idle step ends a call, and has written nothing. -/
theorem run_idle (hcall : E.encode engine l.pending.remaining room = (.ok step, engine'))
    (hidle : step.isIdle = true) :
    ∃ l', l.book step room = .ok l' ∧
      run E engine l room out = (.ok out, { engine := engine', ledger := l' }) := by
  obtain ⟨hconsumed, houtput⟩ := Step.isIdle_iff.mp hidle
  have hwithin : step.Within l.pending.unread room := ⟨by omega, by omega⟩
  obtain ⟨l', hbook⟩ := Ledger.book_ok hwithin
  refine ⟨l', hbook, ?_⟩
  rw [run_step hcall hbook, ByteArray.size_eq_zero_iff.mp houtput, ByteArray.append_empty,
    if_pos hidle, ite_self]

theorem conclude_step (hcall : E.finish engine l.pending.remaining room = (.ok step, engine'))
    (hbook : l.book step room = .ok l') :
    conclude E engine l room out =
      if step.done then (.ok (out ++ step.output),
        { engine := engine', ledger := l', finished := true })
      else if room = step.output.size then (.ok (out ++ step.output),
        { engine := engine', ledger := l' })
      else if step.isIdle then (.trap (.noProgress E.codec), { engine := engine', ledger := l' })
      else conclude E engine' l' (room - step.output.size) (out ++ step.output) := by
  rw [conclude_eq, hcall]
  simp only [hbook]

/-- A call to encode succeeds, and when it is short, nothing is left to take. -/
theorem run_ok (hE : E.Answers s₀ Any Step.Advances)
    (hreach : E.Reached s₀ Any .feeding taken written engine) (l : Ledger) (room : Nat)
    (out : ByteArray) :
    ∃ b s, run E engine l room out = (.ok b, s) ∧
      (b.size < out.size + room → s.ledger.pending.unread = 0) := by
  induction hn : l.pending.unread + room using Nat.strongRecOn generalizing engine l room out
    taken written with
  | ind n ih =>
  obtain ⟨step, engine', hcall, hwithin, hmoves⟩ := hE.encode hreach l.pending.remaining room
  obtain ⟨l', hbook⟩ := Ledger.book_ok (Pending.size_remaining l.pending ▸ hwithin)
  obtain ⟨hroom, -, hunread⟩ := Ledger.book_eq_ok hbook
  have hsize : (out ++ step.output).size = out.size + step.output.size := ByteArray.size_append
  rw [run_step hcall hbook]
  by_cases hfull : room = step.output.size
  · rw [if_pos hfull]
    exact ⟨_, _, rfl, fun hshort => by omega⟩
  · rw [if_neg hfull]
    by_cases hidle : step.isIdle = true
    · rw [if_pos hidle]
      refine ⟨_, _, rfl, fun _ => ?_⟩
      have hnone : l.pending.unread = 0 := by
        by_contra hinput
        rw [← Pending.size_remaining] at hinput
        rw [hmoves (by omega) (by omega)] at hidle
        cases hidle
      show l'.pending.unread = 0
      omega
    · rw [if_neg hidle]
      have hless := Ledger.lt_of_book hbook (Bool.not_eq_true _ ▸ hidle)
      have hallows : Stage.feeding.Allows .encode l.pending.remaining.toBytes := trivial
      have hreach' := Reached.call hreach hallows trivial hcall hwithin
      obtain ⟨b, s, hrun, hshort⟩ := ih _ (hn ▸ hless) hreach' l' _ (out ++ step.output) rfl
      refine ⟨b, s, hrun, fun h => hshort ?_⟩
      omega

/-- A call to finish succeeds, and when it is short, the end is out. -/
theorem conclude_ok (hE : E.Answers s₀ Any Step.Advances)
    (hreach : E.Reached s₀ Any stage taken written engine) (l : Ledger)
    (hallows : stage.Allows .finish l.pending.remaining.toBytes) (room : Nat) (out : ByteArray) :
    ∃ b s, conclude E engine l room out = (.ok b, s) ∧
      (b.size < out.size + room → s.finished = true) := by
  induction hn : l.pending.unread + room using Nat.strongRecOn
    generalizing engine l room out taken written stage with
  | ind n ih =>
  obtain ⟨step, engine', hcall, hwithin, hmoves⟩ := hE.finish hreach hallows room
  obtain ⟨l', hbook⟩ := Ledger.book_ok (Pending.size_remaining l.pending ▸ hwithin)
  have hroom := (Ledger.book_eq_ok hbook).1
  have hsize : (out ++ step.output).size = out.size + step.output.size := ByteArray.size_append
  rw [conclude_step hcall hbook]
  by_cases hdone : step.done = true
  · rw [if_pos hdone]
    exact ⟨_, _, rfl, fun _ => rfl⟩
  · rw [if_neg hdone]
    by_cases hfull : room = step.output.size
    · rw [if_pos hfull]
      exact ⟨_, _, rfl, fun hshort => by omega⟩
    · have hidle := hmoves (Bool.not_eq_true _ ▸ hdone) (by omega)
      rw [if_neg hfull, hidle, if_neg Bool.false_ne_true]
      have hless := Ledger.lt_of_book hbook hidle
      have hreach' := Reached.call hreach hallows trivial hcall hwithin
      rw [after_finish hdone hbook] at hreach'
      obtain ⟨b, s, hrun, hshort⟩ := ih _ (hn ▸ hless) hreach' l' rfl _ (out ++ step.output) rfl
      refine ⟨b, s, hrun, fun h => hshort ?_⟩
      omega

theorem compressInto_ok (hE : E.Answers s₀ Any Step.Advances)
    (ht : Tracks E s₀ (fun _ _ => True) s .feeding taken written)
    {input : ByteArray} (hinput : input.size = 0 ∨ s.ledger.pending.unread = 0) (room : Nat) :
    ∃ b s', compressInto E s input room = (.ok b, s') ∧
      (b.size < room → s'.ledger.pending.unread = 0) := by
  obtain ⟨hreach, -, hstands⟩ := ht
  obtain ⟨engine, ledger, finished⟩ := s
  cases hstands
  obtain ⟨q, haccept, -⟩ := Pending.accept_ok E.codec hinput
  obtain ⟨b, s', hrun, hshort⟩ := run_ok hE hreach { ledger with pending := q } room ByteArray.empty
  rw [ByteArray.size_empty, Nat.zero_add] at hshort
  refine ⟨b, s', ?_, hshort⟩
  simp only [compressInto, haccept]
  exact hrun

theorem finishInto_ok (hE : E.Answers s₀ Any Step.Advances)
    (ht : Tracks E s₀ (fun _ _ => True) s stage taken written)
    (room : Nat) :
    ∃ b s', finishInto E s room = (.ok b, s') ∧ (b.size < room → s'.finished = true) := by
  unfold finishInto
  cases hopen : s.finished with
  | true => exact ⟨_, _, rfl, fun _ => hopen⟩
  | false =>
    obtain ⟨b, s', hrun, hshort⟩ :=
      conclude_ok hE ht.reached s.ledger (ht.stands.allows hopen) room ByteArray.empty
    rw [ByteArray.size_empty, Nat.zero_add] at hshort
    exact ⟨b, s', hrun, hshort⟩

end Totals

end StreamCodec.Encoder
