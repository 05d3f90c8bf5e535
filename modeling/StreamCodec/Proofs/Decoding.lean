import StreamCodec.Proofs.Ledger
import StreamCodec.Proofs.Reading
import StreamCodec.Stream.Decoder
import StreamCodec.Stream.Schedule

/-!
Decompression sessions over an engine that follows a grammar. A session keeps track of what
its engine has read and written, and a bounded call comes back in one of three ways: with
the end of the stream, with a window that is full or input that is used up, or with the
refusal that the grammar asks for. A short call that is not the last has read all its input.
-/

namespace StreamCodec.Decoder

open DecodeEngine

variable {σ : Type} {E : DecodeEngine σ} {s₀ : σ} {P : ByteArray → Prop} {G : Grammar}
  {Late : σ → Prop}

/-- A session whose engine has read `read` and written `written`, as its totals say, and was offered
bytes of `P` only. -/
structure Tracks (E : DecodeEngine σ) (s₀ : σ) (P : ByteArray → Prop) (d : Decoder σ)
    (read written : ByteArray) : Prop where
  reached : E.Reached s₀ (fun b _ => P b) d.finished read written d.engine
  stats : d.stats = { bytesIn := read.size, bytesOut := written.size }

/-- All input is read, all that it decodes to is written, and more input is needed. -/
structure Waits (G : Grammar) (d : Decoder σ) (read written : ByteArray) : Prop where
  drained : d.ledger.pending.unread = 0
  unfinished : G.verdict read = .unfinished
  plain : G.plain read = written

section Tracked

variable {d : Decoder σ} {read written : ByteArray}

theorem Tracks.complete (hE : E.Follows s₀ (fun b _ => P b) G Late)
    (ht : Tracks E s₀ P d read written)
    (hfinished : d.finished = true) : G.verdict read = .complete read.size ∧
    G.plain read = written := by
  have hreach := ht.reached
  rw [hfinished] at hreach
  exact hE.complete hreach

/-- Where the verdict is open, the end has not come. -/
theorem Tracks.finished_eq_false (hE : E.Follows s₀ (fun b _ => P b) G Late)
    (ht : Tracks E s₀ P d read written)
    {rest : ByteArray} (hopen : G.verdict (read ++ rest) = .unfinished) : d.finished = false := by
  cases hfinished : d.finished with
  | true =>
    rw [G.complete_append (ht.complete hE hfinished).1] at hopen
    cases hopen
  | false => rfl

/-- Where all is written that there is, no more comes. -/
theorem Tracks.size_eq_zero (hE : E.Follows s₀ (fun b _ => P b) G Late) {more : ByteArray}
    (ht : Tracks E s₀ P d read (written ++ more)) {rest : ByteArray}
    (hplain : G.plain (read ++ rest) = written) :
    more.size = 0 := by
  obtain ⟨owed, howed⟩ := hE.written ht.reached
  have hle := G.size_plain_le read rest
  rw [hplain, howed, ByteArray.size_append, ByteArray.size_append] at hle
  omega

end Tracked

/-- The steps of a call, without the facts by which they end. -/
theorem run_eq (E : DecodeEngine σ) (engine : σ) (l : Ledger) (room : Nat) (out : ByteArray) :
    run E engine l room out =
      match E.decode engine l.pending.remaining room with
      | (.error e, engine) => (.error e, { engine, ledger := l })
      | (.trap t, engine) => (.trap t, { engine, ledger := l })
      | (.ok step, engine) =>
        match l.book step room with
        | .error e => (.error e, { engine, ledger := l })
        | .trap t => (.trap t, { engine, ledger := l })
        | .ok l' =>
          if step.done then (.ok (out ++ step.output), { engine, ledger := l', finished := true })
          else if room = step.output.size then (.ok (out ++ step.output), { engine, ledger := l' })
          else if step.isIdle then (.ok (out ++ step.output), { engine, ledger := l' })
          else run E engine l' (room - step.output.size) (out ++ step.output) := by
  rw [run]
  rcases E.decode engine l.pending.remaining room with ⟨answer, engine'⟩
  cases answer with
  | ok step =>
    simp only
    split
    · next h => rw [h]
    · next h => rw [h]
    · next h =>
      rw [h]
      rfl
  | error e => rfl
  | trap t => rfl

theorem run_step {engine engine' : σ} {l l' : Ledger} {room : Nat} {out : ByteArray} {step : Step}
    (hcall : E.decode engine l.pending.remaining room = (.ok step, engine'))
    (hbook : l.book step room = .ok l') :
    run E engine l room out =
      if step.done then
        (.ok (out ++ step.output), { engine := engine', ledger := l', finished := true })
      else if room = step.output.size then
        (.ok (out ++ step.output), { engine := engine', ledger := l' })
      else if step.isIdle then (.ok (out ++ step.output), { engine := engine', ledger := l' })
      else run E engine' l' (room - step.output.size) (out ++ step.output) := by
  rw [run_eq, hcall]
  simp only [hbook]

theorem run_error {engine engine' : σ} {l : Ledger} {room : Nat} {out : ByteArray} {e : Error}
    (hcall : E.decode engine l.pending.remaining room = (.error e, engine')) :
    run E engine l room out = (.error e, { engine := engine', ledger := l }) := by
  rw [run_eq, hcall]

theorem run_trap {engine engine' : σ} {l : Ledger} {room : Nat} {out : ByteArray} {t : Trap}
    (hcall : E.decode engine l.pending.remaining room = (.trap t, engine')) :
    run E engine l room out = (.trap t, { engine := engine', ledger := l }) := by
  rw [run_eq, hcall]

/-- An idle step ends the call. -/
theorem run_idle {engine engine' : σ} {l : Ledger} {room : Nat}
    (hcall : E.decode engine l.pending.remaining room = (.ok .idle, engine'))
    (out : ByteArray) :
    ∃ l', l'.pending.remaining = l.pending.remaining ∧ l'.stats = l.stats ∧
      run E engine l room out = (.ok out, { engine := engine', ledger := l' }) := by
  have hwithin : Step.idle.Within l.pending.unread room := ⟨Nat.zero_le _, Nat.zero_le _⟩
  obtain ⟨l', hbook⟩ := Ledger.book_ok hwithin
  obtain ⟨-, hrest, htotals⟩ := Ledger.book_inv hbook
  refine ⟨l', hrest, htotals, ?_⟩
  rw [run_step hcall hbook, if_neg (show ¬ Step.idle.done = true from Bool.false_ne_true),
    if_pos (show Step.idle.isIdle = true from rfl), ite_self, Step.idle, ByteArray.append_empty]

section Calls

variable {s : Decoder σ} {input : ByteArray}

theorem decompressInto_early (E : DecodeEngine σ) (hinput : input.size ≠ 0)
    (hunread : s.ledger.pending.unread ≠ 0) (room : Nat) :
    decompressInto E s input room =
      (.trap (.inputPending E.codec s.ledger.pending.unread), s) := by
  rw [decompressInto]
  simp only [Pending.accept_early E.codec hinput hunread]

theorem decompressInto_accepted (E : DecodeEngine σ) (engine : σ) {ledger : Ledger} {q : Pending}
    (haccept : ledger.pending.accept E.codec input = .ok q) (finished : Bool) (room : Nat) :
    decompressInto E { engine, ledger, finished } input room =
      if finished then
        (.ok ByteArray.empty, { engine, ledger := { ledger with pending := q }, finished })
      else run E engine { ledger with pending := q } room ByteArray.empty := by
  rw [decompressInto]
  simp only [haccept]

/-- A call brings input too early, or its input is accepted. -/
theorem decompressInto_cases (E : DecodeEngine σ) (s : Decoder σ) (input : ByteArray) (room : Nat) :
    decompressInto E s input room = (.trap (.inputPending E.codec s.ledger.pending.unread), s) ∨
      ∃ q, q.remaining.toBytes = s.ledger.pending.remaining.toBytes ++ input ∧
        decompressInto E s input room =
          if s.finished then (.ok ByteArray.empty, { s with ledger.pending := q })
          else run E s.engine { s.ledger with pending := q } room ByteArray.empty := by
  by_cases hinput : input.size = 0 ∨ s.ledger.pending.unread = 0
  · obtain ⟨q, haccept, hrest⟩ := Pending.accept_ok E.codec hinput
    exact .inr ⟨q, hrest, decompressInto_accepted E s.engine haccept s.finished room⟩
  · obtain ⟨hinput, hunread⟩ := not_or.mp hinput
    exact .inl (decompressInto_early E hinput hunread room)

end Calls

/-- A call with a window of `room` bytes has written `out`, and `whole` is all that came
in so far. -/
structure Goes (E : DecodeEngine σ) (s₀ : σ) (P : ByteArray → Prop) (G : Grammar) (Late : σ → Prop)
    (engine : σ) (room : Nat) (whole written read out : ByteArray) (d : Decoder σ) : Prop where
  tracks : Tracks E s₀ P d read (written ++ out)
  split : read ++ d.ledger.pending.remaining.toBytes = whole
  size_le : out.size ≤ room
  short : out.size < room →
    d.finished = true ∨ Waits G d read (written ++ out) ∨ (¬ Late engine ∧ Late d.engine)
  late : Late engine → Late d.engine

def Comes (E : DecodeEngine σ) (s₀ : σ) (P : ByteArray → Prop) (G : Grammar) (Late : σ → Prop)
    (engine : σ) (room : Nat) (whole written : ByteArray) : Outcome ByteArray × Decoder σ → Prop
  | (.ok out, d) => ∃ read, Goes E s₀ P G Late engine room whole written read out d
  | (.error e, _) => ∃ m, e = .decode E.codec m ∧ G.verdict whole = .corrupt m
  | (.trap _, _) => False

/-- A call that has come to another engine state goes on from there. -/
theorem Comes.of_late {engine engine' : σ} {room : Nat} {whole written : ByteArray}
    {r : Outcome ByteArray × Decoder σ} (hlate : Late engine → Late engine')
    (h : Comes E s₀ P G Late engine' room whole written r) :
    Comes E s₀ P G Late engine room whole written r := by
  obtain ⟨answer, d⟩ := r
  cases answer with
  | ok out =>
    obtain ⟨read, hgoes⟩ := h
    refine ⟨read, hgoes.tracks, hgoes.split, hgoes.size_le, ?_, hgoes.late ∘ hlate⟩
    intro hshort
    exact (hgoes.short hshort).imp_right (Or.imp_right (And.imp_left (mt hlate)))
  | error e => exact h
  | trap t => exact h

section Steps

variable {engine engine' : σ} {l l' : Ledger} {room : Nat} {step : Step} {read written : ByteArray}

/-- Where a session stands behind a step. -/
theorem Tracks.behind (hreach : E.Reached s₀ (fun b _ => P b) false read written engine)
    (hstats : l.stats = { bytesIn := read.size, bytesOut := written.size })
    (hoffered : P (read ++ l.pending.remaining.toBytes))
    (hcall : E.decode engine l.pending.remaining room = (.ok step, engine'))
    (hbook : l.book step room = .ok l') :
    Tracks E s₀ P { engine := engine', ledger := l', finished := step.done }
      (read ++ l.pending.remaining.take step.consumed) (written ++ step.output) :=
  ⟨.step hreach hoffered hcall, Ledger.book_stats hbook hstats⟩

/-- A sound step is idle when all is said and done for the input so far. -/
theorem waits_of_idle (engine : σ) {Excused : Prop}
    (hsound : step.Sound G read written l.pending.remaining room Excused)
    (hbook : l.book step room = .ok l') (hdone : step.done = false) (hroom : 0 < room)
    (hidle : step.isIdle = true) :
    Waits G { engine, ledger := l' : Decoder σ } (read ++ l.pending.remaining.take step.consumed)
      (written ++ step.output) ∨ Excused := by
  refine (hsound.idle hdone hroom hidle).imp_left ?_
  rintro ⟨hempty, hverdict, hplain⟩
  obtain ⟨hnone, hout⟩ := Step.isIdle_iff.mp hidle
  rw [hnone, Slice.take_zero, ByteArray.append_empty, ByteArray.size_eq_zero_iff.mp hout,
    ByteArray.append_empty]
  refine ⟨?_, hverdict, hplain⟩
  rw [← Pending.size_remaining, (Ledger.book_inv hbook).2.1, Slice.size_drop, hempty, Nat.zero_sub]

end Steps

theorem run_comes (hE : E.Follows s₀ (fun b _ => P b) G Late) {engine : σ} (l : Ledger) (room : Nat)
    {out read written : ByteArray}
    (hreach : E.Reached s₀ (fun b _ => P b) false read (written ++ out) engine)
    (hstats : l.stats = { bytesIn := read.size, bytesOut := (written ++ out).size })
    (hoffered : P (read ++ l.pending.remaining.toBytes)) :
    Comes E s₀ P G Late engine (out.size + room) (read ++ l.pending.remaining.toBytes) written
      (run E engine l room out) := by
  -- Every step that is not the last leaves less to read or less room.
  induction hn : l.pending.unread + room using Nat.strongRecOn
    generalizing engine l room out read with
  | ind n ih =>
  rcases hcall : E.decode engine l.pending.remaining room with ⟨answer, engine'⟩
  cases answer with
  | error e =>
    rw [run_error hcall]
    exact hE.refuses hreach hoffered hcall
  | trap t => exact absurd hcall (hE.not_trap hreach hoffered)
  | ok step =>
    have hsound := hE.sound hreach hoffered hcall
    have hlate := hE.late hreach hoffered hcall
    have hroom := hsound.within.2
    obtain ⟨l', hbook⟩ := Ledger.book_ok hsound.within
    have ht := Tracks.behind hreach hstats hoffered hcall hbook
    have hsize : (out ++ step.output).size = out.size + step.output.size := ByteArray.size_append
    have hwhole : read ++ l.pending.remaining.take step.consumed ++ l'.pending.remaining.toBytes =
        read ++ l.pending.remaining.toBytes := by
      rw [ByteArray.append_assoc, Ledger.take_append_remaining hbook]
    rw [run_step hcall hbook]
    cases hdone : step.done with
    | true =>
      rw [hdone, ByteArray.append_assoc] at ht
      rw [if_pos rfl]
      exact ⟨_, ht, hwhole, by omega, fun _ => .inl rfl, hlate⟩
    | false =>
      rw [hdone, ByteArray.append_assoc] at ht
      rw [if_neg Bool.false_ne_true]
      by_cases hfull : room = step.output.size
      · rw [if_pos hfull]
        exact ⟨_, ht, hwhole, by omega, fun hshort => by omega, hlate⟩
      · rw [if_neg hfull]
        by_cases hidle : step.isIdle = true
        · rw [if_pos hidle]
          have hwaits := waits_of_idle engine' hsound hbook hdone (by omega) hidle
          rw [ByteArray.append_assoc] at hwaits
          exact ⟨_, ht, hwhole, by omega, fun _ => .inr hwaits, hlate⟩
        · rw [if_neg hidle]
          have hless := Ledger.lt_of_book hbook (Bool.not_eq_true _ ▸ hidle)
          have hcomes := ih _ (hn ▸ hless) l' _ ht.reached ht.stats (hwhole.symm ▸ hoffered) rfl
          rw [hwhole, hsize, show out.size + step.output.size + (room - step.output.size) =
            out.size + room
            by omega] at hcomes
          exact hcomes.of_late hlate

theorem decompressInto_comes (hE : E.Follows s₀ (fun b _ => P b) G Late) {d : Decoder σ}
    {read written input : ByteArray} (ht : Tracks E s₀ P d read written)
    (hopen : d.finished = false) (hinput : input.size = 0 ∨ d.ledger.pending.unread = 0)
    (hoffered : P (read ++ (d.ledger.pending.remaining.toBytes ++ input))) (room : Nat) :
    Comes E s₀ P G Late d.engine room (read ++ (d.ledger.pending.remaining.toBytes ++ input))
      written
      (decompressInto E d input room) := by
  obtain ⟨engine, ledger, finished⟩ := d
  obtain ⟨q, haccept, hrest⟩ := Pending.accept_ok E.codec hinput
  have hreach := ht.reached
  have hstats := ht.stats
  cases hopen
  rw [← ByteArray.append_empty (b := written)] at hreach hstats
  rw [← hrest] at hoffered
  have hcomes := run_comes hE { ledger with pending := q } room hreach hstats hoffered
  rw [hrest, ByteArray.size_empty, Nat.zero_add] at hcomes
  simp only [decompressInto, haccept]
  exact hcomes

theorem decompressInto_finished {d : Decoder σ} (h : d.finished = true) (room : Nat) :
    decompressInto E d ByteArray.empty room = (.ok ByteArray.empty, d) := by
  obtain ⟨engine, ledger, finished⟩ := d
  cases h
  rfl

/-- A bounded call writes no more than its window holds, whatever the engine does. -/
theorem run_size_le {engine : σ} {l : Ledger} {room : Nat} {out b : ByteArray} {d : Decoder σ}
    (h : run E engine l room out = (.ok b, d)) : b.size ≤ out.size + room := by
  fun_induction run E engine l room out with
  | case1 | case2 | case3 | case4 => cases h
  | case5 engine l room out step engine' hcall l' hbook
  | case6 engine l room out step engine' hcall l' hbook
  | case7 engine l room out step engine' hcall l' hbook =>
    have hle := (Ledger.book_inv hbook).1.2
    cases h
    exact Nat.le_trans (Nat.le_of_eq ByteArray.size_append) (Nat.add_le_add_left hle _)
  | case8 engine l room out step engine' hcall l' hbook hdone hfull hidle ih =>
    have hle := (Ledger.book_inv hbook).1.2
    have hrest := ih h
    rw [ByteArray.size_append] at hrest
    omega

theorem decompressInto_size_le {d d' : Decoder σ} {input b : ByteArray} {room : Nat}
    (h : decompressInto E d input room = (.ok b, d')) : b.size ≤ room := by
  obtain ⟨engine, ledger, finished⟩ := d
  unfold decompressInto at h
  split at h
  · cases h
  · cases h
  · cases finished with
    | true =>
      cases h
      exact Nat.zero_le _
    | false =>
      have hle := run_size_le h
      rw [ByteArray.size_empty, Nat.zero_add] at hle
      exact hle

/-- Reading moves the cursor and leaves the span as it is. -/
theorem run_bytes (engine : σ) (l : Ledger) (room : Nat) (out : ByteArray) :
    (run E engine l room out).2.ledger.pending.bytes = l.pending.bytes := by
  fun_induction run E engine l room out with
  | case1 | case2 | case3 | case4 => rfl
  | case5 engine l room out step engine' hcall l' hbook
  | case6 engine l room out step engine' hcall l' hbook
  | case7 engine l room out step engine' hcall l' hbook => exact Ledger.book_bytes hbook
  | case8 engine l room out step engine' hcall l' hbook hdone hfull hidle ih =>
    rw [ih, Ledger.book_bytes hbook]

theorem decompressInto_bytes {d : Decoder σ} {input : ByteArray} {q : Pending}
    (h : d.ledger.pending.accept E.codec input = .ok q) (room : Nat) :
    (decompressInto E d input room).2.ledger.pending.bytes = q.bytes := by
  obtain ⟨engine, ledger, finished⟩ := d
  simp only [decompressInto, h]
  cases finished with
  | true => rfl
  | false => exact run_bytes engine _ room ByteArray.empty

/-- What a drained piece comes to: a session that is at its end or waits for more, or a refusal. -/
def Drained (E : DecodeEngine σ) (s₀ : σ) (P : ByteArray → Prop) (G : Grammar) (Late : σ → Prop)
    (engine : σ) (whole written out : ByteArray) : Outcome ByteArray × Decoder σ × Nat → Prop
  | (.ok total, d, _) => ∃ read tail, total = out ++ tail ∧ Tracks E s₀ P d read (written ++ tail) ∧
      read ++ d.ledger.pending.remaining.toBytes = whole ∧
      (d.finished = true ∨ Waits G d read (written ++ tail) ∨ (¬ Late engine ∧ Late d.engine))
  | (.error e, _, _) => ∃ m, e = .decode E.codec m ∧ G.verdict whole = .corrupt m
  | (.trap _, _, _) => False

theorem Drained.of_later {engine engine' : σ} {whole written out b : ByteArray}
    {r : Outcome ByteArray × Decoder σ × Nat} (hlate : Late engine → Late engine')
    (h : Drained E s₀ P G Late engine' whole (written ++ b) (out ++ b) r) :
    Drained E s₀ P G Late engine whole written out r := by
  obtain ⟨answer, d, i⟩ := r
  cases answer with
  | ok total =>
    obtain ⟨read, tail, htotal, htracks, hsplit, hend⟩ := h
    rw [ByteArray.append_assoc] at htotal htracks hend
    exact ⟨read, b ++ tail, htotal, htracks, hsplit,
      hend.imp_right (Or.imp_right (And.imp_left (mt hlate)))⟩
  | error e => exact h
  | trap t => exact h

section Schedules

open BoundedCall Schedule

variable {windows : Nat → Nat}

/-- Behind the end of the stream a drain writes nothing and changes nothing. -/
theorem drain_finished (E : DecodeEngine σ) {d : Decoder σ} (h : d.finished = true) {i k : Nat}
    (hk : 0 < windows (i + k)) (out : ByteArray) :
    ∃ j, drain (decompressInto E) windows i d ByteArray.empty out = some (.ok out, d, j) := by
  induction k generalizing i with
  | zero =>
    refine ⟨i + 1, ?_⟩
    rw [drain_short (decompressInto_finished h _) (by exact hk), ByteArray.append_empty]
  | succ k ih =>
    by_cases hroom : 0 < windows i
    · refine ⟨i + 1, ?_⟩
      rw [drain_short (decompressInto_finished h _) hroom, ByteArray.append_empty]
    · rw [drain_full (decompressInto_finished h _) hroom, ByteArray.append_empty]
      exact ih (by rw [Nat.add_right_comm]; exact hk)

/-- So it comes to what it came to before. -/
theorem drained_finished (hw : ∀ i, ∃ k, 0 < windows (i + k)) {d : Decoder σ}
    {read written : ByteArray}
    (ht : Tracks E s₀ P d read written) (hend : d.finished = true) (i : Nat) (out : ByteArray) :
    ∃ r, drain (decompressInto E) windows i d ByteArray.empty out = some r ∧
      Drained E s₀ P G Late d.engine (read ++ d.ledger.pending.remaining.toBytes) written out
        r := by
  obtain ⟨k, hk⟩ := hw i
  obtain ⟨j, hdrain⟩ := drain_finished E hend hk out
  refine ⟨_, hdrain, read, ByteArray.empty, ByteArray.append_empty.symm, ?_, rfl, .inl hend⟩
  rw [ByteArray.append_empty]
  exact ht

/-- What a call writes is no longer owed. -/
theorem Goes.lt (hE : E.Follows s₀ (fun b _ => P b) G Late) {engine : σ} {room : Nat}
    {whole written read out : ByteArray} {d : Decoder σ}
    (h : Goes E s₀ P G Late engine room whole written read out d)
    (hout : 0 < out.size) :
    (G.plain whole).size - (written ++ out).size < (G.plain whole).size - written.size := by
  obtain ⟨owed, howed⟩ := hE.written h.tracks.reached
  have hgrows := G.size_plain_le read d.ledger.pending.remaining.toBytes
  rw [h.split, howed, ByteArray.size_append] at hgrows
  rw [ByteArray.size_append] at hgrows ⊢
  omega

theorem drain_comes (hE : E.Follows s₀ (fun b _ => P b) G Late) (windows : Nat → Nat)
    (hw : ∀ i, ∃ k, 0 < windows (i + k)) {d : Decoder σ} {read written : ByteArray}
    (ht : Tracks E s₀ P d read written) (hopen : d.finished = false) (input : ByteArray)
    (hinput : input.size = 0 ∨ d.ledger.pending.unread = 0)
    (hoffered : P (read ++ (d.ledger.pending.remaining.toBytes ++ input))) (i : Nat)
    (out : ByteArray) :
    ∃ r, drain (decompressInto E) windows i d input out = some r ∧
      Drained E s₀ P G Late d.engine
        (read ++ (d.ledger.pending.remaining.toBytes ++ input)) written out r := by
  -- A full window that has room leaves less to write, and one without room brings the next one
  -- closer.
  induction hn : (G.plain
    (read ++ (d.ledger.pending.remaining.toBytes ++ input))).size - written.size
    using Nat.strongRecOn generalizing d read written input out i with
  | ind n ihwritten =>
  obtain ⟨k, hk⟩ := hw i
  induction k using Nat.strongRecOn generalizing d read written input out i with
  | ind k ihwindow =>
  have hcomes := decompressInto_comes hE ht hopen hinput hoffered (windows i)
  rcases hcall : decompressInto E d input (windows i) with ⟨answer, d'⟩
  rw [hcall] at hcomes
  cases answer with
  | error e => exact ⟨_, drain_error hcall, hcomes⟩
  | trap t => exact hcomes.elim
  | ok b =>
    obtain ⟨read', hgoes⟩ := hcomes
    by_cases hshort : b.size < windows i
    · exact ⟨_, drain_short hcall hshort, read', b, rfl, hgoes.tracks, hgoes.split,
        hgoes.short hshort⟩
    · rw [drain_full hcall hshort]
      suffices hlater : ∃ r, drain (decompressInto E) windows (i + 1) d' ByteArray.empty
          (out ++ b) = some r ∧
          Drained E s₀ P G Late d'.engine (read' ++ d'.ledger.pending.remaining.toBytes)
            (written ++ b) (out ++ b) r by
        obtain ⟨r, hdrain, hdrained⟩ := hlater
        rw [hgoes.split] at hdrained
        exact ⟨r, hdrain, hdrained.of_later hgoes.late⟩
      cases hend : d'.finished with
      | true => exact drained_finished hw hgoes.tracks hend (i + 1) (out ++ b)
      | false =>
        have hfull : b.size = windows i := by
          have hle := hgoes.size_le
          omega
        have hsplit := hgoes.split
        rw [← ByteArray.append_empty (b := d'.ledger.pending.remaining.toBytes)] at hsplit ⊢
        by_cases hroom : windows i = 0
        · have hk0 : k ≠ 0 := by
            rintro rfl
            rw [Nat.add_zero] at hk
            omega
          refine ihwindow (k - 1) (by omega) hgoes.tracks hend _ (.inl rfl)
            (hsplit ▸ hoffered) _ _ ?_ ?_
          · rw [hsplit, ByteArray.size_append, hfull, hroom, Nat.add_zero]
            exact hn
          · rw [show i + 1 + (k - 1) = i + k by omega]
            exact hk
        · refine ihwritten _ ?_ hgoes.tracks hend _ (.inl rfl) (hsplit ▸ hoffered) _ _ rfl
          rw [hsplit, ← hn]
          exact hgoes.lt hE (by omega)

end Schedules

end StreamCodec.Decoder
