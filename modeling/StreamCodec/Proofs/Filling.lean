import StreamCodec.Proofs.Conservation
import StreamCodec.Proofs.Dialect

/-!
When a bounded call stops, and what it means that it comes back short. Every step but the last
leaves less input or less room, and so an engine that stays within what it is offered is asked
at most once for every byte of the two, and once more. A call that writes less than its window
has met the end of the stream, or an engine that had room and nothing to say. To finish, an
engine with room must say something, or else it is a trap.
-/

namespace StreamCodec

open Asked Ledger

/-- What stops the steps of a bounded call besides a full window and a step that fails: the end of
the stream, and a step that moves nothing, which is a trap otherwise. -/
structure Manner where
  heedsEnd : Bool
  bearsIdle : Bool

namespace Manner

def feeding : Manner := { heedsEnd := false, bearsIdle := true }

def closing : Manner := { heedsEnd := true, bearsIdle := false }

def decoding : Manner := { heedsEnd := true, bearsIdle := true }

def Rests (M : Manner) (step : Step) : Prop :=
  (M.heedsEnd = true ∧ step.done = true) ∨ (M.bearsIdle = true ∧ step.isIdle = true)

def Stalls (M : Manner) (step : Step) : Prop :=
  M.bearsIdle = false ∧ step.done = false ∧ step.isIdle = true

end Manner

/-- The steps of a bounded call from the ledger `l` on, with `room` bytes left of its window and
`out` written before, and what they come to. -/
inductive Walk (M : Manner) (codec : Codec) :
    Ledger → Nat → ByteArray → List Asked → Outcome ByteArray → Prop
  | failed (l : Ledger) (room : Nat) (out : ByteArray) (e : Error) :
      Walk M codec l room out [.mk l.pending.remaining room (.error e)] (.error e)
  | trapped (l : Ledger) (room : Nat) (out : ByteArray) (t : Trap) :
      Walk M codec l room out [.mk l.pending.remaining room (.trap t)] (.trap t)
  | landed {l l' : Ledger} {step : Step} {room : Nat} (out : ByteArray)
      (hbook : l.book step room = .ok l') (hlast : room = step.output.size ∨ M.Rests step) :
      Walk M codec l room out [.mk l.pending.remaining room (.ok step)] (.ok (out ++ step.output))
  | stalled {l l' : Ledger} {step : Step} {room : Nat} (out : ByteArray)
      (hbook : l.book step room = .ok l') (hroom : room ≠ step.output.size)
      (hstalls : M.Stalls step) :
      Walk M codec l room out [.mk l.pending.remaining room (.ok step)]
        (.trap (.noProgress codec))
  | onward {l l' : Ledger} {step : Step} {room : Nat} {out : ByteArray} {asked : List Asked}
      {answer : Outcome ByteArray} (hbook : l.book step room = .ok l')
      (hroom : room ≠ step.output.size) (hmoves : step.isIdle = false)
      (hrest : Walk M codec l' (room - step.output.size) (out ++ step.output) asked answer) :
      Walk M codec l room out (.mk l.pending.remaining room (.ok step) :: asked) answer

namespace Walk

variable {M : Manner} {codec : Codec} {l : Ledger} {room : Nat} {out : ByteArray}
  {asked : List Asked} {answer : Outcome ByteArray}

/-- Unread input and free window together bound the steps. -/
theorem length_le (h : Walk M codec l room out asked answer) :
    asked.length ≤ l.pending.unread + room + 1 := by
  induction h with
  | failed | trapped | landed | stalled =>
    rw [List.length_singleton]
    omega
  | onward hbook _ hmoves _ ih =>
    have hless := lt_of_book hbook hmoves
    rw [List.length_cons]
    omega

/-- Without room the first step is the last. -/
theorem length_eq_one (h : Walk M codec l room out asked answer) (hnone : room = 0) :
    asked.length = 1 := by
  cases h with
  | failed | trapped | landed | stalled => rfl
  | onward hbook hroom =>
    have hle := (book_eq_ok hbook).1
    omega

/-- Every step is offered what the steps before it have left of input and window. -/
theorem offers (h : Walk M codec l room out asked answer) {before after : List Asked} {c : Asked}
    (hasked : asked = before ++ c :: after) :
    allTaken before ++ c.input.toBytes = l.pending.remaining.toBytes ∧
      (allWritten before).size + c.room = room := by
  induction h generalizing before with
  | failed | trapped | landed | stalled =>
    obtain ⟨rfl, hc⟩ := List.append_eq_singleton_iff.mp hasked.symm |>.resolve_right
      fun h => List.cons_ne_nil _ _ h.2
    cases hc
    exact ⟨ByteArray.empty_append, Nat.zero_add _⟩
  | @onward l l' step room out asked answer hbook hroom hmoves hrest ih =>
    cases before with
    | nil =>
      cases hasked
      exact ⟨ByteArray.empty_append, Nat.zero_add _⟩
    | cons first before =>
      obtain ⟨rfl, htail⟩ := List.cons.inj hasked
      obtain ⟨htaken, hwritten⟩ := ih htail
      have hle := (book_eq_ok hbook).1
      constructor
      · rw [allTaken_cons, ByteArray.append_assoc, htaken]
        exact take_append_remaining hbook
      · rw [allWritten_cons, ByteArray.size_append]
        show step.output.size + _ + _ = room
        omega

/-- No step claims more than it was offered. -/
theorem within (h : Walk M codec l room out asked answer) :
    ∀ c ∈ asked, ∀ step, c.answer = .ok step → step.Within c.input.size c.room := by
  induction h with
  | failed | trapped =>
    refine List.forall_mem_singleton.mpr fun step h => ?_
    cases h
  | landed _ hbook | stalled _ hbook =>
    refine List.forall_mem_singleton.mpr fun step h => ?_
    cases h
    exact (book_inv hbook).1
  | onward hbook _ _ _ ih =>
    refine List.forall_mem_cons.mpr ⟨fun step h => ?_, ih⟩
    cases h
    exact (book_inv hbook).1

/-- What the last step comes to, and the call by it. -/
def Settles (M : Manner) (codec : Codec) (last : Asked) : Outcome ByteArray → Prop
  | .ok _ => ∃ step, last.answer = .ok step ∧ (last.room = step.output.size ∨ M.Rests step)
  | .error e => last.answer = .error e
  | .trap t => last.answer = .trap t ∨
      t = .noProgress codec ∧ ∃ step, last.answer = .ok step ∧ M.Stalls step ∧ 0 < last.room

/-- All steps succeed, except perhaps the last one, which settles the call. -/
theorem settles (h : Walk M codec l room out asked answer) :
    ∃ before last, asked = before ++ [last] ∧ (∀ c ∈ before, c.Succeeds) ∧
      Settles M codec last answer := by
  induction h with
  | failed l room out e => exact ⟨[], _, rfl, List.forall_mem_nil _, rfl⟩
  | trapped l room out t => exact ⟨[], _, rfl, List.forall_mem_nil _, .inl rfl⟩
  | landed out hbook hlast => exact ⟨[], _, rfl, List.forall_mem_nil _, _, rfl, hlast⟩
  | @stalled l l' step room out hbook hroom hstalls =>
    have hnothing := (Step.isIdle_iff.mp hstalls.2.2).2
    have hpos : 0 < room := by omega
    exact ⟨[], _, rfl, List.forall_mem_nil _, .inr ⟨rfl, step, rfl, hstalls, hpos⟩⟩
  | @onward l l' step room out asked answer hbook hroom hmoves hrest ih =>
    obtain ⟨before, last, rfl, hall, hlast⟩ := ih
    exact ⟨_ :: before, last, rfl, List.forall_mem_cons.mpr ⟨⟨step, rfl⟩, hall⟩, hlast⟩

/-- A call that answers has written what its steps wrote, one behind the other. -/
theorem writes {b : ByteArray} (h : Walk M codec l room out asked (.ok b)) :
    b = out ++ allWritten asked := by
  generalize hanswer : Outcome.ok b = answer at h
  induction h with
  | failed | trapped | stalled => cases hanswer
  | @landed l l' step room out hbook hlast =>
    cases hanswer
    rw [allWritten_cons, allWritten_nil, ByteArray.append_empty]
    rfl
  | onward _ _ _ _ ih =>
    rw [ih hanswer, allWritten_cons, ByteArray.append_assoc]
    rfl

end Walk

section Loops

variable {σ : Type} {l : Ledger} {room : Nat} {t t' : σ × List Asked} {step : Step}

theorem EncodeEngine.StaysWithin.books {E : EncodeEngine σ} (hE : E.StaysWithin)
    (request : Request)
    (hcall : E.watched.call request t l.pending.remaining room = (.ok step, t')) :
    ∃ l', l.book step room = .ok l' := by
  have hbare := E.watched_mirrors.call_ok hcall
  have hwithin : step.Within l.pending.remaining.size room := by
    cases request with
    | encode => exact hE _ _ _ _ _ (.inl hbare)
    | finish => exact hE _ _ _ _ _ (.inr hbare)
  exact book_ok hwithin

theorem DecodeEngine.StaysWithin.books {D : DecodeEngine σ} (hD : D.StaysWithin)
    (hcall : D.watched.decode t l.pending.remaining room = (.ok step, t')) :
    ∃ l', l.book step room = .ok l' := by
  have hbare : D.decode t.1 l.pending.remaining room = (.ok step, t'.1) := by
    rw [D.watched_mirrors.decode, hcall]
  have hwithin : step.Within l.pending.remaining.size room := hD _ _ _ _ _ hbare
  exact book_ok hwithin

theorem book_ne_trap {x : Trap} (hbook : ∃ l', l.book step room = .ok l') :
    l.book step room ≠ .trap x := by
  obtain ⟨l', hok⟩ := hbook
  rw [hok]
  exact fun h => nomatch h

def Walk.Logged (M : Manner) (codec : Codec) (l : Ledger) (room : Nat) (out : ByteArray)
    (log log' : List Asked) (answer : Outcome ByteArray) : Prop :=
  ∃ asked, log' = log ++ asked ∧ Walk M codec l room out asked answer

theorem Walk.Logged.onward {M : Manner} {codec : Codec} {l' : Ledger} {out : ByteArray}
    {log log' log'' : List Asked} {answer : Outcome ByteArray} (hbook : l.book step room = .ok l')
    (hroom : room ≠ step.output.size) (hmoves : step.isIdle = false)
    (hlog : log' = log ++ [.mk l.pending.remaining room (.ok step)])
    (h : Logged M codec l' (room - step.output.size) (out ++ step.output) log' log'' answer) :
    Logged M codec l room out log log'' answer := by
  obtain ⟨asked, hasked, hrest⟩ := h
  refine ⟨_ :: asked, ?_, .onward hbook hroom hmoves hrest⟩
  rw [hasked, hlog, List.append_assoc, List.singleton_append]

theorem Encoder.run_walks {E : EncodeEngine σ} (hE : E.StaysWithin) (t : σ × List Asked)
    (l : Ledger) (room : Nat) (out : ByteArray) :
    Walk.Logged .feeding E.codec l room out t.2 (run E.watched t l room out).2.engine.2
      (run E.watched t l room out).1 := by
  fun_induction run E.watched t l room out with
  | case1 t l room out e t' hcall =>
    exact ⟨_, EncodeEngine.watched_log .encode hcall, .failed l room out e⟩
  | case2 t l room out x t' hcall =>
    exact ⟨_, EncodeEngine.watched_log .encode hcall, .trapped l room out x⟩
  | case3 t l room out step t' hcall e hbook => exact absurd hbook (book_ne_error l step room e)
  | case4 t l room out step t' hcall x hbook =>
    exact absurd hbook (book_ne_trap (hE.books .encode hcall))
  | case5 t l out step t' l' hcall hbook =>
    exact ⟨_, EncodeEngine.watched_log .encode hcall, .landed out hbook (.inl rfl)⟩
  | case6 t l room out step t' hcall l' hbook hfull hidle =>
    exact ⟨_, EncodeEngine.watched_log .encode hcall,
      .landed out hbook (.inr (.inr ⟨rfl, hidle⟩))⟩
  | case7 t l room out step t' hcall l' hbook hfull hidle ih =>
    exact ih.onward hbook hfull (Bool.not_eq_true _ ▸ hidle)
      (EncodeEngine.watched_log .encode hcall)

theorem Encoder.conclude_walks {E : EncodeEngine σ} (hE : E.StaysWithin) (t : σ × List Asked)
    (l : Ledger) (room : Nat) (out : ByteArray) :
    Walk.Logged .closing E.codec l room out t.2 (conclude E.watched t l room out).2.engine.2
      (conclude E.watched t l room out).1 := by
  fun_induction conclude E.watched t l room out with
  | case1 t l room out e t' hcall =>
    exact ⟨_, EncodeEngine.watched_log .finish hcall, .failed l room out e⟩
  | case2 t l room out x t' hcall =>
    exact ⟨_, EncodeEngine.watched_log .finish hcall, .trapped l room out x⟩
  | case3 t l room out step t' hcall e hbook => exact absurd hbook (book_ne_error l step room e)
  | case4 t l room out step t' hcall x hbook =>
    exact absurd hbook (book_ne_trap (hE.books .finish hcall))
  | case5 t l room out step t' hcall l' hbook hdone =>
    exact ⟨_, EncodeEngine.watched_log .finish hcall,
      .landed out hbook (.inr (.inl ⟨rfl, hdone⟩))⟩
  | case6 t l out step t' l' hdone hcall hbook =>
    exact ⟨_, EncodeEngine.watched_log .finish hcall, .landed out hbook (.inl rfl)⟩
  | case7 t l room out step t' hcall l' hbook hdone hfull hidle =>
    exact ⟨_, EncodeEngine.watched_log .finish hcall,
      .stalled out hbook hfull ⟨rfl, Bool.not_eq_true _ ▸ hdone, hidle⟩⟩
  | case8 t l room out step t' hcall l' hbook hdone hfull hidle ih =>
    exact ih.onward hbook hfull (Bool.not_eq_true _ ▸ hidle)
      (EncodeEngine.watched_log .finish hcall)

theorem Decoder.run_walks {D : DecodeEngine σ} (hD : D.StaysWithin) (t : σ × List Asked)
    (l : Ledger) (room : Nat) (out : ByteArray) :
    Walk.Logged .decoding D.codec l room out t.2 (run D.watched t l room out).2.engine.2
      (run D.watched t l room out).1 := by
  fun_induction run D.watched t l room out with
  | case1 t l room out e t' hcall =>
    exact ⟨_, DecodeEngine.watched_log hcall, .failed l room out e⟩
  | case2 t l room out x t' hcall =>
    exact ⟨_, DecodeEngine.watched_log hcall, .trapped l room out x⟩
  | case3 t l room out step t' hcall e hbook => exact absurd hbook (book_ne_error l step room e)
  | case4 t l room out step t' hcall x hbook =>
    exact absurd hbook (book_ne_trap (hD.books hcall))
  | case5 t l room out step t' hcall l' hbook hdone =>
    exact ⟨_, DecodeEngine.watched_log hcall, .landed out hbook (.inr (.inl ⟨rfl, hdone⟩))⟩
  | case6 t l out step t' l' hdone hcall hbook =>
    exact ⟨_, DecodeEngine.watched_log hcall, .landed out hbook (.inl rfl)⟩
  | case7 t l room out step t' hcall l' hbook hdone hfull hidle =>
    exact ⟨_, DecodeEngine.watched_log hcall, .landed out hbook (.inr (.inr ⟨rfl, hidle⟩))⟩
  | case8 t l room out step t' hcall l' hbook hdone hfull hidle ih =>
    exact ih.onward hbook hfull (Bool.not_eq_true _ ▸ hidle) (DecodeEngine.watched_log hcall)

end Loops

/-- A bounded call with a window of `room` bytes: how often it asks its engine, with what, and
what its answer says of the last step. `p` is the input that there is to read. -/
structure Entry.Fills (e : Entry) (M : Manner) (codec : Codec) (p : Pending) (room : Nat)
    (finished : Bool) : Prop where
  calls : e.asked.length ≤ p.unread + room + 1
  once : finished = false → room = 0 → e.asked.length = 1
  left : finished = true → e.asked = [] ∧ e.answer = .ok ByteArray.empty
  offers : ∀ {before c after}, e.asked = before ++ c :: after →
    allTaken before ++ c.input.toBytes = p.remaining.toBytes ∧
      (allWritten before).size + c.room = room
  answers : (∀ c ∈ e.asked, c.Succeeds) → (∃ b, e.answer = .ok b) ∨
    (M.bearsIdle = false ∧ e.answer = .trap (.noProgress codec))
  writes : ∀ {b}, e.answer = .ok b → b.size ≤ room ∧ b = allWritten e.asked
  short : ∀ {b}, e.answer = .ok b → b.size < room → finished = true ∨
    ∃ before last step, e.asked = before ++ [last] ∧ last.answer = .ok step ∧
      ((M.heedsEnd = true ∧ step.done = true) ∨
        (M.bearsIdle = true ∧ step.isIdle = true ∧ 0 < last.room))
  fails : ∀ {x}, e.answer = .error x →
    ∃ before last, e.asked = before ++ [last] ∧ last.answer = .error x
  traps : ∀ {t}, e.answer = .trap t → ∃ before last, e.asked = before ++ [last] ∧
    (last.answer = .trap t ∨
      (M.bearsIdle = false ∧ t = .noProgress codec ∧ ∃ step, last.answer = .ok step ∧
        step.isIdle = true ∧ step.done = false ∧ 0 < last.room))

/-- A session behind its end asks for nothing and answers with nothing. -/
theorem Entry.Fills.nothing {e : Entry} (M : Manner) (codec : Codec) (p : Pending) (room : Nat)
    (hasked : e.asked = []) (hanswer : e.answer = .ok ByteArray.empty) :
    e.Fills M codec p room true where
  calls := by
    rw [hasked]
    exact Nat.zero_le _
  once := fun h => Bool.noConfusion h
  left := fun _ => ⟨hasked, hanswer⟩
  offers := by
    intro before c after h
    rw [hasked] at h
    exact absurd h.symm (List.append_ne_nil_of_right_ne_nil _ (List.cons_ne_nil _ _))
  answers := fun _ => .inl ⟨_, hanswer⟩
  writes := by
    intro b h
    cases hanswer.symm.trans h
    rw [hasked]
    exact ⟨Nat.zero_le _, rfl⟩
  short := fun _ _ => .inl rfl
  fails := fun h => nomatch hanswer.symm.trans h
  traps := fun h => nomatch hanswer.symm.trans h

namespace Walk

variable {M : Manner} {codec : Codec} {l : Ledger} {room : Nat} {asked : List Asked}

/-- What a walk has written and what its last step was offered to write are within the window;
together they are all of it. -/
theorem size_add {b : ByteArray} {before : List Asked} {last : Asked} {step : Step}
    (h : Walk M codec l room ByteArray.empty (before ++ [last]) (.ok b))
    (hlast : last.answer = .ok step) : b.size + last.room = room + step.output.size := by
  have hroom := (h.offers rfl).2
  have hwritten : last.written = step.output := by rw [Asked.written, hlast]
  rw [h.writes, ByteArray.empty_append, allWritten_append, ByteArray.size_append, allWritten_cons,
    allWritten_nil, ByteArray.append_empty, hwritten]
  omega

theorem fills {e : Entry} (h : Walk M codec l room ByteArray.empty e.asked e.answer) :
    e.Fills M codec l.pending room false where
  calls := h.length_le
  once := fun _ => h.length_eq_one
  left := fun h => Bool.noConfusion h
  offers := h.offers
  answers := by
    intro hall
    obtain ⟨before, last, hasked, -, hsettles⟩ := h.settles
    obtain ⟨step, hlast⟩ := hall last (hasked ▸ List.mem_append_right _ (List.mem_singleton_self _))
    cases hanswer : e.answer with
    | ok b => exact .inl ⟨b, rfl⟩
    | error x =>
      rw [hanswer] at hsettles
      exact nomatch hlast.symm.trans hsettles
    | trap t =>
      rw [hanswer] at hsettles
      obtain htrap | ⟨rfl, -, -, ⟨hbears, -⟩, -⟩ := hsettles
      · exact nomatch hlast.symm.trans htrap
      · exact .inr ⟨hbears, rfl⟩
  writes := by
    intro b hanswer
    rw [hanswer] at h
    obtain ⟨before, last, hasked, -, step, hlast, -⟩ := h.settles
    have hall : b = allWritten e.asked := by rw [h.writes, ByteArray.empty_append]
    rw [hasked] at h
    have hadd := h.size_add hlast
    have hle := (h.within last (List.mem_append_right _ (List.mem_singleton_self _)) step hlast).2
    exact ⟨by omega, hall⟩
  short := by
    intro b hanswer hshort
    rw [hanswer] at h
    obtain ⟨before, last, hasked, -, step, hlast, hrests⟩ := h.settles
    rw [hasked] at h
    have hadd := h.size_add hlast
    obtain hend | ⟨hbears, hidle⟩ := hrests.resolve_left (by omega)
    · exact .inr ⟨before, last, step, hasked, hlast, .inl hend⟩
    · have hnothing := (Step.isIdle_iff.mp hidle).2
      exact .inr ⟨before, last, step, hasked, hlast, .inr ⟨hbears, hidle, by omega⟩⟩
  fails := by
    intro x hanswer
    obtain ⟨before, last, hasked, -, hsettles⟩ := h.settles
    rw [hanswer] at hsettles
    exact ⟨before, last, hasked, hsettles⟩
  traps := by
    intro t hanswer
    obtain ⟨before, last, hasked, -, hsettles⟩ := h.settles
    rw [hanswer] at hsettles
    refine ⟨before, last, hasked, hsettles.imp_right ?_⟩
    rintro ⟨htrap, step, hlast, ⟨hbears, hdone, hidle⟩, hroom⟩
    exact ⟨hbears, htrap, step, hlast, hidle, hdone, hroom⟩

end Walk

/-- The engine that gathers its input and packs it at the end stays within what it is offered. -/
theorem Deflate.Encoder.packing_staysWithin (pack : ByteArray → ByteArray) (codec : Codec) :
    ((packing pack).engine codec).StaysWithin := by
  rintro s input room step s' (hcall | hcall)
  · simp only [NativeEncoder.engine, run] at hcall
    split at hcall
    · cases hcall
      exact ⟨Nat.zero_le _, Nat.zero_le _⟩
    · split at hcall
      · cases hcall
        exact ⟨Nat.le_refl _, Nat.zero_le _⟩
      · split at hcall
        · cases hcall
          exact ⟨Nat.zero_le _, Nat.zero_le _⟩
        · exact absurd (congrArg Prod.fst hcall) (NativeEncoder.whileEncoding_ne_ok codec _ step)
  · simp only [NativeEncoder.engine, Deflate.Encoder.finish] at hcall
    split at hcall
    · cases hcall
      exact ⟨Nat.zero_le _, Nat.zero_le _⟩
    · cases hcall
      refine ⟨?_, Slice.size_take_le _ _⟩
      cases s with
      | gathering b => exact Nat.le_refl _
      | sealed owed => exact Nat.zero_le _

/-- The decoder that remembers everything stays within what it is offered. -/
theorem Grammar.decoder_staysWithin (G : Grammar) (codec : Codec) :
    (G.decoder.engine codec).StaysWithin := by
  intro s input room step s' hcall
  have hrun := NativeDecoder.engine_eq_ok.mp hcall
  have hhands {read : ByteArray} {last : Bool} (hread : read.size ≤ s.1.size + input.size)
      (h : G.handOut s read last room = (.ok step, s')) : step.Within input.size room := by
    cases h
    exact ⟨Nat.sub_le_iff_le_add'.mpr hread, Slice.size_take_le _ _⟩
  have hall : (s.1 ++ input.toBytes).size = s.1.size + input.size := by
    rw [ByteArray.size_append, Slice.size_toBytes]
  dsimp only [decoder] at hrun
  split at hrun
  · cases hrun
  · refine hhands ?_ hrun
    rw [ByteArray.size_extract, hall]
    omega
  · exact hhands (Nat.le_of_eq hall) hrun

section Sessions

variable {σ : Type}

def Demand.room : Demand → Nat
  | feed _ room => room
  | close room => room

def Demand.manner : Demand → Manner
  | feed _ _ => .feeding
  | close _ => .closing

/-- Behind the end a call asks nothing and answers with nothing. -/
theorem Watch.Attends.fills_finished {S N : Type} {W : Watch S N} (h : W.Attends) {s : S} {m : N}
    (hwelcome : ¬ W.Misuse s (W.observe s m).1.input) (hfinished : W.finished s = true)
    (M : Manner) (codec : Codec) (p : Pending) (room : Nat) :
    (W.observe s m).1.Fills M codec p room true := by
  obtain ⟨q, -, hleads⟩ := h.served s m hwelcome
  obtain ⟨hasked, -, -⟩ := h.left s m hfinished
  rw [hasked] at hleads
  refine .nothing M codec p room hasked ?_
  cases hanswer : (W.observe s m).1.answer with
  | ok b =>
    rw [hanswer] at hleads
    obtain ⟨-, rfl, -⟩ := hleads
    rfl
  | error e =>
    rw [hanswer] at hleads
    obtain ⟨before, last, hnil, -⟩ := hleads
    exact absurd hnil.symm (List.append_ne_nil_of_right_ne_nil _ (List.cons_ne_nil _ _))
  | trap t =>
    rw [hanswer] at hleads
    exact absurd rfl hleads

theorem Encoder.observe_fills {E : EncodeEngine σ} (hE : E.StaysWithin) {s : Encoder σ} {d : Demand}
    (hwelcome : ¬ (watch E).Misuse s d.input) :
    ∃ p, s.ledger.pending.accept E.codec d.input = .ok p ∧
      (observe E s d).1.Fills d.manner E.codec p d.room s.finished := by
  have hattends := watch_attends E
  obtain ⟨p, haccept, -⟩ := hattends.served s d hwelcome
  refine ⟨p, haccept, ?_⟩
  cases hfinished : s.finished with
  | true => exact hattends.fills_finished hwelcome hfinished ..
  | false =>
    obtain ⟨engine, ledger, finished⟩ := s
    cases hfinished
    cases d with
    | feed input room =>
      have haccept : ledger.pending.accept E.codec input = .ok p := haccept
      rcases hrun : run E.watched (engine, []) { ledger with pending := p } room ByteArray.empty
        with ⟨answer, t⟩
      obtain ⟨asked, hasked, hwalk⟩ :=
        run_walks hE (engine, []) { ledger with pending := p } room ByteArray.empty
      rw [hrun] at hasked hwalk
      rw [observe_open E haccept hrun, show t.engine.2 = asked from hasked]
      exact Walk.fills (e := { input, answer, asked }) hwalk
    | close room =>
      cases haccept
      obtain ⟨asked, hasked, hwalk⟩ := conclude_walks hE (engine, []) ledger room ByteArray.empty
      cases hasked
      exact hwalk.fills

theorem Decoder.observe_fills {D : DecodeEngine σ} (hD : D.StaysWithin) {s : Decoder σ}
    {m : ByteArray × Nat} (hwelcome : ¬ (watch D).Misuse s m.1) :
    ∃ p, s.ledger.pending.accept D.codec m.1 = .ok p ∧
      (observe D s m).1.Fills .decoding D.codec p m.2 s.finished := by
  have hattends := watch_attends D
  obtain ⟨p, haccept, -⟩ := hattends.served s m hwelcome
  refine ⟨p, haccept, ?_⟩
  cases hfinished : s.finished with
  | true => exact hattends.fills_finished hwelcome hfinished ..
  | false =>
    obtain ⟨engine, ledger, finished⟩ := s
    cases hfinished
    obtain ⟨input, room⟩ := m
    have haccept : ledger.pending.accept D.codec input = .ok p := haccept
    rcases hrun : run D.watched (engine, []) { ledger with pending := p } room ByteArray.empty
      with ⟨answer, t⟩
    obtain ⟨asked, hasked, hwalk⟩ :=
      run_walks hD (engine, []) { ledger with pending := p } room ByteArray.empty
    rw [hrun] at hasked hwalk
    rw [observe_open D haccept hrun, show t.engine.2 = asked from hasked]
    exact Walk.fills (e := { input, answer, asked }) hwalk

/-- How the calls of a kind of session go about their windows, from whatever state. -/
structure Watch.Fills {S N : Type} (W : Watch S N) (manner : N → Manner) (room : N → Nat) :
    Prop where
  faithful : ∀ s m, W.perform s m = ((W.observe s m).1.answer, (W.observe s m).2)
  refused : ∀ s m, W.Misuse s (W.observe s m).1.input →
    (W.observe s m).1.asked = [] ∧ (W.observe s m).1.answer = .trap (W.complaint s)
  served : ∀ s m, ¬ W.Misuse s (W.observe s m).1.input →
    ∃ p, (W.ledger s).pending.accept W.codec (W.observe s m).1.input = .ok p ∧
      (W.observe s m).1.Fills (manner m) W.codec p (room m) (W.finished s)

/-- Bounded calls stop in time over every engine that stays within what it is offered, and are
short for no other reasons than that there is nothing more to say. -/
theorem Watch.fills_within {E : EncodeEngine σ} (hE : E.StaysWithin) {τ : Type}
    {D : DecodeEngine τ} (hD : D.StaysWithin) :
    (Encoder.watch E).Fills Demand.manner Demand.room ∧
      (Decoder.watch D).Fills (fun _ => .decoding) Prod.snd := by
  have hencoder := Encoder.watch_attends E
  have hdecoder := Decoder.watch_attends D
  refine ⟨⟨hencoder.faithful, ?_, ?_⟩, ⟨hdecoder.faithful, ?_, ?_⟩⟩
  · intro s d hmisuse
    obtain ⟨hasked, hanswer, -⟩ := hencoder.refused s d hmisuse
    exact ⟨hasked, hanswer⟩
  · intro s d hwelcome
    exact Encoder.observe_fills hE hwelcome
  · intro s m hmisuse
    obtain ⟨hasked, hanswer, -⟩ := hdecoder.refused s m hmisuse
    exact ⟨hasked, hanswer⟩
  · intro s m hwelcome
    exact Decoder.observe_fills hD hwelcome

/-- A line that is packed into a wide window and read back into one. Both answers are short. -/
theorem Watch.fills_within_line :
    let E := (Deflate.Encoder.packing Deflate.Dialect.pack).engine .deflate
    let D := Deflate.Dialect.grammar.decoder.engine .deflate
    let line := Bytes.ofList Deflate.Dialect.line
    let packed := Bytes.ofList Deflate.Dialect.packedLine
    let fed := (Encoder.observe E { engine := .empty } (.feed line 4)).2
    let sealed := (Encoder.observe E fed (.close 20)).1
    let read := (Decoder.observe D { engine := (ByteArray.empty, ByteArray.empty) } (packed, 10)).1
    E.StaysWithin ∧ D.StaysWithin ∧
      sealed.answer = .ok packed ∧ sealed.Fills .closing .deflate fed.ledger.pending 20 false ∧
      read.answer = .ok line ∧
      read.Fills .decoding .deflate { bytes := packed, used := 0, used_le := Nat.zero_le _ } 10
        false := by
  intro E D line packed fed sealed read
  have hE : E.StaysWithin := Deflate.Encoder.packing_staysWithin _ _
  have hD : D.StaysWithin := Deflate.Dialect.grammar.decoder_staysWithin _
  obtain ⟨hencoder, hdecoder⟩ := Watch.fills_within hE hD
  have hopen : fed.finished = false := by decide +kernel
  have hsealed : sealed.answer = .ok packed := by decide +kernel
  have hread : read.answer = .ok line := by decide +kernel
  obtain ⟨p, haccept, hfills⟩ := hencoder.served fed (.close 20) fun h => h.1 rfl
  cases haccept
  obtain ⟨q, haccept', hfills'⟩ := hdecoder.served
    { engine := (ByteArray.empty, ByteArray.empty) } (packed, 10)
    fun h => h.2.elim (fun h => h rfl) Bool.false_ne_true
  cases haccept'
  have hfills : sealed.Fills .closing .deflate fed.ledger.pending 20 fed.finished := hfills
  rw [hopen] at hfills
  exact ⟨hE, hD, hsealed, hfills, hread, hfills'⟩

end Sessions

end StreamCodec
