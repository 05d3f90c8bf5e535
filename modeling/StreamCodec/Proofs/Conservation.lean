import StreamCodec.Proofs.Watching

/-!
No byte of the input is lost or read twice, and none of the output, whatever the engine does.
A bounded call moves the cursor and the totals by those of its steps that succeed, and so the
books of a session stand for all that it was fed so far. The only calls that are refused
before the engine is asked are those that bring input too early or too late.
-/

namespace StreamCodec

open Asked Schedule

namespace Ledger

/-- From `l` to `l'` by steps that were booked: what they took was in front of what is left. -/
structure Accounts (l l' : Ledger) (asked : List Asked) : Prop where
  split : allTaken asked ++ l'.pending.remaining.toBytes = l.pending.remaining.toBytes
  bytes : l'.pending.bytes = l.pending.bytes
  stats : l'.stats = l.stats.record (allTaken asked).size (allWritten asked).size

/-- A run of steps from `l` that comes to an answer in `l'`, with `out` from the steps before. A
step that fails is the last, and has moved nothing. -/
def Leads (l l' : Ledger) (out : ByteArray) (asked : List Asked) : Outcome ByteArray → Prop
  | .ok b => (∀ c ∈ asked, c.Succeeds) ∧ b = out ++ allWritten asked ∧ l.Accounts l' asked
  | .error e => ∃ before last, asked = before ++ [last] ∧ last.answer = .error e ∧
      (∀ c ∈ before, c.Succeeds) ∧ l.Accounts l' before
  | .trap _ => asked ≠ []

variable {l l' l'' : Ledger} {step : Step} {room : Nat} {out : ByteArray} {asked : List Asked}

theorem Accounts.refl (l : Ledger) : l.Accounts l [] := ⟨ByteArray.empty_append, rfl, rfl⟩

/-- One step in front. -/
theorem Accounts.behind (hbook : l.book step room = .ok l') (h : l'.Accounts l'' asked) :
    l.Accounts l'' (.mk l.pending.remaining room (.ok step) :: asked) := by
  obtain ⟨⟨hle, -⟩, -, hstats⟩ := book_inv hbook
  have htaken : (l.pending.remaining.take step.consumed).size = step.consumed := by
    rw [Slice.size_take, Pending.size_remaining, Nat.min_eq_left hle]
  refine ⟨?_, h.bytes.trans (book_bytes hbook), ?_⟩
  · show l.pending.remaining.take step.consumed ++ allTaken asked ++ _ = _
    rw [ByteArray.append_assoc, h.split, take_append_remaining hbook]
  · rw [h.stats, hstats]
    simp only [Stats.record, allTaken_cons, allWritten_cons, Asked.taken, Asked.written,
      ByteArray.size_append, htaken, Nat.add_assoc]

/-- The books balance behind any number of steps. -/
theorem Accounts.used (h : l.Accounts l' asked) :
    l'.pending.used + l'.pending.unread = l.pending.bytes.size := by
  have hle := l'.pending.used_le
  rw [← h.bytes]
  simp only [Pending.unread]
  omega

/-- One step in front. -/
theorem Leads.behind (hbook : l.book step room = .ok l') {answer : Outcome ByteArray}
    (h : l'.Leads l'' (out ++ step.output) asked answer) :
    l.Leads l'' out (.mk l.pending.remaining room (.ok step) :: asked) answer := by
  have hstep : (Asked.mk l.pending.remaining room (.ok step)).Succeeds := ⟨step, rfl⟩
  cases answer with
  | ok b =>
    obtain ⟨hall, rfl, haccounts⟩ := h
    refine ⟨List.forall_mem_cons.mpr ⟨hstep, hall⟩, ?_, haccounts.behind hbook⟩
    exact ByteArray.append_assoc
  | error e =>
    obtain ⟨before, last, rfl, hlast, hall, haccounts⟩ := h
    exact ⟨_ :: before, last, rfl, hlast, List.forall_mem_cons.mpr ⟨hstep, hall⟩,
      haccounts.behind hbook⟩
  | trap t => exact List.cons_ne_nil _ _

/-- What a loop over a watched engine has put on the log, and what it has come to. -/
def Logs (l : Ledger) (out : ByteArray) (log log' : List Asked) (l' : Ledger)
    (answer : Outcome ByteArray) : Prop :=
  ∃ asked, log' = log ++ asked ∧ asked ≠ [] ∧ l.Leads l' out asked answer

variable {log log' : List Asked}

theorem Logs.failed {e : Error}
    (hlog : log' = log ++ [.mk l.pending.remaining room (.error e)]) :
    l.Logs out log log' l (.error e) :=
  ⟨_, hlog, List.cons_ne_nil _ _, [], _, rfl, rfl, List.forall_mem_nil _, .refl l⟩

theorem Logs.trapped {answer : Outcome Step} (t : Trap)
    (hlog : log' = log ++ [.mk l.pending.remaining room answer]) :
    l.Logs out log log' l' (.trap t) :=
  ⟨_, hlog, List.cons_ne_nil _ _, List.cons_ne_nil _ _⟩

theorem Logs.landed (hbook : l.book step room = .ok l')
    (hlog : log' = log ++ [.mk l.pending.remaining room (.ok step)]) :
    l.Logs out log log' l' (.ok (out ++ step.output)) := by
  have hnone : l'.Leads l' (out ++ step.output) [] (.ok (out ++ step.output)) :=
    ⟨List.forall_mem_nil _, ByteArray.append_empty.symm, .refl l'⟩
  exact ⟨_, hlog, List.cons_ne_nil _ _, hnone.behind hbook⟩

theorem Logs.behind (hbook : l.book step room = .ok l')
    (hlog : log' = log ++ [.mk l.pending.remaining room (.ok step)]) {log'' : List Asked}
    {answer : Outcome ByteArray} (h : l'.Logs (out ++ step.output) log' log'' l'' answer) :
    l.Logs out log log'' l'' answer := by
  obtain ⟨asked, hasked, -, hleads⟩ := h
  refine ⟨_ :: asked, ?_, List.cons_ne_nil _ _, hleads.behind hbook⟩
  rw [hasked, hlog, List.append_assoc]
  rfl

end Ledger

section Loops

variable {σ : Type}

open Ledger

theorem Encoder.run_logs (E : EncodeEngine σ) (t : σ × List Asked) (l : Ledger) (room : Nat)
    (out : ByteArray) :
    l.Logs out t.2 (run E.watched t l room out).2.engine.2 (run E.watched t l room out).2.ledger
      (run E.watched t l room out).1 := by
  fun_induction run E.watched t l room out with
  | case1 t l room out e t' hcall => exact .failed (EncodeEngine.watched_log .encode hcall)
  | case2 t l room out x t' hcall => exact .trapped x (EncodeEngine.watched_log .encode hcall)
  | case3 t l room out step t' hcall e hbook => exact absurd hbook (book_ne_error l step room e)
  | case4 t l room out step t' hcall x hbook =>
    exact .trapped x (EncodeEngine.watched_log .encode hcall)
  | case5 t l out step t' l' hcall hbook =>
    exact .landed hbook (EncodeEngine.watched_log .encode hcall)
  | case6 t l room out step t' hcall l' hbook =>
    exact .landed hbook (EncodeEngine.watched_log .encode hcall)
  | case7 t l room out step t' hcall l' hbook _ _ ih =>
    exact .behind hbook (EncodeEngine.watched_log .encode hcall) ih

theorem Encoder.conclude_logs (E : EncodeEngine σ) (t : σ × List Asked) (l : Ledger) (room : Nat)
    (out : ByteArray) :
    l.Logs out t.2 (conclude E.watched t l room out).2.engine.2
      (conclude E.watched t l room out).2.ledger (conclude E.watched t l room out).1 := by
  fun_induction conclude E.watched t l room out with
  | case1 t l room out e t' hcall => exact .failed (EncodeEngine.watched_log .finish hcall)
  | case2 t l room out x t' hcall => exact .trapped x (EncodeEngine.watched_log .finish hcall)
  | case3 t l room out step t' hcall e hbook => exact absurd hbook (book_ne_error l step room e)
  | case4 t l room out step t' hcall x hbook =>
    exact .trapped x (EncodeEngine.watched_log .finish hcall)
  | case5 t l room out step t' hcall l' hbook =>
    exact .landed hbook (EncodeEngine.watched_log .finish hcall)
  | case6 t l out step t' l' _ hcall hbook =>
    exact .landed hbook (EncodeEngine.watched_log .finish hcall)
  | case7 t l room out step t' hcall l' hbook =>
    exact .trapped _ (EncodeEngine.watched_log .finish hcall)
  | case8 t l room out step t' hcall l' hbook _ _ _ ih =>
    exact .behind hbook (EncodeEngine.watched_log .finish hcall) ih

theorem Decoder.run_logs (E : DecodeEngine σ) (t : σ × List Asked) (l : Ledger) (room : Nat)
    (out : ByteArray) :
    l.Logs out t.2 (run E.watched t l room out).2.engine.2 (run E.watched t l room out).2.ledger
      (run E.watched t l room out).1 := by
  fun_induction run E.watched t l room out with
  | case1 t l room out e t' hcall => exact .failed (DecodeEngine.watched_log hcall)
  | case2 t l room out x t' hcall => exact .trapped x (DecodeEngine.watched_log hcall)
  | case3 t l room out step t' hcall e hbook => exact absurd hbook (book_ne_error l step room e)
  | case4 t l room out step t' hcall x hbook => exact .trapped x (DecodeEngine.watched_log hcall)
  | case5 t l room out step t' hcall l' hbook =>
    exact .landed hbook (DecodeEngine.watched_log hcall)
  | case6 t l out step t' l' _ hcall hbook => exact .landed hbook (DecodeEngine.watched_log hcall)
  | case7 t l room out step t' hcall l' hbook =>
    exact .landed hbook (DecodeEngine.watched_log hcall)
  | case8 t l room out step t' hcall l' hbook _ _ _ ih =>
    exact .behind hbook (DecodeEngine.watched_log hcall) ih

end Loops

def Entry.span (entries : List Entry) : ByteArray :=
  entries.foldl (fun span e => if e.input.size = 0 then span else e.input) ByteArray.empty

def Entry.moved (e : Entry) : Nat :=
  match e.answer with
  | .ok b => b.size
  | .error _ => (allWritten e.asked.dropLast).size
  | .trap _ => 0

def Entry.total (entries : List Entry) : Nat := entries.foldl (fun n e => n + e.moved) 0

/-- What the ledger of a session says behind the calls it got. -/
structure Books (entries : List Entry) (l : Ledger) : Prop where
  taken : allTaken (entries.flatMap Entry.asked) ++ l.pending.remaining.toBytes =
    joined (entries.map Entry.input)
  bytesIn : l.stats.bytesIn + l.pending.unread = (joined (entries.map Entry.input)).size
  used : l.pending.used + l.pending.unread = (Entry.span entries).size
  bytesOut : l.stats.bytesOut = Entry.total entries

theorem books_fresh : Books [] {} := ⟨rfl, rfl, rfl, rfl⟩

/-- A step that fails takes nothing and writes nothing. -/
theorem allTaken_concat_error {before : List Asked} {last : Asked} {e : Error}
    (h : last.answer = .error e) : allTaken (before ++ [last]) = allTaken before := by
  obtain ⟨input, room, answer⟩ := last
  cases h
  rw [allTaken_append]
  exact ByteArray.append_empty

/-- The steps that count are all of them, or all but the one that failed. -/
theorem Ledger.Leads.counted {l l' : Ledger} {e : Entry}
    (h : l.Leads l' ByteArray.empty e.asked e.answer) (hlands : ∀ t, e.answer ≠ .trap t) :
    ∃ counted, l.Accounts l' counted ∧ allTaken e.asked = allTaken counted ∧
      e.moved = (allWritten counted).size := by
  cases hanswer : e.answer with
  | ok b =>
    rw [hanswer] at h
    obtain ⟨-, hb, haccounts⟩ := h
    refine ⟨e.asked, haccounts, rfl, ?_⟩
    simp only [Entry.moved, hanswer, hb, ByteArray.empty_append]
  | error x =>
    rw [hanswer] at h
    obtain ⟨before, last, hasked, hlast, -, haccounts⟩ := h
    refine ⟨before, haccounts, ?_, ?_⟩
    · rw [hasked, allTaken_concat_error hlast]
    · simp only [Entry.moved, hanswer, hasked, List.dropLast_concat]
  | trap t => exact absurd hanswer (hlands t)

/-- One more call, whose input was accepted and which was not trapped. -/
theorem Books.concat {entries : List Entry} {l l' : Ledger} {p : Pending} {codec : Codec}
    {e : Entry} (h : Books entries l) (haccept : l.pending.accept codec e.input = .ok p)
    (hleads : Ledger.Leads { l with pending := p } l' ByteArray.empty e.asked e.answer)
    (hlands : ∀ t, e.answer ≠ .trap t) : Books (entries ++ [e]) l' := by
  have hinputs : joined ((entries ++ [e]).map Entry.input) =
      joined (entries.map Entry.input) ++ e.input := by
    rw [List.map_append, joined_append, List.map_singleton, joined_cons, joined_nil,
      ByteArray.append_empty]
  have hspan : Entry.span (entries ++ [e]) =
      if e.input.size = 0 then Entry.span entries else e.input := by
    rw [Entry.span, List.foldl_append, Entry.span]
    rfl
  have hmoved : Entry.total (entries ++ [e]) = Entry.total entries + e.moved := by
    rw [Entry.total, List.foldl_append]
    rfl
  obtain ⟨counted, haccounts, htaken, hwritten⟩ := hleads.counted hlands
  have hrest := Pending.accept_inv haccept
  have hsplit := haccounts.split
  have hstats := haccounts.stats
  have hwhole : allTaken ((entries ++ [e]).flatMap Entry.asked) ++ l'.pending.remaining.toBytes =
      joined (entries.map Entry.input) ++ e.input := by
    rw [List.flatMap_append, List.flatMap_singleton, allTaken_append, htaken,
      ByteArray.append_assoc, hsplit, hrest, ← ByteArray.append_assoc, h.taken]
  refine ⟨hwhole.trans hinputs.symm, ?_, ?_, ?_⟩
  · have hbefore := h.bytesIn
    have hsize := congrArg ByteArray.size (hsplit.trans hrest)
    rw [ByteArray.size_append, ByteArray.size_append, Slice.size_toBytes, Slice.size_toBytes,
      Pending.size_remaining, Pending.size_remaining] at hsize
    rw [hinputs, ByteArray.size_append, hstats]
    simp only [Stats.bytesIn_record]
    omega
  · rw [haccounts.used, hspan, Pending.accept_bytes haccept]
    have hbefore := h.used
    have hle := l.pending.used_le
    simp only [Pending.unread] at hbefore
    split
    · omega
    · rfl
  · rw [hmoved, hwritten, hstats, ← h.bytesOut]
    rfl

/-- A kind of session, with calls of kind `M`, under watch. -/
structure Watch (S M : Type) where
  codec : Codec
  perform : S → M → Outcome ByteArray × S
  observe : S → M → Entry × S
  ledger : S → Ledger
  finished : S → Bool
  closed : S → Bool

namespace Watch

variable {S M : Type}

/-- Input that comes before the earlier input is used up, or when none is welcome any more. -/
def Misuse (W : Watch S M) (s : S) (input : ByteArray) : Prop :=
  input.size ≠ 0 ∧ ((W.ledger s).pending.unread ≠ 0 ∨ W.closed s = true)

def complaint (W : Watch S M) (s : S) : Trap :=
  if W.closed s then .inputAfterFinish W.codec
  else .inputPending W.codec (W.ledger s).pending.unread

theorem of_not_misuse {W : Watch S M} {s : S} {input : ByteArray} (h : ¬ W.Misuse s input) :
    input.size = 0 ∨ ((W.ledger s).pending.unread = 0 ∧ W.closed s = false) := by
  by_cases hinput : input.size = 0
  · exact .inl hinput
  · obtain ⟨hunread, hopen⟩ := not_or.mp (not_and.mp h hinput)
    exact .inr ⟨not_not.mp hunread, Bool.eq_false_iff.mpr hopen⟩

structure Attends (W : Watch S M) : Prop where
  faithful : ∀ s m, W.perform s m = ((W.observe s m).1.answer, (W.observe s m).2)
  refused : ∀ s m, W.Misuse s (W.observe s m).1.input →
    (W.observe s m).1.asked = [] ∧ (W.observe s m).1.answer = .trap (W.complaint s) ∧
      (W.observe s m).2 = s
  served : ∀ s m, ¬ W.Misuse s (W.observe s m).1.input → ∃ p,
    (W.ledger s).pending.accept W.codec (W.observe s m).1.input = .ok p ∧
      Ledger.Leads { W.ledger s with pending := p } (W.ledger (W.observe s m).2) ByteArray.empty
        (W.observe s m).1.asked (W.observe s m).1.answer
  left : ∀ s m, W.finished s = true →
    (W.observe s m).1.asked = [] ∧ W.finished (W.observe s m).2 = true ∧
      (W.ledger (W.observe s m).2).stats = (W.ledger s).stats

/-- A session that starts in `fresh` keeps its books, call by call and for all calls so far. -/
structure Conserves (W : Watch S M) (fresh : S) : Prop where
  faithful : ∀ s m, W.perform s m = ((W.observe s m).1.answer, (W.observe s m).2)
  books : ∀ ms, (∀ e ∈ (each W.observe fresh ms).1, ∀ t, e.answer ≠ .trap t) →
    Books (each W.observe fresh ms).1 (W.ledger (each W.observe fresh ms).2)
  failed : ∀ s m e, (W.observe s m).1.answer = .error e → ∃ p before last,
    (W.ledger s).pending.accept W.codec (W.observe s m).1.input = .ok p ∧
      (W.observe s m).1.asked = before ++ [last] ∧ last.answer = .error e ∧
      (∀ c ∈ before, c.Succeeds) ∧
      Ledger.Accounts { W.ledger s with pending := p } (W.ledger (W.observe s m).2) before
  misused : ∀ s m,
    ((W.observe s m).1.asked = [] ∧ ∃ t, (W.observe s m).1.answer = .trap t) ↔
      W.Misuse s (W.observe s m).1.input
  refused : ∀ s m, W.Misuse s (W.observe s m).1.input →
    (W.observe s m).1.answer = .trap (W.complaint s) ∧ (W.observe s m).2 = s
  left : ∀ s m, W.finished s = true →
    (W.observe s m).1.asked = [] ∧ W.finished (W.observe s m).2 = true ∧
      (W.ledger (W.observe s m).2).stats = (W.ledger s).stats

/-- Every call that is not trapped keeps the books. -/
theorem Attends.books {W : Watch S M} (h : W.Attends) {entries : List Entry} {s : S}
    (hbooks : Books entries (W.ledger s)) (ms : List M)
    (hlands : ∀ e ∈ (each W.observe s ms).1, ∀ t, e.answer ≠ .trap t) :
    Books (entries ++ (each W.observe s ms).1) (W.ledger (each W.observe s ms).2) := by
  induction ms generalizing entries s with
  | nil =>
    rw [each_nil, List.append_nil]
    exact hbooks
  | cons m ms ih =>
    rw [each_cons] at hlands ⊢
    obtain ⟨hfirst, hlater⟩ := List.forall_mem_cons.mp hlands
    have hwelcome : ¬ W.Misuse s (W.observe s m).1.input :=
      fun hmisuse => hfirst _ (h.refused s m hmisuse).2.1
    obtain ⟨p, haccept, hleads⟩ := h.served s m hwelcome
    have hnext := ih (hbooks.concat haccept hleads hfirst) hlater
    rw [List.append_assoc] at hnext
    exact hnext

theorem Attends.answers {W : Watch S M} (h : W.Attends) (s : S) (ms : List M) :
    each W.perform s ms = ((each W.observe s ms).1.map Entry.answer, (each W.observe s ms).2) := by
  induction ms generalizing s with
  | nil => rfl
  | cons m ms ih => rw [each_cons, each_cons, h.faithful, ih, List.map_cons]

theorem Attends.conserves {W : Watch S M} (h : W.Attends) {fresh : S}
    (hfresh : W.ledger fresh = {}) :
    W.Conserves fresh where
  faithful := h.faithful
  books := by
    intro ms hlands
    have hbooks : Books [] (W.ledger fresh) := by
      rw [hfresh]
      exact books_fresh
    exact h.books hbooks ms hlands
  failed := by
    intro s m e herror
    have hwelcome : ¬ W.Misuse s (W.observe s m).1.input := by
      intro hmisuse
      rw [(h.refused s m hmisuse).2.1] at herror
      cases herror
    obtain ⟨p, haccept, hleads⟩ := h.served s m hwelcome
    rw [herror] at hleads
    obtain ⟨before, last, hasked, hlast, hall, haccounts⟩ := hleads
    exact ⟨p, before, last, haccept, hasked, hlast, hall, haccounts⟩
  misused := by
    intro s m
    constructor
    · rintro ⟨hnone, t, htrap⟩
      by_contra hwelcome
      obtain ⟨p, -, hleads⟩ := h.served s m hwelcome
      rw [htrap] at hleads
      exact hleads hnone
    · intro hmisuse
      obtain ⟨hnone, htrap, -⟩ := h.refused s m hmisuse
      exact ⟨hnone, _, htrap⟩
  refused := fun s m hmisuse => (h.refused s m hmisuse).2
  left := h.left

end Watch

section Sessions

variable {σ : Type}

/-- A call that asks nothing of its engine leaves the ledger as it is. -/
theorem Ledger.Leads.nothing (l : Ledger) : l.Leads l ByteArray.empty [] (.ok ByteArray.empty) :=
  ⟨List.forall_mem_nil _, ByteArray.empty_append.symm, .refl l⟩

/-- The log of a call starts out empty. -/
theorem Ledger.Logs.leads {l l' : Ledger} {out : ByteArray} {asked : List Asked}
    {answer : Outcome ByteArray} (h : l.Logs out [] asked l' answer) :
    l.Leads l' out asked answer := by
  obtain ⟨_, rfl, -, hleads⟩ := h
  exact hleads

def Encoder.watch (E : EncodeEngine σ) : Watch (Encoder σ) Demand where
  codec := E.codec
  perform := perform E
  observe := observe E
  ledger := ledger
  finished := finished
  closed := finished

def Decoder.watch (E : DecodeEngine σ) : Watch (Decoder σ) (ByteArray × Nat) where
  codec := E.codec
  perform := perform E
  observe := observe E
  ledger := ledger
  finished := finished
  closed _ := false

theorem Encoder.observe_feed_leads (E : EncodeEngine σ) (engine : σ) {ledger : Ledger} {q : Pending}
    {input : ByteArray} (haccept : ledger.pending.accept E.codec input = .ok q) (room : Nat) :
    let r := observe E { engine, ledger } (.feed input room)
    Ledger.Leads { ledger with pending := q } r.2.ledger ByteArray.empty r.1.asked r.1.answer := by
  have hlogs := run_logs E (engine, []) { ledger with pending := q } room ByteArray.empty
  rcases hrun : run E.watched (engine, []) { ledger with pending := q } room ByteArray.empty
    with ⟨answer, t⟩
  rw [hrun] at hlogs
  rw [observe_open E haccept hrun]
  exact hlogs.leads

theorem Encoder.watch_refused (E : EncodeEngine σ) (s : Encoder σ) (d : Demand)
    (h : (watch E).Misuse s d.input) :
    (observe E s d).1.asked = [] ∧ (observe E s d).1.answer = .trap ((watch E).complaint s) ∧
      (observe E s d).2 = s := by
  obtain ⟨hinput, hmisuse⟩ := h
  cases d with
  | close room => exact absurd rfl hinput
  | feed input room =>
    replace hinput : input.size ≠ 0 := hinput
    cases hfinished : s.finished with
    | true =>
      have hcomplaint : (watch E).complaint s = .inputAfterFinish E.codec := if_pos hfinished
      rw [hcomplaint, observe_late E hfinished hinput room]
      exact ⟨rfl, rfl, rfl⟩
    | false =>
      have hopen : ¬ (watch E).closed s = true := Bool.not_eq_true _ ▸ hfinished
      have hunread : s.ledger.pending.unread ≠ 0 := hmisuse.resolve_right hopen
      have hcomplaint : (watch E).complaint s =
          .inputPending E.codec s.ledger.pending.unread := if_neg hopen
      rw [hcomplaint, observe_early E hfinished hinput hunread room]
      exact ⟨rfl, rfl, rfl⟩

theorem Encoder.watch_served (E : EncodeEngine σ) (s : Encoder σ) (d : Demand)
    (h : ¬ (watch E).Misuse s d.input) :
    ∃ p, s.ledger.pending.accept E.codec d.input = .ok p ∧
      Ledger.Leads { s.ledger with pending := p } (observe E s d).2.ledger ByteArray.empty
        (observe E s d).1.asked (observe E s d).1.answer := by
  have hwelcome := Watch.of_not_misuse h
  obtain ⟨engine, ledger, finished⟩ := s
  cases d with
  | feed input room =>
    cases finished with
    | true =>
      have hinput : input.size = 0 := hwelcome.resolve_right fun h => Bool.noConfusion h.2
      refine ⟨ledger.pending, if_pos hinput, ?_⟩
      rw [observe_finished E rfl hinput room]
      exact .nothing ledger
    | false =>
      obtain ⟨q, haccept, -⟩ := Pending.accept_ok E.codec (hwelcome.imp_right And.left)
      exact ⟨q, haccept, observe_feed_leads E engine haccept room⟩
  | close room =>
    refine ⟨ledger.pending, Pending.accept_empty _ _, ?_⟩
    cases finished with
    | true => exact .nothing ledger
    | false => exact (conclude_logs E (engine, []) ledger room ByteArray.empty).leads

theorem Encoder.watch_left (E : EncodeEngine σ) (s : Encoder σ) (d : Demand)
    (h : s.finished = true) :
    (observe E s d).1.asked = [] ∧ (observe E s d).2.finished = true ∧
      (observe E s d).2.ledger.stats = s.ledger.stats := by
  cases d with
  | close room =>
    obtain ⟨engine, ledger, finished⟩ := s
    cases h
    exact ⟨rfl, rfl, rfl⟩
  | feed input room =>
    by_cases hinput : input.size = 0
    · rw [observe_finished E h hinput room]
      exact ⟨rfl, h, rfl⟩
    · rw [observe_late E h hinput room]
      exact ⟨rfl, h, rfl⟩

theorem Encoder.watch_attends (E : EncodeEngine σ) : (watch E).Attends where
  faithful := perform_eq E
  refused := watch_refused E
  served := watch_served E
  left := watch_left E

theorem Decoder.observe_leads (E : DecodeEngine σ) (engine : σ) {ledger : Ledger} {q : Pending}
    {input : ByteArray} (haccept : ledger.pending.accept E.codec input = .ok q) (finished : Bool)
    (room : Nat) :
    let r := observe E { engine, ledger, finished } (input, room)
    Ledger.Leads { ledger with pending := q } r.2.ledger ByteArray.empty r.1.asked r.1.answer := by
  cases finished with
  | true =>
    rw [observe_finished E engine haccept room]
    exact .nothing { ledger with pending := q }
  | false =>
    have hlogs := run_logs E (engine, []) { ledger with pending := q } room ByteArray.empty
    rcases hrun : run E.watched (engine, []) { ledger with pending := q } room ByteArray.empty
      with ⟨answer, t⟩
    rw [hrun] at hlogs
    rw [observe_open E haccept hrun]
    exact hlogs.leads

theorem Decoder.watch_left (E : DecodeEngine σ) (s : Decoder σ) (m : ByteArray × Nat)
    (h : s.finished = true) :
    (observe E s m).1.asked = [] ∧ (observe E s m).2.finished = true ∧
      (observe E s m).2.ledger.stats = s.ledger.stats := by
  obtain ⟨input, room⟩ := m
  by_cases hinput : input.size = 0 ∨ s.ledger.pending.unread = 0
  · obtain ⟨engine, ledger, finished⟩ := s
    cases h
    obtain ⟨q, haccept, -⟩ := Pending.accept_ok E.codec hinput
    rw [observe_finished E engine haccept room]
    exact ⟨rfl, rfl, rfl⟩
  · obtain ⟨hinput, hunread⟩ := not_or.mp hinput
    rw [observe_early E hinput hunread room]
    exact ⟨rfl, h, rfl⟩

theorem Decoder.watch_attends (E : DecodeEngine σ) : (watch E).Attends where
  faithful := perform_eq E
  refused := by
    rintro s ⟨input, room⟩ ⟨hinput, hmisuse⟩
    replace hinput : input.size ≠ 0 := hinput
    have hunread : s.ledger.pending.unread ≠ 0 := hmisuse.resolve_right Bool.false_ne_true
    rw [show (watch E).observe s _ = _ from observe_early E hinput hunread room]
    exact ⟨rfl, rfl, rfl⟩
  served := by
    rintro s ⟨input, room⟩ hwelcome
    obtain ⟨q, haccept, -⟩ :=
      Pending.accept_ok E.codec ((Watch.of_not_misuse hwelcome).imp_right And.left)
    exact ⟨q, haccept, observe_leads E s.engine haccept s.finished room⟩
  left := watch_left E

/-- What a session was fed is what its engine has taken and what is left. -/
theorem Encoder.each_total (E : EncodeEngine σ) (engine : σ) {ds : List Demand}
    {answers : List (Outcome ByteArray)} {s : Encoder σ}
    (hrun : each (perform E) { engine } ds = (answers, s))
    (hlands : ∀ answer ∈ answers, ∀ t, answer ≠ .trap t) :
    s.stats.bytesIn + s.ledger.pending.unread = (joined (ds.map Demand.input)).size := by
  have hattends := watch_attends E
  have hinputs : (each (observe E) { engine } ds).1.map Entry.input = ds.map Demand.input :=
    each_map (f := Entry.input) (g := Demand.input) (fun _ _ => rfl) _ ds
  have hobserve := (hattends.answers { engine } ds).symm.trans hrun
  obtain ⟨hanswers, hlast⟩ := Prod.mk.inj hobserve
  have hbooks := hattends.books (s := { engine }) books_fresh ds ?_
  · rw [List.nil_append, hlast] at hbooks
    rw [← hinputs]
    exact hbooks.bytesIn
  · intro e hmem
    exact hlands _ (hanswers ▸ List.mem_map_of_mem hmem)

/-- Sessions of either kind conserve their bytes, over any engine. -/
theorem Watch.conserves_fresh (E : EncodeEngine σ) (engine : σ) {τ : Type} (D : DecodeEngine τ)
    (engine' : τ) :
    (Encoder.watch E).Conserves { engine } ∧ (Decoder.watch D).Conserves { engine := engine' } :=
  ⟨(Encoder.watch_attends E).conserves rfl, (Decoder.watch_attends D).conserves rfl⟩

end Sessions

end StreamCodec
