import StreamCodec.Proofs.Dialect
import StreamCodec.Proofs.Failing
import StreamCodec.Proofs.Taping

/-!
What a compressor asks of its native encoder, however the compressor is called. The native
encoder is fed and then asked to finish, in ways that the format permits. Whenever it is asked to
finish, it is offered all that is left of the input, and behind its end it is left alone. An
encoder that answers such calls is never refused and never gets stuck, so the compressor does not
either.
-/

namespace StreamCodec

open EncodeEngine Schedule

/-- The calls on a log are in order: those that feed come before those that finish, each of them is
permitted by the format, those that finish are offered all that is left of `data`, which is the
back of `span`, and there is nothing behind one that reports the end. -/
structure Call.Legal (codec : Codec) (data span : ByteArray) (log : List Call) : Prop where
  ordered : ∃ runs closes, log = runs ++ closes ∧ (∀ c ∈ runs, c.request = .encode) ∧
    ∀ c ∈ closes, c.request = .finish
  permitted : ∀ before c after, log = before ++ c :: after →
    codec.Permits c.request (allTaken before) c.input c.room
  rest : ∀ before c after, log = before ++ c :: after → c.request = .finish →
    allTaken before ++ c.input = data ∧ ∃ front, front ++ c.input = span
  ended : ∀ before c after, log = before ++ c :: after → c.ends = true → after = []

section Logs

variable {N : NativeEncoder} {codec : Codec} {P : Permits} {stage : Stage}
  {taken written : ByteArray} {t : N.State × List Call}

theorem taken_of_reached
    (h : (N.recorded.engine codec).Reached N.recorded.fresh P stage taken written t) :
    Call.allTaken t.2 = taken := by
  induction h with
  | fresh => rfl
  | call before hallows hpermits hcall hwithin ih =>
    rw [NativeEncoder.log_of_call hcall, Call.allTaken_concat, ih, Slice.take_eq_extract]
    rfl

/-- The calls on the log are the ones that are permitted. -/
theorem permitted_of_reached
    (h : (N.recorded.engine codec).Reached N.recorded.fresh P stage taken written t) :
    ∀ before c after, t.2 = before ++ c :: after →
      P c.request (Call.allTaken before) c.input c.room := by
  induction h with
  | fresh =>
    intro before c after hlog
    cases before <;> cases hlog
  | call hbefore hallows hpermits hcall hwithin ih =>
    intro before c after hlog
    rw [NativeEncoder.log_of_call hcall] at hlog
    obtain ⟨rfl, rfl⟩ | ⟨more, hmore⟩ := Logged.split_concat hlog
    · rw [taken_of_reached hbefore]
      exact hpermits
    · exact ih before c more hmore

/-- An encoder that is asked to finish is not fed any more. -/
theorem ordered_of_reached
    (h : (N.recorded.engine codec).Reached N.recorded.fresh P stage taken written t) :
    ∃ runs closes, t.2 = runs ++ closes ∧ (∀ c ∈ runs, c.request = .encode) ∧
      (∀ c ∈ closes, c.request = .finish) ∧ (stage = .feeding → closes = []) := by
  induction h with
  | fresh => exact ⟨[], [], rfl, List.forall_mem_nil _, List.forall_mem_nil _, fun _ => rfl⟩
  | @call stage taken written s s' request input room step _ hallows hpermits hcall hwithin ih =>
    obtain ⟨runs, closes, hlog, hruns, hcloses, hfeeding⟩ := ih
    rw [NativeEncoder.log_of_call hcall, hlog]
    cases request with
    | encode =>
      rw [hfeeding (Stage.eq_feeding hallows), List.append_nil]
      refine ⟨_, [], (List.append_nil _).symm, ?_, List.forall_mem_nil _, fun _ => rfl⟩
      exact List.forall_mem_append.mpr ⟨hruns, List.forall_mem_singleton.mpr rfl⟩
    | finish =>
      refine ⟨runs, _, List.append_assoc .., hruns, ?_, ?_⟩
      · exact List.forall_mem_append.mpr ⟨hcloses, List.forall_mem_singleton.mpr rfl⟩
      · intro hafter
        unfold Stage.after at hafter
        simp only at hafter
        split at hafter <;> cases hafter

theorem Logged.nothing_behind {data : ByteArray} {log before after : List Call} {c : Call}
    (h : Logged data stage taken written log) (hlog : log = before ++ c :: after)
    (hends : c.ends = true) : after = [] := by
  have hmem : c ∈ before ++ c :: after := List.mem_append_right _ (List.mem_cons_self ..)
  by_cases hstage : stage = .ended
  · obtain ⟨front, last, hlast, -, hopen⟩ := h.ended hstage
    obtain ⟨rfl, rfl⟩ | ⟨more, rfl⟩ := split_concat (hlast.symm.trans hlog)
    · exact (List.cons.inj (List.append_cancel_left (hlast.symm.trans hlog))).2.symm
    · have hmem : c ∈ before ++ c :: more := List.mem_append_right _ (List.mem_cons_self ..)
      cases hends.symm.trans (hopen c hmem)
  · cases hends.symm.trans (h.opened hstage c (hlog ▸ hmem))

end Logs

namespace Exchange

/-- The call succeeds, unless its input comes before the earlier input is used up. -/
def Heard (codec : Codec) (x : Exchange) : Prop :=
  (∃ b, x.answer = .ok b) ∨
    (x.input.size ≠ 0 ∧ ∃ n, n ≠ 0 ∧ x.answer = .trap (.inputPending codec n))

/-- The call comes behind the end: nothing is written, and input is not welcome. -/
def Late (codec : Codec) (x : Exchange) : Prop :=
  x.answer = .ok ByteArray.empty ∨
    (x.input.size ≠ 0 ∧ x.answer = .trap (.inputAfterFinish codec))

end Exchange

namespace Encoder

variable {σ τ : Type} {E : EncodeEngine σ} {s₀ : σ} {s : Encoder σ} {stage : Stage}
  {taken written data later : ByteArray}

def exchange (E : EncodeEngine σ) (s : Encoder σ) (d : Demand) : Exchange × Encoder σ :=
  let (answer, s) := perform E s d
  ({ input := d.input, answer }, s)

def Heeds (E : EncodeEngine σ) (s : Encoder σ) : List Demand → Prop
  | [] => True
  | d :: ds =>
    (d.input.size = 0 ∨ s.ledger.pending.unread = 0) ∧ Heeds E (exchange E s d).2 ds

theorem exchange_map {f : τ → σ} {F : EncodeEngine τ} (h : Mirrors f F E) (t : Encoder τ)
    (d : Demand) : exchange E (map f t) d = ((exchange F t d).1, map f (exchange F t d).2) := by
  cases d with
  | feed input room => simp only [exchange, perform, compressInto_map h]
  | close room => simp only [exchange, perform, finishInto_map h]

theorem Tracks.unlimited {Q : Request → ByteArray → Prop}
    (h : Tracks E s₀ Q s stage taken written) :
    Tracks E s₀ (fun _ _ => True) s stage taken written :=
  ⟨h.reached.mono fun _ _ _ _ _ => trivial, h.stats, h.stands⟩

/-- A call that feeds takes a front of what is there, or does nothing when its input comes too
early. -/
theorem exchange_feed (hE : E.Answers s₀ Any Step.Advances)
    (ht : Tracks E s₀ (Drives data) s .feeding taken written) (input : ByteArray) (room : Nat)
    (hdata : taken ++ (s.ledger.pending.remaining.toBytes ++
      ((exchange E s (.feed input room)).1.accepted ++ later)) = data) :
    (exchange E s (.feed input room)).1.Heard E.codec ∧
      (input.size = 0 ∨ s.ledger.pending.unread = 0 →
        ∃ b, (exchange E s (.feed input room)).1.answer = .ok b) ∧
      ∃ taken', Tracks E s₀ (Drives data) (exchange E s (.feed input room)).2 .feeding taken'
          (written ++ (exchange E s (.feed input room)).1.written) ∧
        taken' ++ ((exchange E s (.feed input room)).2.ledger.pending.remaining.toBytes ++ later) =
          data := by
  simp only [exchange, perform, Demand.input] at hdata ⊢
  by_cases hinput : input.size = 0 ∨ s.ledger.pending.unread = 0
  · obtain ⟨b, s', hcall, -⟩ := compressInto_ok hE ht.unlimited hinput room
    rw [hcall] at hdata ⊢
    exact ⟨.inl ⟨b, rfl⟩, fun _ => ⟨b, rfl⟩, ht.feed hdata hcall⟩
  · obtain ⟨hsome, hunread⟩ := not_or.mp hinput
    rw [compressInto_early E ht.stands hsome hunread] at hdata ⊢
    simp only [Exchange.accepted, ByteArray.empty_append] at hdata
    refine ⟨.inr ⟨hsome, _, hunread, rfl⟩, fun hwelcome => absurd hwelcome hinput, taken, ?_, hdata⟩
    simp only [Exchange.written, ByteArray.append_empty]
    exact ht

/-- Calls that feed, one after the other. -/
theorem each_feeds (hE : E.Answers s₀ Any Step.Advances)
    (ht : Tracks E s₀ (Drives data) s .feeding taken written) (feeds : List (ByteArray × Nat))
    {xs : List Exchange} {s' : Encoder σ}
    (hrun : each (exchange E) s (feeds.map fun m => .feed m.1 m.2) = (xs, s'))
    (hdata : taken ++ (s.ledger.pending.remaining.toBytes ++ joined (xs.map Exchange.accepted)) =
      data) :
    (∀ x ∈ xs, x.Heard E.codec) ∧
      (Heeds E s (feeds.map fun m => .feed m.1 m.2) → ∀ x ∈ xs, ∃ b, x.answer = .ok b) ∧
      ∃ taken', Tracks E s₀ (Drives data) s' .feeding taken'
          (written ++ joined (xs.map Exchange.written)) ∧
        taken' ++ s'.ledger.pending.remaining.toBytes = data := by
  induction feeds generalizing s taken written xs with
  | nil =>
    cases hrun
    rw [List.map_nil, joined_nil, ByteArray.append_empty] at hdata
    refine ⟨List.forall_mem_nil _, fun _ => List.forall_mem_nil _, taken, ?_, hdata⟩
    rw [List.map_nil, joined_nil, ByteArray.append_empty]
    exact ht
  | cons m feeds ih =>
    rw [List.map_cons, each_cons] at hrun
    cases hrun
    obtain ⟨hheard, hok, taken', ht', hdata'⟩ := exchange_feed hE ht m.1 m.2 hdata
    obtain ⟨hheards, hoks, taken'', ht'', hdata''⟩ := ih ht' rfl hdata'
    rw [ByteArray.append_assoc] at ht''
    refine ⟨List.forall_mem_cons.mpr ⟨hheard, hheards⟩, ?_, taken'', ht'', hdata''⟩
    rintro ⟨hfirst, hlater⟩
    exact List.forall_mem_cons.mpr ⟨hok hfirst, hoks hlater⟩

/-- A call that finishes succeeds. -/
theorem exchange_close (hE : E.Answers s₀ Any Step.Advances)
    (ht : Tracks E s₀ (Drives data) s stage taken written)
    (hdata : taken ++ s.ledger.pending.remaining.toBytes = data) (room : Nat) :
    (∃ b, (exchange E s (.close room)).1.answer = .ok b) ∧
      ∃ stage' taken', Tracks E s₀ (Drives data) (exchange E s (.close room)).2 stage' taken'
          (written ++ (exchange E s (.close room)).1.written) ∧
        taken' ++ (exchange E s (.close room)).2.ledger.pending.remaining.toBytes = data := by
  simp only [exchange, perform]
  obtain ⟨b, s', hcall, -⟩ := finishInto_ok hE ht.unlimited room
  rw [hcall]
  exact ⟨⟨b, rfl⟩, ht.close hdata hcall⟩

theorem each_closes (hE : E.Answers s₀ Any Step.Advances)
    (ht : Tracks E s₀ (Drives data) s stage taken written)
    (hdata : taken ++ s.ledger.pending.remaining.toBytes = data) (rooms : List Nat)
    {xs : List Exchange} {s' : Encoder σ}
    (hrun : each (exchange E) s (rooms.map .close) = (xs, s')) :
    (∀ x ∈ xs, ∃ b, x.answer = .ok b) ∧
      ∃ stage' taken', Tracks E s₀ (Drives data) s' stage' taken'
        (written ++ joined (xs.map Exchange.written)) := by
  induction rooms generalizing s stage taken written xs with
  | nil =>
    cases hrun
    refine ⟨List.forall_mem_nil _, stage, taken, ?_⟩
    rw [List.map_nil, joined_nil, ByteArray.append_empty]
    exact ht
  | cons room rooms ih =>
    rw [List.map_cons, each_cons] at hrun
    cases hrun
    obtain ⟨hok, stage', taken', ht', hdata'⟩ := exchange_close hE ht hdata room
    obtain ⟨hlater, stage'', taken'', ht''⟩ := ih ht' hdata' rfl
    rw [ByteArray.append_assoc] at ht''
    exact ⟨List.forall_mem_cons.mpr ⟨hok, hlater⟩, stage'', taken'', ht''⟩

/-- Calls that finish have no input. -/
theorem accepted_closes {rooms : List Nat} {xs : List Exchange} {s' : Encoder σ}
    (hrun : each (exchange E) s (rooms.map .close) = (xs, s')) :
    joined (xs.map Exchange.accepted) = ByteArray.empty := by
  induction rooms generalizing s xs with
  | nil =>
    cases hrun
    rfl
  | cons room rooms ih =>
    rw [List.map_cons, each_cons] at hrun
    cases hrun
    have hnone : (exchange E s (.close room)).1.accepted = ByteArray.empty := by
      unfold Exchange.accepted
      split <;> rfl
    rw [List.map_cons, joined_cons, hnone, ih rfl, ByteArray.empty_append]

theorem KeptBySteps.closes {P : Encoder σ → Prop} (hP : KeptBySteps E P) (h : P s)
    {rooms : List Nat} {xs : List Exchange} {s' : Encoder σ}
    (hrun : each (exchange E) s (rooms.map .close) = (xs, s'))
    (hok : ∀ x ∈ xs, ∃ b, x.answer = .ok b) : P s' := by
  obtain ⟨rfl, rfl⟩ := Prod.mk.inj hrun
  refine each_keeps_while (P := P) (Q := fun x => ∃ b, x.answer = .ok b) ?_ h hok
  rintro s d hmem hs ⟨b, hcall⟩
  obtain ⟨room, -, rfl⟩ := List.mem_map.mp hmem
  exact hP.close hs (Prod.ext hcall rfl)

/-- Behind the end a call does nothing. -/
theorem exchange_late (hend : s.finished = true) (d : Demand) :
    (exchange E s d).2 = s ∧ (exchange E s d).1.Late E.codec := by
  cases d with
  | close room =>
    simp only [exchange, perform, finishInto, if_pos hend]
    exact ⟨trivial, .inl rfl⟩
  | feed input room =>
    by_cases hinput : input.size = 0
    · simp only [exchange, perform, compressInto_finished E hend hinput]
      exact ⟨trivial, .inl rfl⟩
    · simp only [exchange, perform, compressInto_late E hend hinput]
      exact ⟨trivial, .inr ⟨hinput, rfl⟩⟩

theorem each_late (hend : s.finished = true) (ds : List Demand) :
    (each (exchange E) s ds).2 = s ∧ ∀ x ∈ (each (exchange E) s ds).1, x.Late E.codec := by
  refine each_keeps (P := (· = s)) ?_ rfl ds
  rintro _ d rfl
  exact exchange_late hend d

end Encoder

abbrev TapedSession (codec : Codec) (N : NativeEncoder) : Type :=
  Encoder (EncoderState codec N.recorded)

namespace TapedSession

variable {codec : Codec} {N : NativeEncoder} {level : Level} {data span : ByteArray}
  {base : List Call}
  {t t' : TapedSession codec N} {stage : Stage} {taken written : ByteArray}

def start (codec : Codec) (N : NativeEncoder) (level : Level) : TapedSession codec N :=
  { engine := newEncoder codec N.recorded level }

def exchange (t : TapedSession codec N) (d : Demand) : Exchange × TapedSession codec N :=
  Encoder.exchange (encodeEngine codec N.recorded) t d

def Heeds (t : TapedSession codec N) (ds : List Demand) : Prop :=
  Encoder.Heeds (encodeEngine codec N.recorded) t ds

def tape (t : TapedSession codec N) : List Call := EncoderState.tape codec t.engine

def bare (t : TapedSession codec N) : Encoder (EncoderState codec N) :=
  t.map (EncoderState.bare codec)

abbrev Tracks (level : Level) (data : ByteArray) :
    TapedSession codec N → Stage → (taken written : ByteArray) → Prop :=
  Encoder.Tracks (encodeEngine codec N.recorded) (newEncoder codec N.recorded level) (Drives data)

theorem codec_engine (codec : Codec) (N : NativeEncoder) :
    (encodeEngine codec N).codec = codec := by
  cases codec <;> rfl

/-- Behind the calls of `base`, all that was offered is the rest of `span`. -/
structure Draws (base : List Call) (span : ByteArray) (t : TapedSession codec N) : Prop where
  bytes : t.ledger.pending.bytes = span
  tape : ∃ more, t.tape = base ++ more ∧ ∀ c ∈ more, ∃ front, front ++ c.input = span

theorem draws_kept : Encoder.KeptBySteps (encodeEngine codec N.recorded) (Draws base span) where
  step := by
    rintro request engine l room step engine' l' ⟨hbytes, more, htape, hmore⟩ hcall hbook
    refine ⟨(Ledger.book_bytes hbook).trans hbytes, ?_⟩
    obtain hsame | ⟨c, hinput, hnext⟩ := EncoderState.tape_of_call hcall
    · exact ⟨more, hsame.trans htape, hmore⟩
    · have hback : ∃ front, front ++ c.input = span := by
        rw [hinput, ← show l.pending.bytes = span from hbytes]
        exact ⟨_, Bytes.front_append_rest l.pending.bytes l.pending.used⟩
      refine ⟨more ++ [c], ?_, ?_⟩
      · rw [← List.append_assoc, ← htape]
        exact hnext
      · exact List.forall_mem_append.mpr ⟨hmore, List.forall_mem_singleton.mpr hback⟩

/-- The native encoder has got legal calls, when those that finish were offered the rest of the
span. -/
theorem legal (ht : Tracks level data t stage taken written) (hdraws : Draws base span t)
    (hbase : ∀ c ∈ base, c.request = .encode) : Call.Legal codec data span t.tape := by
  obtain ⟨inner, body, -, hreach⟩ := EncoderState.reached_inside (Drives.front .finish) ht.reached
  have hpermitted := permitted_of_reached hreach
  obtain ⟨runs, closes, hlog, hruns, hcloses, -⟩ := ordered_of_reached hreach
  have hlogged := logged_of_reached Drives.front (hreach.mono fun _ _ _ _ => And.right)
  refine ⟨⟨runs, closes, hlog, hruns, hcloses⟩,
    fun before c after h => (hpermitted before c after h).1, ?_,
    fun before c after => hlogged.nothing_behind⟩
  intro before c after hsplit hfinish
  constructor
  · have hoffers := (hpermitted before c after hsplit).2
    rw [hfinish] at hoffers
    exact hoffers
  -- The calls of `base` feed, so a call that finishes is one of those behind them.
  · obtain ⟨more, htape, hmore⟩ := hdraws.tape
    have hmem : c ∈ base ++ more := by
      rw [← htape, hsplit]
      exact List.mem_append_right _ (List.mem_cons_self ..)
    obtain hmem | hmem := List.mem_append.mp hmem
    · cases (hbase c hmem).symm.trans hfinish
    · exact hmore c hmem

/-- While a session is fed, its native encoder is. -/
theorem encodes (ht : Tracks level data t .feeding taken written) :
    ∀ c ∈ t.tape, c.request = .encode := by
  obtain ⟨inner, body, hfeeding, hreach⟩ :=
    EncoderState.reached_inside (Drives.front .finish) ht.reached
  obtain ⟨runs, closes, hlog, hruns, -, hnone⟩ := ordered_of_reached hreach
  have htape : t.tape = runs ++ closes := hlog
  rw [htape, hnone (hfeeding rfl), List.append_nil]
  exact hruns

theorem behind_header {t : TapedSession .gzip N} (ht : Tracks level data t stage taken written)
    (hcalled : t.tape ≠ []) :
    ∃ tail, written = Gzip.Header.written level ++ (Call.allWritten t.tape ++ tail) := by
  obtain ⟨body, tail, hwritten, inner, hreach⟩ :=
    EncoderState.written_behind_header ht.reached hcalled
  have hbody := (logged_of_reached Drives.front hreach).written
  exact ⟨tail, hwritten.trans (by rw [← hbody]; rfl)⟩

/-- However a session is fed and then finished, it is heard, and its native encoder gets legal
calls. -/
theorem each_exchange (hN : N.Answers codec) (level : Level) (feeds : List (ByteArray × Nat))
    (rooms : List Nat) {xs ys : List Exchange}
    (hfed : each exchange (start codec N level) (feeds.map fun m => .feed m.1 m.2) = (xs, t))
    (hclosed : each exchange t (rooms.map .close) = (ys, t')) :
    (∀ x ∈ xs ++ ys, x.Heard codec) ∧
      ((start codec N level).Heeds (feeds.map fun m => .feed m.1 m.2) → ∀ x ∈ xs ++ ys, ∃ b,
        x.answer = .ok b) ∧
      Call.Legal codec (joined ((xs ++ ys).map Exchange.accepted)) t.ledger.pending.bytes t'.tape ∧
      ∃ stage taken, Tracks level (joined ((xs ++ ys).map Exchange.accepted)) t' stage taken
        (joined ((xs ++ ys).map Exchange.written)) := by
  have hE : (encodeEngine codec N.recorded).Answers (newEncoder codec N.recorded level) Any
      Step.Advances := encodeEngine_answers ((N.recorded_mirrors codec.inner).answers hN) level
  have haccepted :
      joined ((xs ++ ys).map Exchange.accepted) = joined (xs.map Exchange.accepted) := by
    rw [List.map_append, joined_append, Encoder.accepted_closes hclosed, ByteArray.append_empty]
  have hall : ByteArray.empty ++ (ByteArray.empty ++ joined (xs.map Exchange.accepted)) =
      joined (xs.map Exchange.accepted) := by
    rw [ByteArray.empty_append, ByteArray.empty_append]
  obtain ⟨hheard, hheeds, taken, ht, hdata⟩ :=
    Encoder.each_feeds hE (Encoder.tracks_fresh _ _ _) feeds hfed hall
  obtain ⟨hok, stage, taken', ht'⟩ := Encoder.each_closes hE ht hdata rooms hclosed
  have hdraws : Draws t.tape t.ledger.pending.bytes t' :=
    draws_kept.closes ⟨rfl, [], (List.append_nil _).symm, List.forall_mem_nil _⟩ hclosed hok
  rw [codec_engine] at hheard
  rw [ByteArray.empty_append, ← joined_append, ← List.map_append] at ht'
  rw [haccepted]
  exact ⟨List.forall_mem_append.mpr ⟨hheard, fun y hmem => .inl (hok y hmem)⟩,
    fun h => List.forall_mem_append.mpr ⟨hheeds h, hok⟩, legal ht' hdraws (encodes ht), stage,
    taken', ht'⟩

end TapedSession

namespace Compressor

open TapedSession

section

variable [Engines]

def exchange (c : Compressor) (d : Demand) : Exchange × Compressor :=
  let (answer, c) := c.perform d
  ({ input := d.input, answer }, c)

theorem exchange_mk (codec : Codec) (level : Level) (chunk : ChunkSize)
    (session : Session codec level) (d : Demand) :
    exchange (mk codec level chunk session) d =
      ((Encoder.exchange (engine codec level) session d).1,
        mk codec level chunk (Encoder.exchange (engine codec level) session d).2) := by
  cases d <;> rfl

/-- A compressor does what it does over a native encoder that keeps a log. -/
theorem exchange_bare (codec : Codec) (level : Level) (chunk : ChunkSize)
    (t : TapedSession codec (Engines.encoder codec level)) (d : Demand) :
    exchange (mk codec level chunk t.bare) d =
      ((t.exchange d).1, mk codec level chunk (t.exchange d).2.bare) := by
  rw [exchange_mk, TapedSession.bare,
    Encoder.exchange_map (EncoderState.bare_mirrors codec (Engines.encoder codec level))]
  rfl

theorem bare_start (codec : Codec) (level : Level) (chunk : ChunkSize) :
    mk codec level chunk (start codec (Engines.encoder codec level) level).bare =
      new codec level chunk :=
  congrArg (fun engine => mk codec level chunk { engine })
    (EncoderState.bare_newEncoder codec (Engines.encoder codec level) level)

/-- A compressor that is fed, in any pieces and windows, and then finished, in any windows, makes
legal calls only, over a native encoder that answers such calls. So no call fails but one whose
input comes too early, and where none does all of them succeed. A gzip compressor does not call its
body engine while the header is not out. And behind the end nothing is called. -/
theorem each_legal (codec : Codec) (level : Level)
    (hN : (Engines.encoder codec level).Answers codec)
    (chunk : ChunkSize) (feeds : List (ByteArray × Nat)) (rooms : List Nat) :
    let fed : List Demand := feeds.map fun m => .feed m.1 m.2
    let calls := fed ++ rooms.map .close
    let first := start codec (Engines.encoder codec level) level
    let run := each TapedSession.exchange first calls
    each exchange (new codec level chunk) calls = (run.1, mk codec level chunk run.2.bare) ∧
      (∀ x ∈ run.1, x.Heard codec) ∧
      (first.Heeds fed → ∀ x ∈ run.1, ∃ b, x.answer = .ok b) ∧
      Call.Legal codec (joined (run.1.map Exchange.accepted))
        (each TapedSession.exchange first fed).2.ledger.pending.bytes run.2.tape ∧
      (codec = .gzip → run.2.tape ≠ [] → ∃ tail, joined (run.1.map Exchange.written) =
        Gzip.Header.written level ++ (Call.allWritten run.2.tape ++ tail)) ∧
      (run.2.finished = true → ∀ later, (each TapedSession.exchange run.2 later).2 = run.2 ∧
        ∀ x ∈ (each TapedSession.exchange run.2 later).1, x.Late codec) := by
  intro fed calls first run
  have hlift : each exchange (new codec level chunk) calls =
      (run.1, mk codec level chunk run.2.bare) := by
    rw [← bare_start]
    exact each_lift (fun t : TapedSession _ _ => mk codec level chunk t.bare)
      (exchange_bare codec level chunk) first calls
  have hrun : run = _ := each_append TapedSession.exchange first fed (rooms.map .close)
  obtain ⟨hheard, hheeds, hlegal, stage, taken, ht⟩ := each_exchange hN level feeds rooms rfl rfl
  rw [hrun]
  rw [hrun] at hlift
  refine ⟨hlift, hheard, hheeds, hlegal, ?_, ?_⟩
  · rintro rfl hcalled
    exact behind_header ht hcalled
  · intro hend later
    have hlate := Encoder.each_late hend later (E := encodeEngine codec _)
    rw [codec_engine] at hlate
    exact hlate

end

/-- A line that is left for the calls that finish, since the header takes up the windows before. -/
theorem each_legal_line :
    letI : Engines := Deflate.Dialect.engines
    let line := Bytes.ofList Deflate.Dialect.line
    let calls := [.feed line 4, .feed ByteArray.empty 3, .close 9, .close 0, .close 40]
    let run := each TapedSession.exchange
      (start .gzip (Engines.encoder .gzip .balanced) .balanced) calls
    run.2.finished = true ∧ run.2.tape.map Call.input = [line, ByteArray.empty, ByteArray.empty] ∧
      (each exchange (new .gzip .balanced .standard) calls).1 = run.1 ∧
      (∀ x ∈ run.1, ∃ b, x.answer = .ok b) ∧ Call.Legal .gzip line line run.2.tape ∧
      (∃ tail, Deflate.Dialect.member =
        Gzip.Header.written .balanced ++ (Call.allWritten run.2.tape ++ tail)) ∧
      (each TapedSession.exchange run.2 [.close 5, .feed line 5]).2 = run.2 := by
  let : Engines := Deflate.Dialect.engines
  intro line calls run
  let fed := each TapedSession.exchange
    (start .gzip (Engines.encoder .gzip .balanced) .balanced)
    [.feed line 4, .feed ByteArray.empty 3]
  have hfinished : run.2.finished = true := by decide +kernel
  have hoffered : run.2.tape.map Call.input = [line, ByteArray.empty, ByteArray.empty] := by
    decide +kernel
  have haccepted : joined (run.1.map Exchange.accepted) = line := by decide +kernel
  have hwritten : joined (run.1.map Exchange.written) = Deflate.Dialect.member := by decide +kernel
  have hspan : fed.2.ledger.pending.bytes = line := by decide +kernel
  obtain ⟨hsame, -, hheeds, hlegal, hheader, hlate⟩ := each_legal .gzip .balanced
    Deflate.Dialect.encoder_follows.advances .standard
    [(line, 4), (ByteArray.empty, 3)] [9, 0, 40]
  have hok : ∀ x ∈ run.1, ∃ b, x.answer = .ok b := hheeds ⟨.inr rfl, .inl rfl, trivial⟩
  have hcalled : run.2.tape ≠ [] := by
    intro hnone
    rw [hnone] at hoffered
    cases hoffered
  have hlegal : Call.Legal .gzip (joined (run.1.map Exchange.accepted))
    fed.2.ledger.pending.bytes run.2.tape := hlegal
  have hheader : ∃ tail, joined (run.1.map Exchange.written) =
      Gzip.Header.written .balanced ++ (Call.allWritten run.2.tape ++ tail) := hheader rfl hcalled
  rw [haccepted, hspan] at hlegal
  rw [hwritten] at hheader
  exact ⟨hfinished, hoffered, congrArg Prod.fst hsame, hok, hlegal, hheader,
    (hlate hfinished _).1⟩

end Compressor

end StreamCodec
