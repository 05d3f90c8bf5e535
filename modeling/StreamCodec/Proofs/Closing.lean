import StreamCodec.Proofs.Conservation
import StreamCodec.Proofs.Gzip.Trailing
import StreamCodec.Proofs.RoundTrip

/-!
Compressors that are fed and finished in any order. Over an engine that carries its input, what
was accepted has all been taken by the time the stream is complete. In gzip that fails for one
input: what is fed while the trailer waits for room is accepted like any other, and none of it
is ever taken.
-/

namespace StreamCodec

open EncodeEngine Schedule

namespace Encoder

variable {σ : Type} {E : EncodeEngine σ} {s₀ : σ} {s s' : Encoder σ} {b : ByteArray}
  {P : Encoder σ → Prop}

structure KeptBySteps (E : EncodeEngine σ) (P : Encoder σ → Prop) : Prop where
  step : ∀ request {engine l room step engine' l'}, P { engine, ledger := l } →
    E.call request engine l.pending.remaining room = (.ok step, engine') →
    l.book step room = .ok l' →
    P { engine := engine', ledger := l', finished := request.ends step }

section Kept

variable {engine : σ} {l : Ledger} {room : Nat} {out : ByteArray}

theorem KeptBySteps.run (hP : KeptBySteps E P) (h : P { engine, ledger := l })
    (hrun : run E engine l room out = (.ok b, s)) : P s := by
  fun_induction Encoder.run E engine l room out with
  | case1 | case2 | case3 | case4 => cases hrun
  | case5 engine l out step engine' l' hcall hbook =>
    cases hrun
    exact hP.step .encode h hcall hbook
  | case6 engine l room out step engine' hcall l' hbook hfull hidle =>
    cases hrun
    exact hP.step .encode h hcall hbook
  | case7 engine l room out step engine' hcall l' hbook hfull hidle ih =>
    exact ih (hP.step .encode h hcall hbook) hrun

theorem KeptBySteps.conclude (hP : KeptBySteps E P) (h : P { engine, ledger := l })
    (hrun : conclude E engine l room out = (.ok b, s)) : P s := by
  fun_induction Encoder.conclude E engine l room out with
  | case1 | case2 | case3 | case4 | case7 => cases hrun
  | case5 engine l room out step engine' hcall l' hbook hdone =>
    cases hrun
    have hnext := hP.step .finish h hcall hbook
    rw [Request.ends, hdone] at hnext
    exact hnext
  | case6 engine l out step engine' l' hopen hcall hbook =>
    cases hrun
    have hnext := hP.step .finish h hcall hbook
    rw [Request.ends, eq_false_of_ne_true hopen] at hnext
    exact hnext
  | case8 engine l room out step engine' hcall l' hbook hopen hfull hidle ih =>
    have hnext := hP.step .finish h hcall hbook
    rw [Request.ends, eq_false_of_ne_true hopen] at hnext
    exact ih hnext hrun

/-- A call that feeds keeps what holds with its input accepted. -/
theorem KeptBySteps.feed (hP : KeptBySteps E P) {input : ByteArray}
    (hfinished : s.finished = true → P s)
    (haccept : s.finished = false → ∀ q, s.ledger.pending.accept E.codec input = .ok q →
      P { engine := s.engine, ledger := { s.ledger with pending := q } })
    (hcall : compressInto E s input room = (.ok b, s')) : P s' := by
  obtain ⟨engine, ledger, finished⟩ := s
  cases finished with
  | true =>
    by_cases hinput : input.size = 0
    · rw [compressInto_finished E rfl hinput] at hcall
      cases hcall
      exact hfinished rfl
    · rw [compressInto_late E rfl hinput] at hcall
      cases hcall
  | false =>
    by_cases hinput : input.size = 0 ∨ ledger.pending.unread = 0
    · obtain ⟨q, hq, -⟩ := Pending.accept_ok E.codec hinput
      rw [compressInto_open E engine hq] at hcall
      exact hP.run (haccept rfl q hq) hcall
    · obtain ⟨hinput, hunread⟩ := not_or.mp hinput
      rw [compressInto_early E rfl hinput hunread] at hcall
      cases hcall

theorem KeptBySteps.close (hP : KeptBySteps E P) (h : P s)
    (hcall : finishInto E s room = (.ok b, s')) : P s' := by
  obtain ⟨engine, ledger, finished⟩ := s
  cases finished with
  | true =>
    cases hcall
    exact h
  | false =>
    have hrun : Encoder.conclude E engine ledger room ByteArray.empty = (.ok b, s') := hcall
    exact hP.conclude h hrun

/-- What every step keeps, and what new input leaves alone, holds behind any calls that
succeed. -/
theorem KeptBySteps.calls (hP : KeptBySteps E P)
    (haccept : ∀ {engine l input q}, P { engine, ledger := l } →
      l.pending.accept E.codec input = .ok q → P { engine, ledger := { l with pending := q } })
    (h : P s) {ds : List Demand}
    (hok : ∀ answer ∈ (each (perform E) s ds).1, ∃ b, answer = .ok b) :
    P (each (perform E) s ds).2 := by
  refine each_keeps_while (P := P) (Q := fun answer => ∃ b, answer = .ok b) ?_ h hok
  rintro s d - hs ⟨b, hcall⟩
  cases d with
  | close room => exact hP.close hs (Prod.ext hcall rfl)
  | feed input room =>
    refine hP.feed (fun _ => hs) ?_ (Prod.ext hcall rfl)
    intro hopen q hq
    refine haccept ?_ hq
    rw [← hopen]
    exact hs

end Kept

/-- Nothing is left to read behind the end. -/
def Carried (E : EncodeEngine σ) (s₀ : σ) (s : Encoder σ) : Prop :=
  (E.Before s₀ s.engine ∧ s.finished = false) ∨ (s.finished = true ∧ s.ledger.pending.unread = 0)

theorem carried_kept (hE : E.Carries s₀) : KeptBySteps E (Carried E s₀) where
  step := by
    rintro request engine l room step engine' l' (⟨hbefore, -⟩ | ⟨hfinished, -⟩) hcall hbook
    · cases hends : request.ends step with
      | false => exact .inl ⟨.call hbefore hcall hends, rfl⟩
      | true => exact .inr ⟨rfl, Ledger.unread_of_book hbook (hE hbefore hcall hends)⟩
    · cases hfinished

/-- A session over an engine that carries its input leaves none of it. -/
theorem each_carries (hE : E.Carries s₀) {ds : List Demand} {answers : List (Outcome ByteArray)}
    (hrun : each (perform E) { engine := s₀ } ds = (answers, s))
    (hok : ∀ answer ∈ answers, ∃ b, answer = .ok b) : Carried E s₀ s := by
  obtain ⟨rfl, rfl⟩ := Prod.mk.inj hrun
  refine (carried_kept hE).calls ?_ (.inl ⟨.fresh, rfl⟩) hok
  rintro engine l input q (⟨hbefore, -⟩ | ⟨hfinished, -⟩) -
  · exact .inl ⟨hbefore, rfl⟩
  · cases hfinished

end Encoder

namespace Gzip.Encoder

variable {σ : Type} {E : EncodeEngine σ} {s₀ : σ} {s : StreamCodec.Encoder (Encoder σ)}

open StreamCodec.Encoder (KeptBySteps perform run run_idle conclude conclude_step compressInto_open)

/-- The trailer waits for room, and no input is left. -/
structure Trails (E : EncodeEngine σ) (s₀ : σ) (s : StreamCodec.Encoder (Encoder σ)) : Prop where
  waits : ∃ left, Waits E s₀ s.engine left
  finished : s.finished = false
  unread : s.ledger.pending.unread = 0

def Clear (E : EncodeEngine σ) (s₀ : σ) (s : StreamCodec.Encoder (Encoder σ)) : Prop :=
  (Underway E s₀ s.engine ∧ s.finished = false) ∨
    ((∃ left, Waits E s₀ s.engine left) ∧ s.ledger.pending.unread = 0)

/-- The trailer waits or is out, with `n` bytes that have not been taken and `total` that have. -/
structure Strands (E : EncodeEngine σ) (s₀ : σ) (n total : Nat)
    (s : StreamCodec.Encoder (Encoder σ)) : Prop where
  waits : ∃ left, Waits E s₀ s.engine left
  unread : s.ledger.pending.unread = n
  bytesIn : s.stats.bytesIn = total

theorem strands_kept (hrests : E.RestsBehind s₀) (n total : Nat) :
    KeptBySteps (engine E) (Strands E s₀ n total) where
  step := by
    intro request e l room step e' l' ⟨⟨left, hwaits⟩, hunread, hbytes⟩ hcall hbook
    have hnone : step.consumed = 0 ∧ ∃ left', Waits E s₀ e' left' := by
      cases request with
      | encode =>
        obtain ⟨step', s', hcall', hidle, hwaits'⟩ := hwaits.encode hrests l.pending.remaining room
        cases hcall.symm.trans hcall'
        exact ⟨(Step.isIdle_iff.mp hidle).1, left, hwaits'⟩
      | finish =>
        obtain ⟨step', s', hcall', hconsumed, -, hwaits', -⟩ :=
          hwaits.finish l.pending.remaining room
        cases hcall.symm.trans hcall'
        exact ⟨hconsumed, hwaits'⟩
    have hrest := (Ledger.book_eq_ok hbook).2.2
    have hstats := (Ledger.book_inv hbook).2.2
    have hunread : l.pending.unread = n := hunread
    refine ⟨hnone.2, show l'.pending.unread = n by omega, ?_⟩
    show l'.stats.bytesIn = total
    rw [hstats, Stats.bytesIn_record, hnone.1]
    exact hbytes

theorem clear_kept (hE : E.Carries s₀) (hrests : E.RestsBehind s₀) :
    KeptBySteps (engine E) (Clear E s₀) where
  step := by
    rintro request e l room step e' l' (⟨hunderway, -⟩ | ⟨hwaits, hunread⟩) hcall hbook
    · cases request with
      | encode => exact .inl ⟨hunderway.encode hcall, rfl⟩
      | finish =>
        obtain ⟨hnext, hopen⟩ | ⟨hnext, hall⟩ := hunderway.finish hE hcall
        · exact .inl ⟨hnext, hopen⟩
        · exact .inr ⟨hnext, Ledger.unread_of_book hbook hall⟩
    · have hstrands : Strands E s₀ 0 l.stats.bytesIn { engine := e, ledger := l } :=
        ⟨hwaits, hunread, rfl⟩
      have hnext := (strands_kept hrests _ _).step request hstrands hcall hbook
      exact .inr ⟨hnext.waits, hnext.unread⟩

/-- Input that is left behind the trailer is left for good. -/
theorem Strands.calls (hrests : E.RestsBehind s₀) {n total : Nat} (hn : n ≠ 0)
    (h : Strands E s₀ n total s) {ds : List Demand}
    (hok : ∀ answer ∈ (each (perform (engine E)) s ds).1, ∃ b, answer = .ok b) :
    Strands E s₀ n total (each (perform (engine E)) s ds).2 := by
  refine (strands_kept hrests n total).calls ?_ h hok
  intro e l input q ⟨hwaits, hunread, hbytes⟩ hq
  refine ⟨hwaits, ?_, hbytes⟩
  have hunread : l.pending.unread = n := hunread
  by_cases hinput : input.size = 0
  · rw [Pending.accept, if_pos hinput] at hq
    cases hq
    exact hunread
  · rw [Pending.accept_early _ hinput (by omega)] at hq
    cases hq

/-- What is fed while the trailer waits is accepted, and nothing is done with it. -/
theorem Trails.feed (hrests : E.RestsBehind s₀) (h : Trails E s₀ s) (input : ByteArray)
    (room : Nat) :
    ∃ s', s.compressInto (engine E) input room = (.ok ByteArray.empty, s') ∧
      Strands E s₀ input.size s.stats.bytesIn s' := by
  obtain ⟨e, ledger, finished⟩ := s
  obtain ⟨⟨left, hwaits⟩, hopen, hunread⟩ := h
  cases hopen
  have hunread : ledger.pending.unread = 0 := hunread
  have haccept : input.size = 0 ∨ ledger.pending.unread = 0 := .inr hunread
  obtain ⟨q, hq, hrest⟩ := Pending.accept_ok (engine E).codec haccept
  obtain ⟨step, e', hcall, hidle, -⟩ := hwaits.encode hrests q.remaining room
  obtain ⟨l', hbook, hrun⟩ : ∃ l', Ledger.book { ledger with pending := q } step room = .ok l' ∧
      run (engine E) e { ledger with pending := q } room ByteArray.empty = _ := run_idle hcall hidle
  have hsize : q.unread = input.size := by
    have hsize := congrArg ByteArray.size hrest
    rw [ByteArray.size_append, Slice.size_toBytes, Slice.size_toBytes, Pending.size_remaining,
      Pending.size_remaining, hunread, Nat.zero_add] at hsize
    exact hsize
  have hstrands : Strands E s₀ input.size ledger.stats.bytesIn
      { engine := e, ledger := { ledger with pending := q } } := ⟨⟨left, hwaits⟩, hsize, rfl⟩
  refine ⟨_, (compressInto_open (engine E) e hq room).trans hrun, ?_⟩
  exact (strands_kept hrests _ _).step .encode hstrands hcall hbook

/-- One call keeps a session clear, unless it feeds one whose trailer waits. -/
theorem Clear.call (hE : E.Carries s₀) (hrests : E.RestsBehind s₀) (h : Clear E s₀ s)
    {d : Demand} {b : ByteArray} {s' : StreamCodec.Encoder (Encoder σ)}
    (hcall : perform (engine E) s d = (.ok b, s')) :
    Clear E s₀ s' ∨ ∃ input room, d = .feed input room ∧ input.size ≠ 0 ∧ Trails E s₀ s ∧
      Strands E s₀ input.size s.stats.bytesIn s' := by
  cases d with
  | close room => exact .inl ((clear_kept hE hrests).close h hcall)
  | feed input room =>
    by_cases hlate : input.size ≠ 0 ∧ Trails E s₀ s
    · obtain ⟨hinput, htrails⟩ := hlate
      obtain ⟨s'', hcall', hstrands⟩ := htrails.feed hrests input room
      cases hcall.symm.trans hcall'
      exact .inr ⟨input, room, rfl, hinput, htrails, hstrands⟩
    -- Otherwise the body is still under way, or there is nothing to accept.
    · refine .inl ((clear_kept hE hrests).feed (fun _ => h) ?_ hcall)
      intro hopen q hq
      obtain ⟨hunderway, -⟩ | ⟨hwaits, hunread⟩ := h
      · exact .inl ⟨hunderway, rfl⟩
      · have hinput : input.size = 0 := by
          by_contra hinput
          exact hlate ⟨hinput, hwaits, hopen, hunread⟩
        rw [Pending.accept, if_pos hinput] at hq
        cases hq
        exact .inr ⟨hwaits, hunread⟩

/-- A session stays clear, or it was fed while the trailer waited, and that input is left. -/
theorem Clear.calls (hE : E.Carries s₀) (hrests : E.RestsBehind s₀) (h : Clear E s₀ s)
    {ds : List Demand} {answers : List (Outcome ByteArray)} {s' : StreamCodec.Encoder (Encoder σ)}
    (hrun : each (perform (engine E)) s ds = (answers, s'))
    (hok : ∀ answer ∈ answers, ∃ b, answer = .ok b) :
    Clear E s₀ s' ∨
      ∃ before input room after, ds = before ++ .feed input room :: after ∧ input.size ≠ 0 ∧
        Trails E s₀ (each (perform (engine E)) s before).2 ∧
        Strands E s₀ input.size (each (perform (engine E)) s before).2.stats.bytesIn s' := by
  -- The first input that comes late settles the rest: from there on `Strands` is what is kept.
  induction ds generalizing s answers with
  | nil =>
    cases hrun
    exact .inl h
  | cons d ds ih =>
    rw [each_cons] at hrun
    cases hrun
    obtain ⟨⟨b, hcall⟩, hlater⟩ := List.forall_mem_cons.mp hok
    obtain hclear | ⟨input, room, rfl, hinput, htrails, hstrands⟩ :=
      h.call hE hrests (Prod.ext hcall rfl)
    · obtain hlast | ⟨before, input, room, after, rfl, hinput, htrails, hstrands⟩ :=
        ih hclear rfl hlater
      · exact .inl hlast
      · exact .inr ⟨d :: before, input, room, after, rfl, hinput, htrails, hstrands⟩
    · exact .inr ⟨[], input, room, ds, rfl, hinput, htrails, hstrands.calls hrests hinput hlater⟩

/-- A finishing call with room for the trailer is the last. -/
theorem Strands.finish {n total : Nat} (h : Strands E s₀ n total s) {room : Nat}
    (hroom : Tally.trailerSize ≤ room) :
    ∃ b s', s.finishInto (engine E) room = (.ok b, s') ∧ s'.finished = true := by
  obtain ⟨e, ledger, finished⟩ := s
  obtain ⟨⟨left, hwaits⟩, -, -⟩ := h
  cases finished with
  | true => exact ⟨_, _, rfl, rfl⟩
  | false =>
    obtain ⟨step, e', hcall, hconsumed, houtput, -, hlast⟩ :=
      hwaits.finish (E := E) ledger.pending.remaining room
    have hwithin : step.Within ledger.pending.unread room := ⟨by omega, houtput⟩
    obtain ⟨l', hbook⟩ := Ledger.book_ok hwithin
    refine ⟨step.output, { engine := e', ledger := l', finished := true }, ?_, rfl⟩
    have hrun : conclude (engine E) e ledger room ByteArray.empty = _ :=
      conclude_step hcall hbook
    rw [if_pos (hlast hroom), ByteArray.empty_append] at hrun
    exact hrun

/-- A trailer that is set up, whatever is left to read, is one that waits. -/
theorem waits_of_trailer (h : Clear E s₀ s ∨ ∃ n total, Strands E s₀ n total s)
    (htrailer : s.engine.trailer.isSome = true) : ∃ left, Waits E s₀ s.engine left := by
  obtain (⟨hunderway, -⟩ | ⟨hwaits, -⟩) | ⟨n, total, hstrands⟩ := h
  · rw [hunderway.trailer] at htrailer
    cases htrailer
  · exact hwaits
  · exact hstrands.waits

end Gzip.Encoder

namespace Compressor

variable [Engines]

def perform (c : Compressor) : Demand → Outcome ByteArray × Compressor
  | .feed input room => c.compressInto input room
  | .close room => c.finishInto room

def unread (c : Compressor) : Nat := c.session.ledger.pending.unread

/-- A gzip compressor has set up its trailer. -/
def trailing : Compressor → Bool
  | ⟨.gzip, level, _, session⟩ =>
    let engine : Gzip.Encoder (Engines.encoder .gzip level).State := session.engine
    engine.trailer.isSome
  | _ => false

/-- The trailer waits for room, and no input is left. -/
structure Trails (c : Compressor) : Prop where
  trailing : c.trailing = true
  finished : c.session.finished = false
  unread : c.unread = 0

/-- The next input is accepted, and calls that succeed take none of it. The stream is completed all
the same by one that finishes and has room for the trailer. -/
def Drops (c : Compressor) : Prop :=
  ∀ input room, input.size ≠ 0 → ∃ fed, c.compressInto input room = (.ok ByteArray.empty, fed) ∧
    ∀ later, (∀ answer ∈ (each perform fed later).1, ∃ b, answer = .ok b) →
      let last := (each perform fed later).2
      last.unread = input.size ∧ last.stats.bytesIn = c.stats.bytesIn ∧
        ∀ room, Gzip.Tally.trailerSize ≤ room → ∃ b done,
          last.finishInto room = (.ok b, done) ∧ done.session.finished = true

theorem perform_mk (codec : Codec) (level : Level) (chunk : ChunkSize)
    (session : Session codec level) (d : Demand) :
    perform (mk codec level chunk session) d =
      ((Encoder.perform (engine codec level) session d).1,
        mk codec level chunk (Encoder.perform (engine codec level) session d).2) := by
  cases d <;> rfl

theorem each_mk (codec : Codec) (level : Level) (chunk : ChunkSize) (session : Session codec level)
    (ds : List Demand) :
    each perform (mk codec level chunk session) ds =
      ((each (Encoder.perform (engine codec level)) session ds).1,
        mk codec level chunk (each (Encoder.perform (engine codec level)) session ds).2) :=
  each_lift (mk codec level chunk) (perform_mk codec level chunk) session ds

section Trailers

variable {level : Level} {session : Session .gzip level}

abbrev SessionTrails (session : Session .gzip level) : Prop :=
  Gzip.Encoder.Trails ((Engines.encoder .gzip level).engine .deflate)
    (Engines.encoder .gzip level).fresh session

theorem trails_mk (h : SessionTrails session) (chunk : ChunkSize) :
    (mk .gzip level chunk session).Trails := by
  obtain ⟨left, hwaits⟩ := h.waits
  exact ⟨congrArg Option.isSome hwaits.trailer, h.finished, h.unread⟩

theorem drops_mk (hrests : (Engines.encoder .gzip level).RestsBehind .deflate)
    (h : SessionTrails session) (chunk : ChunkSize) : (mk .gzip level chunk session).Drops := by
  intro input room hinput
  obtain ⟨fed, hcall, hstrands⟩ : ∃ fed : Session .gzip level,
      session.compressInto (engine .gzip level) input room = (.ok ByteArray.empty, fed) ∧
        Gzip.Encoder.Strands ((Engines.encoder .gzip level).engine .deflate)
          (Engines.encoder .gzip level).fresh input.size session.stats.bytesIn fed :=
    h.feed hrests input room
  refine ⟨mk .gzip level chunk fed, congrArg (Prod.map id (mk .gzip level chunk)) hcall, ?_⟩
  intro later hlater
  rw [each_mk] at hlater ⊢
  have hlast := hstrands.calls hrests hinput hlater
  refine ⟨hlast.unread, hlast.bytesIn, fun room hroom => ?_⟩
  obtain ⟨b, done, hcall, hdone⟩ := hlast.finish hroom
  exact ⟨b, mk .gzip level chunk done, congrArg (Prod.map id (mk .gzip level chunk)) hcall, hdone⟩

end Trailers

/-- However a compressor is fed and finished, as long as its calls succeed: what it was fed is what
has been taken and what is left, and nothing is left when the stream is complete, but for one case.
In gzip the input that comes while the trailer waits for room is accepted and dropped. -/
theorem each_perform (codec : Codec) (level : Level)
    (hcarries : (Engines.encoder codec level).Carries codec.inner)
    (hrests : codec = .gzip → (Engines.encoder codec level).RestsBehind .deflate)
    (chunk : ChunkSize) {ds : List Demand} {answers : List (Outcome ByteArray)} {c : Compressor}
    (hrun : each perform (new codec level chunk) ds = (answers, c))
    (hok : ∀ answer ∈ answers, ∃ b, answer = .ok b) :
    c.stats.bytesIn + c.unread = (joined (ds.map Demand.input)).size ∧
    (c.session.finished = true → c.unread = 0 ∨
      ∃ before input room after, ds = before ++ .feed input room :: after ∧ input.size ≠ 0 ∧
        let late := (each perform (new codec level chunk) before).2
        late.Trails ∧ c.unread = input.size ∧ c.stats.bytesIn = late.stats.bytesIn) ∧
    (c.Trails → c.Drops) := by
  have hmk := each_mk codec level chunk
    { engine := newEncoder codec (Engines.encoder codec level) level } ds
  rcases hheld : each (Encoder.perform (engine codec level))
    { engine := newEncoder codec (Engines.encoder codec level) level } ds with ⟨answers', session⟩
  rw [hheld] at hmk
  cases hrun.symm.trans hmk
  have htotal := Encoder.each_total (engine codec level) _ hheld (by
    intro answer hmem t htrap
    obtain ⟨b, hb⟩ := hok answer hmem
    cases hb.symm.trans htrap)
  refine ⟨htotal, ?_⟩
  by_cases hcodec : codec = .gzip
  · subst hcodec
    have hclear : Gzip.Encoder.Clear ((Engines.encoder .gzip level).engine .deflate)
        (Engines.encoder .gzip level).fresh
        { engine := Gzip.Encoder.start level (Engines.encoder .gzip level).fresh } :=
      .inl ⟨Gzip.Encoder.underway_start level, rfl⟩
    have hend := hclear.calls hcarries (hrests rfl) hheld hok
    constructor
    · intro hfinished
      obtain (⟨-, hopen⟩ | ⟨-, hnone⟩) |
        ⟨before, input, room, after, hds, hinput, htrails, hstrands⟩ := hend
      · cases hfinished.symm.trans hopen
      · exact .inl hnone
      · refine .inr ⟨before, input, room, after, hds, hinput, ?_⟩
        rw [show each perform (new .gzip level chunk) before = _ from each_mk ..]
        exact ⟨trails_mk htrails chunk, hstrands.unread, hstrands.bytesIn⟩
    · intro htrails
      have hwaits := Gzip.Encoder.waits_of_trailer
        (hend.imp_right fun ⟨_, _, _, _, _, _, _, h⟩ => ⟨_, _, h⟩) htrails.trailing
      exact drops_mk (hrests rfl) ⟨hwaits, htrails.finished, htrails.unread⟩ chunk
  · have hN : (Engines.encoder codec level).Carries codec := by
      cases codec <;> first | exact hcarries | exact absurd rfl hcodec
    have hend := Encoder.each_carries (encodeEngine_carries hcodec hN level) hheld hok
    constructor
    · intro hfinished
      obtain ⟨-, hopen⟩ | ⟨-, hnone⟩ := hend
      · cases hfinished.symm.trans hopen
      · exact .inl hnone
    · intro htrails
      have htrailing := htrails.trailing
      cases codec <;> first | exact absurd rfl hcodec | cases htrailing

end Compressor

abbrev Deflate.Dialect.guardedEngines : Engines where
  encoder _ _ := (Encoder.packing pack).guarded
  decoder _ := grammar.decoder

namespace Compressor

/-- The trailer behind an empty body waits for room, and the byte that comes then is dropped. -/
theorem each_perform_byte :
    letI : Engines := Deflate.Dialect.guardedEngines
    let early := each perform (new .gzip .balanced .standard) [.feed ByteArray.empty 10, .close 4]
    let calls := [.feed ByteArray.empty 10, .close 4, .feed (Bytes.ofList [0x68]) 5, .close 64]
    let whole := each perform (new .gzip .balanced .standard) calls
    early.2.Drops ∧ whole.2.session.finished = true ∧
      whole.2.stats.bytesIn + whole.2.unread = 1 ∧
      ∃ before input room after, calls = before ++ .feed input room :: after ∧ input.size ≠ 0 ∧
        let late := (each perform (new .gzip .balanced .standard) before).2
        late.Trails ∧ whole.2.unread = input.size ∧
          whole.2.stats.bytesIn = late.stats.bytesIn := by
  let : Engines := Deflate.Dialect.guardedEngines
  intro early calls whole
  have hcarries := NativeEncoder.guarded_carries (Deflate.Encoder.packing Deflate.Dialect.pack)
  have hrests := NativeEncoder.guarded_restsBehind (Deflate.Encoder.packing Deflate.Dialect.pack)
  have hanswers : early.1 = [.ok (Gzip.Header.written .balanced), .ok (Bytes.ofList [3, 0, 0, 0])] ∧
      whole.1 = early.1 ++ [.ok ByteArray.empty, .ok (Bytes.ofList [0, 0, 0, 0, 0, 0])] := by
    decide +kernel
  have htrails :
      early.2.trailing = true ∧ early.2.session.finished = false ∧ early.2.unread = 0 := by
    decide +kernel
  have hend : whole.2.session.finished = true ∧ whole.2.unread = 1 := by decide +kernel
  have hearly : ∀ answer ∈ early.1, ∃ b, answer = .ok b := by simp [hanswers.1]
  have hwhole : ∀ answer ∈ whole.1, ∃ b, answer = .ok b := by simp [hanswers]
  obtain ⟨-, -, hdrops⟩ :=
    each_perform .gzip .balanced (hcarries .deflate) (fun _ => hrests .deflate) .standard
      (Prod.eta _).symm hearly
  obtain ⟨htotal, hlost, -⟩ :=
    each_perform .gzip .balanced (hcarries .deflate) (fun _ => hrests .deflate) .standard
      (show each perform _ calls = _ from (Prod.eta _).symm) hwhole
  have hsize : (joined (calls.map Demand.input)).size = 1 := by decide
  refine ⟨hdrops ⟨htrails.1, htrails.2.1, htrails.2.2⟩, hend.1, htotal.trans hsize, ?_⟩
  obtain hnone | hlate := hlost hend.1
  · cases hnone.symm.trans hend.2
  · exact hlate

/-- With the engines that come with this library too: all calls succeed, the stream is complete, and
what came while the trailer waited has not been taken. -/
theorem each_perform_late :
    let calls := [.feed ByteArray.empty 10, .close 4,
      .feed (Bytes.ofList [0x68, 0x65, 0x6c, 0x6c, 0x6f]) 64, .close 64]
    let r := each perform (new .gzip .balanced .standard) calls
    r.1.map (Outcome.map ByteArray.size) = [.ok 10, .ok 4, .ok 0, .ok 6] ∧
      r.2.session.finished = true ∧ r.2.unread = 5 ∧
      r.2.stats.bytesIn ≠ (joined (calls.map Demand.input)).size := by
  decide +kernel

end Compressor

end StreamCodec
