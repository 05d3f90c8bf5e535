import Mathlib.Data.Nat.Find
import StreamCodec.Stream.Schedule
import StreamCodec.Stream.Scripted

/-!
The growth loop against what it is meant to do. The calls that an adapter would get if the loop went
on for ever are numbered, each with its answer. The loop makes them up to the first one that does
not fill its window, which decides what the loop comes to; what it returns are the fronts of the
windows, one behind the other. A loop that works in one buffer, with a cursor behind the bytes so
far, is the same loop.
-/

namespace StreamCodec

namespace Growth

variable {σ : Type}

/-- A call that was made, and its answer. -/
structure Made where
  input : ByteArray
  window : ByteArray
  answer : Outcome Reply

namespace Call

def logged (call : Call σ) : Call (σ × List Made) := fun t input window =>
  ((call t.1 input window).1, (call t.1 input window).2,
    t.2 ++ [{ input, window, answer := (call t.1 input window).1 }])

section Numbered

variable (call : Call σ) (chunk : ChunkSize)

def inputAt (input : ByteArray) : Nat → ByteArray
  | 0 => input
  | _ + 1 => ByteArray.empty

def stateAt (s : σ) (input : ByteArray) : Nat → σ
  | 0 => s
  | k + 1 => stateAt (call s input (Bytes.zeros chunk.size)).2 ByteArray.empty k

def answerAt (s : σ) (input : ByteArray) (k : Nat) : Outcome Reply :=
  (call (stateAt call chunk s input k) (inputAt input k) (Bytes.zeros chunk.size)).1

def madeAt (s : σ) (input : ByteArray) (k : Nat) : Made where
  input := inputAt input k
  window := Bytes.zeros chunk.size
  answer := answerAt call chunk s input k

def frontAt (s : σ) (input : ByteArray) (k : Nat) : ByteArray :=
  match answerAt call chunk s input k with
  | .ok r => (r.fill (Bytes.zeros chunk.size)).extract 0 r.count
  | .error _ | .trap _ => ByteArray.empty

def madeBefore (s : σ) (input : ByteArray) (n : Nat) : List Made :=
  (List.range n).map (madeAt call chunk s input)

def writtenBefore (s : σ) (input : ByteArray) (n : Nat) : ByteArray :=
  Schedule.joined ((List.range n).map (frontAt call chunk s input))

def FillsAt (s : σ) (input : ByteArray) (k : Nat) : Prop :=
  ∃ r, answerAt call chunk s input k = .ok r ∧ r.count = chunk.size

/-- What the loop comes to if call number `n` is the last, with `out` from before. -/
def verdictAt (s : σ) (input out : ByteArray) (n : Nat) : Outcome ByteArray :=
  match answerAt call chunk s input n with
  | .ok r =>
    if chunk.size < r.count then .trap (.overReported r.count chunk.size)
    else .ok (out ++ writtenBefore call chunk s input (n + 1))
  | .error e => .error e
  | .trap t => .trap t

end Numbered

variable {call : Call σ} {chunk : ChunkSize} {s : σ} {input out : ByteArray} {n : Nat}

@[simp] theorem inputAt_empty (k : Nat) : inputAt ByteArray.empty k = ByteArray.empty := by
  cases k <;> rfl

@[simp] theorem inputAt_succ (k : Nat) : inputAt input (k + 1) = ByteArray.empty := rfl

/-- Behind the first call the loop goes on as if it began there, without input. -/
theorem answerAt_succ (k : Nat) : answerAt call chunk s input (k + 1) =
    answerAt call chunk (call s input (Bytes.zeros chunk.size)).2 ByteArray.empty k := by
  simp only [answerAt, stateAt, inputAt_succ, inputAt_empty]

theorem frontAt_succ (k : Nat) : frontAt call chunk s input (k + 1) =
    frontAt call chunk (call s input (Bytes.zeros chunk.size)).2 ByteArray.empty k := by
  simp only [frontAt, answerAt_succ]

theorem madeAt_succ (k : Nat) : madeAt call chunk s input (k + 1) =
    madeAt call chunk (call s input (Bytes.zeros chunk.size)).2 ByteArray.empty k := by
  simp only [madeAt, answerAt_succ, inputAt_succ, inputAt_empty]

theorem madeBefore_succ (n : Nat) : madeBefore call chunk s input (n + 1) =
    madeAt call chunk s input 0 ::
      madeBefore call chunk (call s input (Bytes.zeros chunk.size)).2 ByteArray.empty n := by
  simp only [madeBefore, List.range_succ_eq_map, List.map_cons, List.map_map, Function.comp_def,
    Nat.succ_eq_add_one, madeAt_succ]

theorem writtenBefore_succ (n : Nat) : writtenBefore call chunk s input (n + 1) =
    frontAt call chunk s input 0 ++
      writtenBefore call chunk (call s input (Bytes.zeros chunk.size)).2 ByteArray.empty n := by
  simp only [writtenBefore, List.range_succ_eq_map, List.map_cons, List.map_map, Function.comp_def,
    Nat.succ_eq_add_one, frontAt_succ, Schedule.joined_cons]

theorem fillsAt_succ (k : Nat) : FillsAt call chunk s input (k + 1) ↔
    FillsAt call chunk (call s input (Bytes.zeros chunk.size)).2 ByteArray.empty k := by
  simp only [FillsAt, answerAt_succ]

theorem verdictAt_succ (n : Nat) : verdictAt call chunk s input out (n + 1) =
    verdictAt call chunk (call s input (Bytes.zeros chunk.size)).2 ByteArray.empty
      (out ++ frontAt call chunk s input 0) n := by
  simp only [verdictAt, answerAt_succ, writtenBefore_succ, ByteArray.append_assoc]

/-- One round of the loop with a log. -/
theorem collect_round (log : List Made) : collect call.logged chunk (s, log) input out =
    match answerAt call chunk s input 0 with
    | .error e =>
      some (.error e, stateAt call chunk s input 1, log ++ [madeAt call chunk s input 0])
    | .trap t => some (.trap t, stateAt call chunk s input 1, log ++ [madeAt call chunk s input 0])
    | .ok r =>
      if chunk.size < r.count then
        some (.trap (.overReported r.count chunk.size), stateAt call chunk s input 1,
          log ++ [madeAt call chunk s input 0])
      else if r.count < chunk.size then
        some (.ok (out ++ frontAt call chunk s input 0), stateAt call chunk s input 1,
          log ++ [madeAt call chunk s input 0])
      else
        collect call.logged chunk (stateAt call chunk s input 1, log ++
          [madeAt call chunk s input 0])
          ByteArray.empty (out ++ frontAt call chunk s input 0) := by
  have hanswer : (call s input (Bytes.zeros chunk.size)).1 = answerAt call chunk s input 0 := rfl
  rw [collect]
  simp only [logged, Bytes.blank_eq_zeros, hanswer, frontAt, Reply.taken]
  cases h : answerAt call chunk s input 0 with
  | error e => rw [madeAt, h]; rfl
  | trap t => rw [madeAt, h]; rfl
  | ok r => rw [madeAt, h]; rfl

/-- The loop makes the calls up to the first that does not fill its window. -/
theorem collect_logged (hfull : ∀ k < n, FillsAt call chunk s input k)
    (hlast : ¬ FillsAt call chunk s input n) (log : List Made) :
    collect call.logged chunk (s, log) input out =
      some (verdictAt call chunk s input out n, stateAt call chunk s input (n + 1),
        log ++ madeBefore call chunk s input (n + 1)) := by
  induction n generalizing s input out log with
  | zero =>
    have hmade : madeBefore call chunk s input 1 = [madeAt call chunk s input 0] := rfl
    have hwritten : writtenBefore call chunk s input 1 = frontAt call chunk s input 0 :=
      ByteArray.append_empty
    rw [collect_round, verdictAt, hmade, hwritten]
    cases hanswer : answerAt call chunk s input 0 with
    | error e => rfl
    | trap t => rfl
    | ok r =>
      have hcount : r.count ≠ chunk.size := fun h => hlast ⟨r, hanswer, h⟩
      by_cases hover : chunk.size < r.count
      · simp only [if_pos hover]
      · simp only [if_neg hover, if_pos (show r.count < chunk.size by omega)]
  | succ n ih =>
    obtain ⟨r, hanswer, hcount⟩ := hfull 0 (Nat.succ_pos n)
    have hfull' : ∀ k < n, FillsAt call chunk (stateAt call chunk s input 1) ByteArray.empty k :=
      fun k hk => (fillsAt_succ k).mp (hfull (k + 1) (by omega))
    have hlast' := mt (fillsAt_succ n).mpr hlast
    rw [collect_round, hanswer, verdictAt_succ, madeBefore_succ]
    simp only [if_neg (show ¬ chunk.size < r.count by omega),
      if_neg (show ¬ r.count < chunk.size by omega)]
    rw [ih hfull' hlast', List.append_assoc]
    rfl

/-- A loop that ends has come to a call that does not fill its window. -/
theorem exists_last {t : σ × List Made} {r : Outcome ByteArray × σ × List Made}
    (h : collect call.logged chunk t input out = some r) :
    ∃ n, (∀ k < n, FillsAt call chunk t.1 input k) ∧ ¬ FillsAt call chunk t.1 input n := by
  refine Call.collect.partial_correctness call.logged chunk
    (fun t input _ _ => ∃ n, (∀ k < n, FillsAt call chunk t.1 input k) ∧
      ¬ FillsAt call chunk t.1 input n)
    ?_ t input out r h
  intro rest ih t input out r hr
  by_cases hfirst : FillsAt call chunk t.1 input 0
  · obtain ⟨reply, hanswer, hcount⟩ := hfirst
    have hcall : (call.logged t input (Bytes.blank chunk.size)).1 = .ok reply := by
      rw [Bytes.blank_eq_zeros]
      exact hanswer
    rcases hstep : call.logged t input (Bytes.blank chunk.size) with ⟨answer, t'⟩
    dsimp only at hr
    rw [hstep] at hr hcall
    cases hcall
    simp only [hcount, Nat.lt_irrefl, if_false] at hr
    obtain ⟨n, hfull, hlast⟩ := ih _ _ _ _ hr
    have hnext : t'.1 = stateAt call chunk t.1 input 1 := by
      rw [Bytes.blank_eq_zeros] at hstep
      exact (congrArg (·.2.1) hstep).symm
    rw [hnext] at hfull hlast
    refine ⟨n + 1, ?_, mt (fillsAt_succ n).mp hlast⟩
    intro k hk
    cases k with
    | zero => exact ⟨reply, hanswer, hcount⟩
    | succ k => exact (fillsAt_succ k).mpr (hfull k (by omega))
  · exact ⟨0, fun k hk => absurd hk (Nat.not_lt_zero k), hfirst⟩

/-- Calls that answer alike make loops that come to the same. -/
theorem collect_alike {τ : Type} {held : Call τ} {R : τ → σ → Prop}
    (hcall : ∀ t s input window, R t s → (held t input window).1 = (call s input window).1 ∧
      R (held t input window).2 (call s input window).2)
    {t : τ} (hR : R t s) {r : Outcome ByteArray × τ} (h : collect held chunk t input out = some r) :
    ∃ s', R r.2 s' ∧ collect call chunk s input out = some (r.1, s') := by
  refine Call.collect.partial_correctness held chunk
    (fun t input out r => ∀ s, R t s → ∃ s', R r.2 s' ∧
      collect call chunk s input out = some (r.1, s'))
    ?_ t input out r h s hR
  intro rest ih t input out r hr s hR
  obtain ⟨hanswer, hnext⟩ := hcall t s input (Bytes.blank chunk.size) hR
  rcases hheld : held t input (Bytes.blank chunk.size) with ⟨answer, t'⟩
  rcases hbare : call s input (Bytes.blank chunk.size) with ⟨answer', s'⟩
  dsimp only at hr
  rw [hheld] at hr
  rw [hheld, hbare] at hanswer hnext
  cases hanswer
  rw [collect, hbare]
  cases answer with
  | error e =>
    cases hr
    exact ⟨s', hnext, rfl⟩
  | trap x =>
    cases hr
    exact ⟨s', hnext, rfl⟩
  | ok reply =>
    by_cases hover : chunk.size < reply.count
    · simp only [if_pos hover] at hr ⊢
      cases hr
      exact ⟨s', hnext, rfl⟩
    · by_cases hshort : reply.count < chunk.size
      · simp only [if_neg hover, if_pos hshort] at hr ⊢
        cases hr
        exact ⟨s', hnext, rfl⟩
      · simp only [if_neg hover, if_neg hshort] at hr ⊢
        exact ih _ _ _ _ hr s' hnext

/-- The log changes nothing. -/
theorem collect_bare (log : List Made) : collect call chunk s input out =
    (collect call.logged chunk (s, log) input out).map fun r => (r.1, r.2.1) := by
  cases h : collect call.logged chunk (s, log) input out with
  | none =>
    rw [Option.map_none, Option.eq_none_iff_forall_ne_some]
    intro r hr
    have hnoted : ∀ (s : σ) (t : σ × List Made) (input window : ByteArray), t.1 = s →
        (call s input window).1 = (call.logged t input window).1 ∧
          (call.logged t input window).2.1 = (call s input window).2 := by
      rintro s t input window rfl
      exact ⟨rfl, rfl⟩
    obtain ⟨t, -, ht⟩ :=
      collect_alike (R := fun s t => t.1 = s) hnoted (s := (s, log)) rfl hr
    rw [h] at ht
    cases ht
  | some r =>
    have hbared : ∀ (t : σ × List Made) (s : σ) (input window : ByteArray), t.1 = s →
        (call.logged t input window).1 = (call s input window).1 ∧
          (call.logged t input window).2.1 = (call s input window).2 := by
      rintro t s input window rfl
      exact ⟨rfl, rfl⟩
    obtain ⟨s', hs', hbare⟩ := collect_alike (R := fun t s => t.1 = s) hbared rfl h
    rw [hbare, ← hs']
    rfl

end Call

namespace Reply

@[simp] theorem size_fill (r : Reply) (window : ByteArray) :
    (r.fill window).size = window.size := by
  simp only [fill, ByteArray.size_extract, ByteArray.size_append]
  omega

end Reply

def resize (buffer : ByteArray) (n : Nat) : ByteArray :=
  buffer.extract 0 n ++ Bytes.zeros (n - buffer.size)

/-- The loop over one buffer: the first `filled` bytes are written, and each call gets a window of
one chunk behind them. -/
def Call.collectInPlace (call : Call σ) (chunk : ChunkSize) (s : σ) (input buffer : ByteArray)
    (filled : Nat) : Option (Outcome ByteArray × σ) :=
  let wide := resize buffer (filled + chunk.size)
  let window := wide.extract filled wide.size
  match call s input window with
  | (.error e, s') => some (.error e, s')
  | (.trap t, s') => some (.trap t, s')
  | (.ok r, s') =>
    let buffer := wide.extract 0 filled ++ r.fill window
    if chunk.size < r.count then some (.trap (.overReported r.count chunk.size), s')
    else if r.count < chunk.size then some (.ok (resize buffer (filled + r.count)), s')
    else call |>.collectInPlace chunk s' ByteArray.empty buffer (filled + r.count)
partial_fixpoint

namespace Call

variable {call : Call σ} {chunk : ChunkSize} {s : σ} {input out : ByteArray}

/-- As long as the buffer ends where the written bytes end, the window is fresh and nothing else. -/
theorem resize_extend (out : ByteArray) (n : Nat) :
    resize out (out.size + n) = out ++ Bytes.blank n := by
  rw [resize, Bytes.extract_of_size_le out (Nat.le_add_right _ _), ByteArray.extract_zero_size,
    Nat.add_sub_cancel_left, Bytes.blank_eq_zeros]

theorem window_extend (out : ByteArray) (n : Nat) :
    (out ++ Bytes.blank n).extract out.size (out ++ Bytes.blank n).size = Bytes.blank n := by
  have hfresh := Bytes.extract_append_right out (Bytes.blank n) 0 (Bytes.blank n).size
  rw [Nat.add_zero, ByteArray.extract_zero_size] at hfresh
  rw [ByteArray.size_append, hfresh]

def round (call : Call σ) (chunk : ChunkSize)
    (rest : σ → ByteArray → Option (Outcome ByteArray × σ))
    (s : σ) (input out : ByteArray) : Option (Outcome ByteArray × σ) :=
  match call s input (Bytes.blank chunk.size) with
  | (.error e, s') => some (.error e, s')
  | (.trap t, s') => some (.trap t, s')
  | (.ok r, s') =>
    if chunk.size < r.count then some (.trap (.overReported r.count chunk.size), s')
    else if r.count < chunk.size then some (.ok (out ++ r.taken (Bytes.blank chunk.size)), s')
    else rest s' (out ++ r.taken (Bytes.blank chunk.size))

theorem collect_eq_round (s : σ) (input out : ByteArray) : collect call chunk s input out =
    round call chunk (fun s out => collect call chunk s ByteArray.empty out) s input out := by
  rw [collect]
  rfl

/-- Where the rounds behind it come to something, a round comes to the same with other rounds that
do so too. -/
theorem round_imp {rest rest' : σ → ByteArray → Option (Outcome ByteArray × σ)}
    {r : Outcome ByteArray × σ} (hrest : ∀ s out, rest s out = some r → rest' s out = some r)
    (h : round call chunk rest s input out = some r) :
    round call chunk rest' s input out = some r := by
  unfold round at h ⊢
  rcases hcall : call s input (Bytes.blank chunk.size) with ⟨answer, s'⟩
  rw [hcall] at h
  cases answer with
  | error e => exact h
  | trap t => exact h
  | ok reply =>
    dsimp only at h ⊢
    by_cases hover : chunk.size < reply.count
    · rw [if_pos hover] at h ⊢
      exact h
    · rw [if_neg hover] at h ⊢
      by_cases hshort : reply.count < chunk.size
      · rw [if_pos hshort] at h ⊢
        exact h
      · rw [if_neg hshort] at h ⊢
        exact hrest _ _ h

/-- One round in a buffer that ends where the written bytes end. -/
theorem round_in_place (rest : σ → ByteArray → ByteArray → Nat → Option (Outcome ByteArray × σ))
    (s : σ) (input out : ByteArray) :
    (let wide := resize out (out.size + chunk.size)
      let window := wide.extract out.size wide.size
      match call s input window with
      | (.error e, s') => some (.error e, s')
      | (.trap t, s') => some (.trap t, s')
      | (.ok r, s') =>
        let buffer := wide.extract 0 out.size ++ r.fill window
        if chunk.size < r.count then some (.trap (.overReported r.count chunk.size), s')
        else if r.count < chunk.size then some (.ok (resize buffer (out.size + r.count)), s')
        else rest s' ByteArray.empty buffer (out.size + r.count) : Option (Outcome ByteArray × σ)) =
      round call chunk (fun s out => rest s ByteArray.empty out out.size) s input out := by
  simp only [round, resize_extend, window_extend, Bytes.extract_append_left out _ (Nat.le_refl _),
    ByteArray.extract_zero_size]
  rcases call s input (Bytes.blank chunk.size) with ⟨answer, s'⟩
  cases answer with
  | error e => rfl
  | trap t => rfl
  | ok r =>
    have hsize : (r.fill (Bytes.blank chunk.size)).size = chunk.size := by
      rw [Reply.size_fill, Bytes.size_blank]
    by_cases hover : chunk.size < r.count
    · simp only [if_pos hover]
    · by_cases hshort : r.count < chunk.size
      · have htrim : resize (out ++ r.fill (Bytes.blank chunk.size)) (out.size + r.count) =
            out ++ r.taken (Bytes.blank chunk.size) := by
          have hnone : out.size + r.count - (out ++ r.fill (Bytes.blank chunk.size)).size = 0 := by
            rw [ByteArray.size_append, hsize]
            omega
          rw [resize, hnone, Bytes.extract_append_of_le _ _ (Nat.le_add_right _ _),
            Nat.add_sub_cancel_left]
          exact ByteArray.append_empty
        simp only [if_neg hover, if_pos hshort, htrim]
      · have hcount : r.count = (r.fill (Bytes.blank chunk.size)).size := by omega
        have htaken : r.taken (Bytes.blank chunk.size) = r.fill (Bytes.blank chunk.size) := by
          rw [Reply.taken, hcount, ByteArray.extract_zero_size]
        have hend : (out ++ r.fill (Bytes.blank chunk.size)).size = out.size + r.count := by
          rw [ByteArray.size_append, hcount]
        simp only [if_neg hover, if_neg hshort, htaken, hend]

/-- The loop over one buffer is the loop that joins what the calls wrote. -/
theorem collectInPlace_eq (call : Call σ) (chunk : ChunkSize) (s : σ) (input out : ByteArray) :
    collectInPlace call chunk s input out out.size = collect call chunk s input out := by
  apply Option.ext
  intro r
  constructor
  · intro h
    refine Call.collectInPlace.partial_correctness call chunk
      (fun s input buffer filled r => filled = buffer.size →
        collect call chunk s input buffer = some r)
      ?_ s input out out.size r h rfl
    rintro rest ih s input out _ r hr rfl
    have hround := (round_in_place rest s input out).symm.trans hr
    rw [collect_eq_round]
    exact round_imp (fun s out h => ih _ _ _ _ _ h rfl) hround
  · intro h
    refine Call.collect.partial_correctness call chunk
      (fun s input out r => collectInPlace call chunk s input out out.size = some r) ?_ s input out
        r h
    intro rest ih s input out r hr
    have hround : round call chunk (fun s out => rest s ByteArray.empty out) s input out = some r :=
      hr
    rw [collectInPlace, round_in_place]
    exact round_imp (fun s out h => ih _ _ _ _ h) hround

/-- What the loop is meant to do, over an adapter that may do as it likes. The loop that ends a
stream is the one whose input is empty and whose calls have no use for any. -/
structure Refines (call : Call σ) (chunk : ChunkSize) (s : σ) (input : ByteArray) : Prop where
  bare : collect call chunk s input ByteArray.empty =
    (collect call.logged chunk (s, []) input ByteArray.empty).map fun r => (r.1, r.2.1)
  short : ∀ n r, (∀ k < n, FillsAt call chunk s input k) → answerAt call chunk s input n = .ok r →
    r.count < chunk.size → collect call.logged chunk (s, []) input ByteArray.empty =
      some (.ok (writtenBefore call chunk s input (n + 1)), stateAt call chunk s input (n + 1),
        madeBefore call chunk s input (n + 1))
  failed : ∀ n e, (∀ k < n, FillsAt call chunk s input k) →
    answerAt call chunk s input n = .error e →
    collect call.logged chunk (s, []) input ByteArray.empty =
      some (.error e, stateAt call chunk s input (n + 1), madeBefore call chunk s input (n + 1))
  trapped : ∀ n t, (∀ k < n, FillsAt call chunk s input k) →
    answerAt call chunk s input n = .trap t →
    collect call.logged chunk (s, []) input ByteArray.empty =
      some (.trap t, stateAt call chunk s input (n + 1), madeBefore call chunk s input (n + 1))
  tooMuch : ∀ n r, (∀ k < n, FillsAt call chunk s input k) → answerAt call chunk s input n = .ok r →
    chunk.size < r.count → ∃ t : Trap,
      t.message = s!"bounded call reported {r.count} bytes for a {chunk.size}-byte window" ∧
        collect call.logged chunk (s, []) input ByteArray.empty =
          some (.trap t, stateAt call chunk s input (n + 1), madeBefore call chunk s input (n + 1))
  calls : ∀ n, (madeBefore call chunk s input (n + 1)).length = n + 1
  ends_iff : (collect call chunk s input ByteArray.empty).isSome = true ↔
    ∃ n, ¬ FillsAt call chunk s input n
  inPlace : collectInPlace call chunk s input ByteArray.empty 0 =
    collect call chunk s input ByteArray.empty

/-- A call that answers with another count does not fill its window. -/
theorem not_fillsAt {n : Nat} {r : Reply} (hanswer : answerAt call chunk s input n = .ok r)
    (hcount : r.count ≠ chunk.size) : ¬ FillsAt call chunk s input n := by
  rintro ⟨r', hanswer', hcount'⟩
  cases hanswer.symm.trans hanswer'
  exact hcount hcount'

/-- Where some call does not fill its window, there is a first one. -/
theorem exists_first (h : ∃ n, ¬ FillsAt call chunk s input n) :
    ∃ n, (∀ k < n, FillsAt call chunk s input k) ∧ ¬ FillsAt call chunk s input n := by
  classical
  exact ⟨Nat.find h, fun k hk => not_not.mp (Nat.find_min h hk), Nat.find_spec h⟩

theorem collect_refines (call : Call σ) (chunk : ChunkSize) (s : σ) (input : ByteArray) :
    Refines call chunk s input := by
  have hends : ∀ n, (∀ k < n, FillsAt call chunk s input k) → ¬ FillsAt call chunk s input n →
      collect call.logged chunk (s, []) input ByteArray.empty =
        some (verdictAt call chunk s input ByteArray.empty n, stateAt call chunk s input (n + 1),
          madeBefore call chunk s input (n + 1)) :=
    fun n hfull hlast => collect_logged hfull hlast []
  refine ⟨collect_bare [], ?_, ?_, ?_, ?_, ?_, ?_,
    collectInPlace_eq call chunk s input ByteArray.empty⟩
  · intro n r hfull hanswer hcount
    have hlast : ¬ FillsAt call chunk s input n := not_fillsAt hanswer (by omega)
    rw [hends n hfull hlast, verdictAt, hanswer]
    simp only [if_neg (show ¬ chunk.size < r.count by omega), ByteArray.empty_append]
  · intro n e hfull hanswer
    have hlast : ¬ FillsAt call chunk s input n := by
      rintro ⟨r, hanswer', -⟩
      cases hanswer.symm.trans hanswer'
    rw [hends n hfull hlast, verdictAt, hanswer]
  · intro n t hfull hanswer
    have hlast : ¬ FillsAt call chunk s input n := by
      rintro ⟨r, hanswer', -⟩
      cases hanswer.symm.trans hanswer'
    rw [hends n hfull hlast, verdictAt, hanswer]
  · intro n r hfull hanswer hcount
    have hlast : ¬ FillsAt call chunk s input n := not_fillsAt hanswer (by omega)
    refine ⟨.overReported r.count chunk.size, rfl, ?_⟩
    rw [hends n hfull hlast, verdictAt, hanswer]
    simp only [if_pos hcount]
  · intro n
    rw [madeBefore, List.length_map, List.length_range]
  · rw [collect_bare [], Option.isSome_map]
    constructor
    · intro hsome
      obtain ⟨r, hr⟩ := Option.isSome_iff_exists.mp hsome
      obtain ⟨n, -, hlast⟩ := exists_last hr
      exact ⟨n, hlast⟩
    · intro h
      obtain ⟨n, hfull, hlast⟩ := exists_first h
      rw [hends n hfull hlast]
      rfl

def countAt (call : Call σ) (chunk : ChunkSize) (s : σ) (input : ByteArray) (k : Nat) :
    Option Nat :=
  match answerAt call chunk s input k with
  | .ok r => some r.count
  | .error _ | .trap _ => none

theorem exists_reply {k count : Nat} (h : countAt call chunk s input k = some count) :
    ∃ r, answerAt call chunk s input k = .ok r ∧ r.count = count := by
  rw [countAt] at h
  cases hanswer : answerAt call chunk s input k with
  | ok r =>
    rw [hanswer] at h
    exact ⟨r, rfl, Option.some.inj h⟩
  | error e | trap t =>
    rw [hanswer] at h
    cases h

/-- Two full windows of four bytes and a short one, and a report that is too large. -/
theorem collect_refines_script :
    let chunk : ChunkSize := { size := 4 }
    let s : Scripted := { script := [.count 4, .count 4, .count 1] }
    let input := Bytes.ofList [7]
    (∃ last calls, collect Scripted.call.logged chunk (s, []) input ByteArray.empty =
        some (.ok (Bytes.ofList [1, 2, 3, 4, 5, 6, 7, 8, 9]), last, calls) ∧
        calls.map (·.input) = [Bytes.ofList [7], ByteArray.empty, ByteArray.empty]) ∧
      ∃ t last calls, collect Scripted.call.logged chunk ({ script := [.count 5] }, []) input
        ByteArray.empty = some (.trap t, last, calls) ∧
        t.message = "bounded call reported 5 bytes for a 4-byte window" := by
  intro chunk s input
  constructor
  · have hfull : ∀ k < 2, FillsAt Scripted.call chunk s input k := by
      have hcounts : ∀ k < 2, countAt Scripted.call chunk s input k = some 4 := by decide +kernel
      exact fun k hk => exists_reply (hcounts k hk)
    obtain ⟨r, hanswer, hcount⟩ :=
      exists_reply (show countAt Scripted.call chunk s input 2 = some 1 by decide +kernel)
    have hshort := (collect_refines Scripted.call chunk s input).short 2 r hfull hanswer
      (by rw [hcount]; decide)
    have hwritten : writtenBefore Scripted.call chunk s input 3 =
        Bytes.ofList [1, 2, 3, 4, 5, 6, 7, 8, 9] := by decide +kernel
    rw [hwritten] at hshort
    exact ⟨_, _, hshort, rfl⟩
  · have hfull : ∀ k < 0, FillsAt Scripted.call chunk { script := [.count 5] } input k :=
      fun k hk => absurd hk (Nat.not_lt_zero k)
    obtain ⟨r, hanswer, hcount⟩ := exists_reply
      (show countAt Scripted.call chunk { script := [.count 5] } input 0 = some 5 by decide +kernel)
    obtain ⟨t, ht, hrun⟩ :=
      (collect_refines Scripted.call chunk { script := [.count 5] } input).tooMuch 0 r
      hfull hanswer (by rw [hcount]; decide)
    rw [hcount] at ht
    exact ⟨t, _, _, hrun, ht.trans (by decide +kernel)⟩

end Call

end Growth

end StreamCodec
