import StreamCodec.Stream.Growth

/-!
How a caller may go about it: one piece of input after the other, and windows of any sizes.
Call number `i` of a schedule has a window of `windows i` bytes. Each piece is offered once;
calls without input follow until one leaves a window short that has room.
-/

namespace StreamCodec

abbrev BoundedCall (σ : Type) := σ → (input : ByteArray) → (room : Nat) → Outcome ByteArray × σ

namespace BoundedCall

variable {σ τ : Type}

/-- Offers `input` and then calls without input until a call is short. What the calls write comes
behind `out`, and the last component is the number of the next call. -/
def drain (call : BoundedCall σ) (windows : Nat → Nat) (i : Nat) (s : σ) (input out : ByteArray) :
    Option (Outcome ByteArray × σ × Nat) :=
  match call s input (windows i) with
  | (.ok b, s) =>
    if b.size < windows i then some (.ok (out ++ b), s, i + 1)
    else call |>.drain windows (i + 1) s ByteArray.empty (out ++ b)
  | (.error e, s) => some (.error e, s, i + 1)
  | (.trap t, s) => some (.trap t, s, i + 1)
partial_fixpoint

variable {call : BoundedCall σ} {windows : Nat → Nat} {i : Nat} {s s' : σ} {input out b : ByteArray}

theorem drain_short (hcall : call s input (windows i) = (.ok b, s')) (h : b.size < windows i) :
    drain call windows i s input out = some (.ok (out ++ b), s', i + 1) := by
  rw [drain, hcall]
  simp only [if_pos h]

theorem drain_full (hcall : call s input (windows i) = (.ok b, s')) (h : ¬ b.size < windows i) :
    drain call windows i s input out = drain call windows (i + 1) s' ByteArray.empty
      (out ++ b) := by
  rw [drain, hcall]
  simp only [if_neg h]

theorem drain_error {e : Error} (hcall : call s input (windows i) = (.error e, s')) :
    drain call windows i s input out = some (.error e, s', i + 1) := by
  rw [drain, hcall]

/-- What the first call establishes and calls without input keep holds after a drain. -/
theorem drain_keeps {P : σ → Prop} (hfirst : P (call s input (windows i)).2)
    (hlater : ∀ s room, P s → P (call s ByteArray.empty room).2) {r : Outcome ByteArray × σ × Nat}
    (h : drain call windows i s input out = some r) : P r.2.1 := by
  refine drain.partial_correctness call windows
    (fun i s input _ r => P (call s input (windows i)).2 → P r.2.1) ?_ i s input out r h hfirst
  intro rest ih i s input out r hr hp
  rcases hcall : call s input (windows i) with ⟨answer, s'⟩
  rw [hcall] at hr hp
  cases answer with
  | ok b =>
    by_cases hshort : b.size < windows i
    · simp only [if_pos hshort, Option.some.injEq] at hr
      rw [← hr]
      exact hp
    · simp only [if_neg hshort] at hr
      exact ih _ _ _ _ _ hr (hlater _ _ hp)
  | error e =>
    simp only [Option.some.injEq] at hr
    rw [← hr]
    exact hp
  | trap t =>
    simp only [Option.some.injEq] at hr
    rw [← hr]
    exact hp

/-- A schedule runs the same over a state that holds another. -/
theorem drain_lift {held : BoundedCall τ} (wrap : τ → σ)
    (hwrap : ∀ t input room, call (wrap t) input room =
      ((held t input room).1, wrap (held t input room).2))
    {t : τ} {r : Outcome ByteArray × τ × Nat} (h : drain held windows i t input out = some r) :
    drain call windows i (wrap t) input out = some (r.1, wrap r.2.1, r.2.2) := by
  refine drain.partial_correctness held windows
    (fun i t input out r => drain call windows i (wrap t) input out = some (r.1, wrap r.2.1, r.2.2))
    ?_ i t input out r h
  intro rest ih i t input out r hr
  have hstep := hwrap t input (windows i)
  rcases hheld : held t input (windows i) with ⟨answer, t'⟩
  rw [hheld] at hr hstep
  cases answer with
  | ok b =>
    by_cases hshort : b.size < windows i
    · simp only [if_pos hshort, Option.some.injEq] at hr
      rw [drain_short hstep hshort, ← hr]
    · simp only [if_neg hshort] at hr
      rw [drain_full hstep hshort, ih _ _ _ _ _ hr]
  | error e =>
    simp only [Option.some.injEq] at hr
    rw [drain_error hstep, ← hr]
  | trap t =>
    simp only [Option.some.injEq] at hr
    rw [drain, hstep, ← hr]

end BoundedCall

namespace Schedule

open BoundedCall

variable {σ τ : Type}

/-- Drains one piece after the other, until there are no more or `stop` says so. -/
def feed (call : BoundedCall σ) (stop : σ → Bool) (windows : Nat → Nat) (i : Nat) (s : σ)
    (pieces : List ByteArray) (out : ByteArray) : Option (Outcome ByteArray × σ × Nat) :=
  match pieces with
  | [] => some (.ok out, s, i)
  | piece :: pieces =>
    if stop s then some (.ok out, s, i)
    else
      match drain call windows i s piece out with
      | some (.ok out, s, i) => feed call stop windows i s pieces out
      | r => r

def run (call : BoundedCall σ) (s : σ) (calls : List (ByteArray × Nat)) (out : ByteArray) :
    Outcome ByteArray × σ :=
  match calls with
  | [] => (.ok out, s)
  | (input, room) :: calls =>
    match call s input room with
    | (.ok b, s) => run call s calls (out ++ b)
    | r => r

/-- Makes the calls of a list one after the other, whatever they come to, and collects what they
come to. -/
def each {μ α : Type} (call : σ → μ → α × σ) (s : σ) : List μ → List α × σ
  | [] => ([], s)
  | m :: ms =>
    let (answer, s) := call s m
    let (answers, s) := each call s ms
    (answer :: answers, s)

@[simp] theorem each_nil {μ α : Type} (call : σ → μ → α × σ) (s : σ) : each call s [] = ([], s) :=
  rfl

theorem each_cons {μ α : Type} (call : σ → μ → α × σ) (s : σ) (m : μ) (ms : List μ) :
    each call s (m :: ms) =
      ((call s m).1 :: (each call (call s m).2 ms).1, (each call (call s m).2 ms).2) := rfl

theorem each_append {μ α : Type} (call : σ → μ → α × σ) (s : σ) (ms more : List μ) :
    each call s (ms ++ more) =
      ((each call s ms).1 ++ (each call (each call s ms).2 more).1,
        (each call (each call s ms).2 more).2) := by
  induction ms generalizing s with
  | nil => rfl
  | cons m ms ih => rw [List.cons_append, each_cons, each_cons, ih, List.cons_append]

section Each

variable {μ α : Type} {call : σ → μ → α × σ} {s : σ} {P : σ → Prop} {Q : α → Prop}

/-- What every call keeps holds behind all of them. -/
theorem each_keeps (hkeeps : ∀ s m, P s → P (call s m).2 ∧ Q (call s m).1) (hs : P s)
    (ms : List μ) :
    P (each call s ms).2 ∧ ∀ answer ∈ (each call s ms).1, Q answer := by
  induction ms generalizing s with
  | nil => exact ⟨hs, List.forall_mem_nil _⟩
  | cons m ms ih =>
    obtain ⟨hnext, hanswer⟩ := hkeeps s m hs
    obtain ⟨hlast, hanswers⟩ := ih hnext
    exact ⟨hlast, List.forall_mem_cons.mpr ⟨hanswer, hanswers⟩⟩

/-- What one call brings about and the later ones keep. -/
theorem each_enters (henters : ∀ s m, Q (call s m).1 → P (call s m).2)
    (hkeeps : ∀ s m, P s → P (call s m).2) {ms : List μ}
    (h : ∃ answer ∈ (each call s ms).1, Q answer) :
    P (each call s ms).2 := by
  induction ms generalizing s with
  | nil =>
    obtain ⟨answer, hmem, -⟩ := h
    cases hmem
  | cons m ms ih =>
    obtain ⟨answer, hmem, hanswer⟩ := h
    rw [each_cons] at hmem ⊢
    obtain rfl | hmem := List.mem_cons.mp hmem
    · have hkeeps' : ∀ s m, P s → P (call s m).2 ∧ True := fun s m hs => ⟨hkeeps s m hs, trivial⟩
      exact (each_keeps (Q := fun _ => True) hkeeps' (henters s m hanswer) ms).1
    · exact ih ⟨answer, hmem, hanswer⟩

/-- What the calls keep as long as their answers are good. -/
theorem each_keeps_while {ms : List μ}
    (hkeeps : ∀ s, ∀ m ∈ ms, P s → Q (call s m).1 → P (call s m).2) (hs : P s)
    (hgood : ∀ answer ∈ (each call s ms).1, Q answer) : P (each call s ms).2 := by
  induction ms generalizing s with
  | nil => exact hs
  | cons m ms ih =>
    rw [each_cons] at hgood ⊢
    obtain ⟨hfirst, hlater⟩ := List.forall_mem_cons.mp hgood
    have hnext := hkeeps s m (List.mem_cons_self ..) hs hfirst
    exact ih (fun s m hmem => hkeeps s m (List.mem_cons_of_mem _ hmem)) hnext hlater

/-- What is said of every answer by the call alone. -/
theorem each_map {β : Type} {f : α → β} {g : μ → β} (h : ∀ s m, f (call s m).1 = g m) (s : σ)
    (ms : List μ) : (each call s ms).1.map f = ms.map g := by
  induction ms generalizing s with
  | nil => rfl
  | cons m ms ih => rw [each_cons, List.map_cons, List.map_cons, ih, h]

theorem each_lift {held : τ → μ → α × τ} (wrap : τ → σ)
    (hwrap : ∀ t m, call (wrap t) m = ((held t m).1, wrap (held t m).2)) (t : τ) (ms : List μ) :
    each call (wrap t) ms = ((each held t ms).1, wrap (each held t ms).2) := by
  induction ms generalizing t with
  | nil => rfl
  | cons m ms ih => rw [each_cons, each_cons, hwrap, ih]

end Each

def joined (pieces : List ByteArray) : ByteArray := pieces.foldr (· ++ ·) ByteArray.empty

@[simp] theorem joined_nil : joined [] = ByteArray.empty := rfl

@[simp] theorem joined_cons (p : ByteArray) (ps : List ByteArray) :
    joined (p :: ps) = p ++ joined ps := rfl

theorem joined_append (ps qs : List ByteArray) : joined (ps ++ qs) = joined ps ++ joined qs := by
  induction ps with
  | nil => rw [List.nil_append, joined_nil, ByteArray.empty_append]
  | cons p ps ih => rw [List.cons_append, joined_cons, joined_cons, ih, ByteArray.append_assoc]

/-- Pieces with something in them come to nothing only when there are none. -/
theorem joined_size_eq_zero {pieces : List ByteArray} (hpieces : ∀ p ∈ pieces, p.size ≠ 0)
    (h : (joined pieces).size = 0) : pieces = [] := by
  cases pieces with
  | nil => rfl
  | cons p ps =>
    have hp := hpieces p (List.mem_cons_self ..)
    rw [joined_cons, ByteArray.size_append] at h
    omega

theorem feed_lift {call : BoundedCall σ} {held : BoundedCall τ} (wrap : τ → σ)
    (hwrap : ∀ t input room, call (wrap t) input room =
      ((held t input room).1, wrap (held t input room).2))
    {stop : σ → Bool} {windows : Nat → Nat} {i : Nat} {t : τ} {pieces : List ByteArray}
    {out : ByteArray} {r : Outcome ByteArray × τ × Nat}
    (h : feed held (fun t => stop (wrap t)) windows i t pieces out = some r) :
    feed call stop windows i (wrap t) pieces out = some (r.1, wrap r.2.1, r.2.2) := by
  induction pieces generalizing i t out with
  | nil =>
    cases h
    rfl
  | cons piece pieces ih =>
    unfold feed at h ⊢
    by_cases hstop : stop (wrap t) = true
    · rw [if_pos hstop] at h ⊢
      cases h
      rfl
    · rw [if_neg hstop] at h ⊢
      cases hdrain : drain held windows i t piece out with
      | none =>
        rw [hdrain] at h
        cases h
      | some r' =>
        rw [hdrain] at h
        rw [drain_lift wrap hwrap hdrain]
        obtain ⟨answer, t', j⟩ := r'
        cases answer with
        | ok b => exact ih h
        | error e =>
          cases h
          rfl
        | trap t =>
          cases h
          rfl

theorem run_lift {call : BoundedCall σ} {held : BoundedCall τ} (wrap : τ → σ)
    (hwrap : ∀ t input room, call (wrap t) input room =
      ((held t input room).1, wrap (held t input room).2))
    (t : τ) (calls : List (ByteArray × Nat)) (out : ByteArray) :
    run call (wrap t) calls out = ((run held t calls out).1, wrap (run held t calls out).2) := by
  induction calls generalizing t out with
  | nil => rfl
  | cons c calls ih =>
    obtain ⟨input, room⟩ := c
    have hstep := hwrap t input room
    rcases hheld : held t input room with ⟨answer, t'⟩
    rw [hheld] at hstep
    simp only [run, hstep, hheld]
    cases answer with
    | ok b => exact ih t' (out ++ b)
    | error e => rfl
    | trap t => rfl

/-- The growth loop is a schedule whose windows are all of one size. -/
theorem collect_of_drain {call : BoundedCall σ}
    (hfits : ∀ s input room b s', call s input room = (.ok b, s') → b.size ≤ room)
    {chunk : ChunkSize} {i : Nat} {s : σ} {input out : ByteArray} {r : Outcome ByteArray × σ × Nat}
    (h : drain call (fun _ => chunk.size) i s input out = some r) :
    Growth.collect (Growth.exactly call) chunk s input out = some (r.1, r.2.1) := by
  refine drain.partial_correctness call (fun _ => chunk.size)
    (fun _ s input out r => Growth.collect (Growth.exactly call) chunk s input out =
      some (r.1, r.2.1))
    ?_ i s input out r h
  intro rest ih i s input out r hr
  rcases hcall : call s input chunk.size with ⟨answer, s'⟩
  have hexactly : Growth.exactly call s input (Bytes.blank chunk.size) =
      (answer.map Growth.Reply.exactly, s') := by
    simp only [Growth.exactly, Bytes.size_blank, hcall]
  simp only [hcall] at hr
  rw [Growth.collect, hexactly]
  cases answer with
  | ok b =>
    have hle := hfits s input chunk.size b s' hcall
    simp only [Outcome.map, Growth.Reply.taken_blank hle]
    rw [if_neg (show ¬ chunk.size < (Growth.Reply.exactly b).count from Nat.not_lt.mpr hle)]
    by_cases hshort : b.size < chunk.size
    · simp only [if_pos hshort, Option.some.injEq] at hr
      rw [if_pos (show (Growth.Reply.exactly b).count < chunk.size from hshort), ← hr]
    · simp only [if_neg hshort] at hr
      rw [if_neg (show ¬ (Growth.Reply.exactly b).count < chunk.size from hshort), ih _ _ _ _ _ hr]
  | error e =>
    simp only [Option.some.injEq] at hr
    simp only [Outcome.map, ← hr]
  | trap t =>
    simp only [Option.some.injEq] at hr
    simp only [Outcome.map, ← hr]

end Schedule

end StreamCodec
