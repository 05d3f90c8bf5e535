import Mathlib.Data.List.Induction
import StreamCodec.Proofs.Dialect
import StreamCodec.Proofs.Gzip.Visiting
import StreamCodec.Proofs.Watching

/-!
From the header to the body. A header may arrive in any pieces, with bytes behind it in the last
one. Whatever they are, the decoder takes the header and not a byte more, and a session over the
decoder offers the body engine first what stands right behind the header.
-/

namespace StreamCodec

namespace Decoder

variable {σ : Type} {E : DecodeEngine σ} {engine engine' : σ} {l : Ledger} {room : Nat}

/-- What the first step of a call brings about and the steps keep. -/
theorem run_enters {P : σ → Prop} (hkeeps : ∀ s input room, P s → P (E.decode s input room).2)
    (hfirst : P (E.decode engine l.pending.remaining room).2) (out : ByteArray) :
    P (run E engine l room out).2.engine := by
  fun_induction run E engine l room out with
  | case1 engine l room out e engine' hcall
  | case2 engine l room out t engine' hcall
  | case3 engine l room out step engine' hcall
  | case4 engine l room out step engine' hcall
  | case5 engine l room out step engine' hcall
  | case6 engine l out step engine' l' hdone hcall
  | case7 engine l room out step engine' hcall =>
    rw [hcall] at hfirst
    exact hfirst
  | case8 engine l room out step engine' hcall l' hbook hdone hfull hidle ih =>
    rw [hcall] at hfirst
    exact ih (hkeeps _ _ _ hfirst)

/-- A step that takes input and writes nothing: the call goes on if there is room. -/
theorem run_progress {k : Nat}
    (hcall : E.decode engine l.pending.remaining room =
      (.ok (.progress k ByteArray.empty), engine'))
    (hpos : 0 < k) (hle : k ≤ l.pending.unread) (out : ByteArray) :
    ∃ l', l'.pending.remaining = l.pending.remaining.drop k ∧
      l'.stats.bytesIn = l.stats.bytesIn + k ∧
      run E engine l room out =
        if room = 0 then (.ok out, { engine := engine', ledger := l' })
        else run E engine' l' room out := by
  have hwithin : (Step.progress k ByteArray.empty).Within l.pending.unread room :=
    ⟨hle, Nat.zero_le _⟩
  obtain ⟨l', hbook⟩ := Ledger.book_ok hwithin
  obtain ⟨-, hrest, htotals⟩ := Ledger.book_inv hbook
  refine ⟨l', hrest, by rw [htotals, Stats.bytesIn_record]; rfl, ?_⟩
  have hmoved : ¬ (Step.progress k ByteArray.empty).isIdle = true := by
    rw [Step.isIdle_iff]
    exact fun h => absurd h.1 (Nat.ne_of_gt hpos)
  rw [run_step hcall hbook, if_neg hmoved]
  simp only [Step.progress, Bool.false_eq_true, if_false, ByteArray.size_empty, Nat.sub_zero,
    ByteArray.append_empty]

/-- A bounded call, and what it takes in: nothing where input comes too early. -/
def intake (E : DecodeEngine σ) (d : Decoder σ) (m : ByteArray × Nat) : ByteArray × Decoder σ :=
  (if d.ledger.pending.unread = 0 then m.1 else ByteArray.empty, (d.decompressInto E m.1 m.2).2)

/-- A call leaves the session alone, or goes on with the input behind what was unread. -/
theorem intake_cases (E : DecodeEngine σ) (d : Decoder σ) (m : ByteArray × Nat) :
    intake E d m = (ByteArray.empty, d) ∨
      ∃ q, q.remaining.toBytes = d.ledger.pending.remaining.toBytes ++ (intake E d m).1 ∧
        (intake E d m).2 =
          if d.finished then { d with ledger.pending := q }
          else (run E d.engine { d.ledger with pending := q } m.2 ByteArray.empty).2 := by
  by_cases hearly : m.1.size ≠ 0 ∧ d.ledger.pending.unread ≠ 0
  · rw [intake, if_neg hearly.2, decompressInto_early E hearly.1 hearly.2]
    exact .inl rfl
  · have hfits : m.1.size = 0 ∨ d.ledger.pending.unread = 0 := by omega
    obtain ⟨q, haccept, hrest⟩ := Pending.accept_ok E.codec hfits
    have hall : (intake E d m).1 = m.1 := by
      obtain hnone | hunread := hfits
      · rw [intake, ByteArray.size_eq_zero_iff.mp hnone]
        exact ite_self _
      · exact if_pos hunread
    refine .inr ⟨q, by rw [hall, hrest], ?_⟩
    have hcall := decompressInto_accepted E d.engine haccept d.finished m.2
    show (d.decompressInto E m.1 m.2).2 = _
    rw [hcall]
    cases d.finished <;> rfl

end Decoder

namespace Gzip

open Schedule

/-- A front of a header with anything behind it is open up to the end of the header, and from there
on it tells the length. -/
theorem Header.Whole.parse_extract {h : ByteArray} (hwhole : Whole h) (rest : ByteArray) (n : Nat) :
    parse ((h ++ rest).extract 0 n) = .ok (if n < h.size then none else some h.size) := by
  by_cases hn : n < h.size
  · rw [if_pos hn, Bytes.extract_append_left h rest (Nat.le_of_lt hn)]
    exact parse_front_open hwhole.parse_eq hn
  · rw [if_neg hn, Bytes.extract_append_of_le h rest (Nat.not_lt.mp hn)]
    exact parse_append hwhole.parse_eq _

namespace Decoder

open DecodeEngine
open StreamCodec.Decoder (run run_enters run_idle run_progress intake intake_cases)

variable {σ : Type} {E : DecodeEngine σ} {s₀ : σ} {h seen rest more : ByteArray} {input : Slice}
  {room : Nat}

def holding (s₀ : σ) (seen : ByteArray) : Decoder σ := { part := .header seen, body := s₀ }

def ready (s₀ : σ) : Decoder σ := { part := .body, body := s₀ }

theorem decode_holding (E : DecodeEngine σ) (s₀ : σ) (seen : ByteArray) (input : Slice)
    (room : Nat) :
    decode E (holding s₀ seen) input room = readHeader (holding s₀ seen) seen input := rfl

theorem gathered_eq (hsize : seen.size ≤ Header.maxSize) (input : Slice) :
    gathered seen input = (seen ++ input.toBytes).extract 0 Header.maxSize := by
  rw [gathered, Bytes.extract_append_of_le _ _ hsize, ← Slice.take_eq_extract, Slice.take_min_size]

theorem readHeader_eq (s : Decoder σ) (seen : ByteArray) (hinput : input.size ≠ 0) :
    s.readHeader seen input =
      match Header.parse (gathered seen input) with
      | .error f => (.error (rejection f), { s with part := .header (gathered seen input) })
      | .ok (some n) =>
        (.ok (.progress (n - seen.size) ByteArray.empty), { s with part := .body })
      | .ok none =>
        if (gathered seen input).size = Header.maxSize then
          (.error (rejection .headerTooLong), { s with part := .header (gathered seen input) })
        else
          (.ok (.progress (min input.size (Header.maxSize - seen.size)) ByteArray.empty),
            { s with part := .header (gathered seen input) }) := by
  rw [readHeader, if_neg (mt Slice.isEmpty_iff.mp hinput)]
  rfl

/-- One offer of a header with anything behind it: either it ends here, and what it was short of is
taken, or it goes on, and all is taken. -/
theorem decode_of_whole (E : DecodeEngine σ) (s₀ : σ) (hwhole : Header.Whole h)
    (hshort : seen.size < h.size) (hinput : input.size ≠ 0)
    (hsplit : seen ++ input.toBytes ++ more = h ++ rest) (room : Nat) :
    decode E (holding s₀ seen) input room =
      if h.size ≤ seen.size + input.size then
        (.ok (.progress (h.size - seen.size) ByteArray.empty), ready s₀)
      else
        (.ok (.progress input.size ByteArray.empty), holding s₀ (seen ++ input.toBytes)) := by
  have hmax := hwhole.size_le
  have hoffered : (seen ++ input.toBytes).size = seen.size + input.size := by
    rw [ByteArray.size_append, Slice.size_toBytes]
  have hfront : gathered seen input =
      (h ++ rest).extract 0 (min Header.maxSize (seen.size + input.size)) := by
    rw [← hsplit, Bytes.extract_append_left _ more (by omega), ← hoffered, Bytes.extract_min_size,
      gathered_eq (by omega)]
  rw [decode_holding, readHeader_eq _ _ hinput, hfront, hwhole.parse_extract rest]
  by_cases hends : h.size ≤ seen.size + input.size
  · rw [if_pos hends, if_neg (by omega)]
    rfl
  · have hall : (h ++ rest).extract 0 (min Header.maxSize (seen.size + input.size)) =
        seen ++ input.toBytes := by
      rw [Nat.min_eq_right (by omega), ← hsplit, ← hoffered,
        Bytes.extract_append_left _ _ (Nat.le_refl _), ByteArray.extract_zero_size]
    have hopen : ¬ (seen ++ input.toBytes).size = Header.maxSize := by omega
    rw [if_neg hends, if_pos (by omega), hall]
    simp only [if_neg hopen,
      Nat.min_eq_left (show input.size ≤ Header.maxSize - seen.size by omega)]
    rfl

/-- What the end of a header leaves of the offer that it came in. -/
theorem drop_of_whole (hends : h.size ≤ seen.size + input.size) (hshort : seen.size < h.size)
    (hsplit : seen ++ input.toBytes ++ more = h ++ rest) :
    seen ++ input.take (h.size - seen.size) = h ∧
      (input.drop (h.size - seen.size)).toBytes ++ more = rest := by
  have hbytes : (seen ++ input.take (h.size - seen.size)) ++
      ((input.drop (h.size - seen.size)).toBytes ++ more) = h ++ rest := by
    rw [← hsplit, ← Slice.take_append_drop input (h.size - seen.size)]
    simp only [ByteArray.append_assoc]
  have hsize : (seen ++ input.take (h.size - seen.size)).size = h.size := by
    rw [ByteArray.size_append, Slice.size_take]
    omega
  have hfront := congrArg (·.extract 0 h.size) hbytes
  have hback := congrArg (fun b => b.extract h.size b.size) hbytes
  simp only [ByteArray.extract_append_eq_left hsize.symm, ByteArray.extract_append_eq_left rfl,
    ByteArray.extract_append_eq_right hsize.symm ByteArray.size_append,
    ByteArray.extract_append_eq_right rfl ByteArray.size_append] at hfront hback
  exact ⟨hfront, hback⟩

def offer (E : DecodeEngine σ) (s : Decoder σ) (m : Slice × Nat) : Outcome Step × Decoder σ :=
  decode E s m.1 m.2

def offered (offers : List (Slice × Nat)) : ByteArray := joined (offers.map fun m => m.1.toBytes)

/-- Offers are taken whole up to the one in which the header ends. -/
theorem offers_part (E : DecodeEngine σ) (s₀ : σ) (hwhole : Header.Whole h)
    {offers : List (Slice × Nat)} (hoffers : ∀ m ∈ offers, m.1.size ≠ 0)
    (hshort : seen.size < h.size) (hsplit : seen ++ offered offers = h ++ rest) :
    ∃ before last after k, offers = before ++ last :: after ∧ 0 < k ∧ k ≤ last.1.size ∧
      seen ++ offered before ++ last.1.take k = h ∧
      (last.1.drop k).toBytes ++ offered after = rest ∧
      each (offer E) (holding s₀ seen) before =
        (before.map fun m => .ok (.progress m.1.size ByteArray.empty),
          holding s₀ (seen ++ offered before)) ∧
      decode E (holding s₀ (seen ++ offered before)) last.1 last.2 =
        (.ok (.progress k ByteArray.empty), ready s₀) := by
  induction offers generalizing seen with
  | nil =>
    have hsizes := congrArg ByteArray.size hsplit
    rw [offered, List.map_nil, joined_nil, ByteArray.append_empty, ByteArray.size_append] at hsizes
    omega
  | cons m offers ih =>
    obtain ⟨hfirst, hlater⟩ := List.forall_mem_cons.mp hoffers
    have hsplit' : seen ++ m.1.toBytes ++ offered offers = h ++ rest := by
      rw [← hsplit, ByteArray.append_assoc]
      rfl
    have hcall := decode_of_whole E s₀ hwhole hshort hfirst hsplit' m.2
    by_cases hends : h.size ≤ seen.size + m.1.size
    · rw [if_pos hends] at hcall
      obtain ⟨hheader, hrest⟩ := drop_of_whole hends hshort hsplit'
      have hnone : seen ++ offered [] = seen := ByteArray.append_empty
      refine ⟨[], m, offers, h.size - seen.size, rfl, by omega, by omega, ?_, hrest, ?_, ?_⟩
      · rw [hnone, hheader]
      · rw [each_nil, hnone, List.map_nil]
      · rw [hnone, hcall]
    · rw [if_neg hends] at hcall
      have hshort' : (seen ++ m.1.toBytes).size < h.size := by
        rw [ByteArray.size_append, Slice.size_toBytes]
        omega
      obtain ⟨before, last, after, k, rfl, hpos, hle, hheader, hrest, hbefore, hlast⟩ :=
        ih hlater hshort' hsplit'
      have hcons : seen ++ offered (m :: before) = seen ++ m.1.toBytes ++ offered before :=
        ByteArray.append_assoc.symm
      refine ⟨m :: before, last, after, k, rfl, hpos, hle, ?_, hrest, ?_, ?_⟩
      · rw [hcons, hheader]
      · rw [each_cons, offer, hcall, hcons]
        simp only [hbefore, List.map_cons]
      · rw [hcons, hlast]

theorem body_readHeader (s : Decoder σ) (seen : ByteArray) (input : Slice) :
    (s.readHeader seen input).2.body = s.body := by
  by_cases hinput : input.size = 0
  · rw [readHeader, if_pos (Slice.isEmpty_iff.mpr hinput)]
  · rw [readHeader_eq s seen hinput]
    split
    · rfl
    · rfl
    · split <;> rfl

theorem body_readTrailer (s : Decoder σ) (seen : ByteArray) (input : Slice) :
    (s.readTrailer seen input).2.body = s.body := by
  unfold readTrailer
  simp only
  split
  · rfl
  · split
    · rfl
    · split <;> rfl

theorem body_readBody (E : DecodeEngine σ) (s : Decoder σ) (input : Slice) (room : Nat) :
    (s.readBody E input room).2.body = (E.decode s.body input room).2 := by
  unfold readBody
  split <;> next hcall => rw [hcall]

section Watched

variable {s : Decoder (σ × List Asked)} {first : Asked} {l : Ledger} {out whole : ByteArray}
  {d : StreamCodec.Decoder (Decoder (σ × List Asked))}

/-- The body engine has been called, and first of all with `first`. -/
def Led (first : Asked) (s : Decoder (σ × List Asked)) : Prop := ∃ later, s.body.2 = first :: later

/-- What has been asked of the body engine stays on its log. -/
theorem Led.decode (h : Led first s) (E : DecodeEngine σ) (input : Slice) (room : Nat) :
    Led first (decode E.watched s input room).2 := by
  obtain ⟨later, hlog⟩ := h
  rw [Led]
  cases hpart : s.part with
  | header seen =>
    rw [decode_header _ s input room hpart, body_readHeader]
    exact ⟨later, hlog⟩
  | body =>
    have hnext : (E.watched.decode s.body input room).2.2 =
        s.body.2 ++ [.mk input room (E.decode s.body.1 input room).1] := watched_log rfl
    rw [decode_body _ s input room hpart, body_readBody, hnext, hlog]
    exact ⟨_, rfl⟩
  | trailer seen =>
    rw [decode_trailer _ s input room hpart, body_readTrailer]
    exact ⟨later, hlog⟩
  | done =>
    rw [decode_done _ s input room hpart]
    exact ⟨later, hlog⟩

/-- A decoder that has the header calls the body engine, with what it is offered. -/
theorem led_ready (E : DecodeEngine σ) (s₀ : σ) (input : Slice) (room : Nat) :
    Led { input, room, answer := (E.decode s₀ input room).1 }
      (Decoder.decode E.watched (ready (s₀, [])) input room).2 := by
  rw [Led, decode_body _ _ input room rfl, body_readBody]
  exact ⟨[], rfl⟩

/-- A session over a decoder whose body engine has not been called yet: `whole` has come in, which
is a front of the header, or all of it with the unread input behind it. -/
inductive Awaits (s₀ : σ) (h : ByteArray) :
    (whole : ByteArray) → StreamCodec.Decoder (Decoder (σ × List Asked)) → Prop
  | holding {whole : ByteArray} {ledger : Ledger} (hshort : whole.size < h.size)
      (hunread : ledger.pending.unread = 0) (hstats : ledger.stats.bytesIn = whole.size) :
      Awaits s₀ h whole { engine := holding (s₀, []) whole, ledger }
  | ready {whole : ByteArray} {ledger : Ledger} (hfed : h ++
    ledger.pending.remaining.toBytes = whole)
      (hstats : ledger.stats.bytesIn = h.size) :
      Awaits s₀ h whole { engine := ready (s₀, []), ledger }

theorem Awaits.log_eq_nil {d : StreamCodec.Decoder (Decoder (σ × List Asked))}
    (hd : Awaits s₀ h whole d) : d.engine.body.2 = [] := by
  cases hd with
  | holding | ready => rfl

/-- The body engine has been called, at first with what came behind the header up to the end of
`whole`, and has answered that as it does from its start. -/
def Opened (E : DecodeEngine σ) (s₀ : σ) (h whole : ByteArray) (s : Decoder (σ × List Asked)) :
    Prop :=
  ∃ first, Led first s ∧ h ++ first.input.toBytes = whole ∧
    first.answer = (E.decode s₀ first.input first.room).1

def Handed (E : DecodeEngine σ) (s₀ : σ) (h whole : ByteArray)
    (d : StreamCodec.Decoder (Decoder (σ × List Asked))) : Prop :=
  Awaits s₀ h whole d ∨ Opened E s₀ h whole d.engine

theorem run_ready (E : DecodeEngine σ) (s₀ : σ) (hfed : h ++ l.pending.remaining.toBytes = whole)
    (room : Nat) (out : ByteArray) :
    Opened E s₀ h whole (run (engine E.watched) (ready (s₀, [])) l room out).2.engine := by
  let first : Asked :=
    ⟨l.pending.remaining, room, (E.decode s₀ l.pending.remaining room).1⟩
  have hfirst : Led first ((engine E.watched).decode (ready (s₀, [])) l.pending.remaining room).2 :=
    led_ready E s₀ l.pending.remaining room
  have hkeeps (s : Decoder (σ × List Asked)) (input : Slice) (room : Nat) (hs : Led first s) :
      Led first ((engine E.watched).decode s input room).2 := hs.decode E input room
  exact ⟨first, run_enters hkeeps hfirst out, hfed, rfl⟩

theorem run_holding_unread (E : DecodeEngine σ) (s₀ : σ) (hshort : whole.size < h.size)
    (hunread : l.pending.unread = 0) (hstats : l.stats.bytesIn = whole.size) (room : Nat)
    (out : ByteArray) :
    Awaits s₀ h whole (run (engine E.watched) (holding (s₀, []) whole) l room out).2 := by
  have hempty : l.pending.remaining.isEmpty = true := Slice.isEmpty_iff.mpr hunread
  have hcall : (engine E.watched).decode (holding (s₀, []) whole) l.pending.remaining room =
      (.ok .idle, holding (s₀, []) whole) := if_pos hempty
  obtain ⟨l', hrest, htotals, hrun⟩ := run_idle hcall out
  rw [hrun]
  refine .holding hshort ?_ (htotals ▸ hstats)
  rw [← Pending.size_remaining, hrest]
  exact hunread

/-- What a call does that finds the decoder before the end of the header. -/
theorem run_holding (E : DecodeEngine σ) (s₀ : σ) (hwhole : Header.Whole h)
    (hshort : seen.size < h.size) (hstats : l.stats.bytesIn = seen.size)
    (hsplit : seen ++ l.pending.remaining.toBytes ++ more = h ++ rest) (room : Nat)
    (out : ByteArray) :
    Handed E s₀ h (seen ++ l.pending.remaining.toBytes)
      (run (engine E.watched) (holding (s₀, []) seen) l room out).2 := by
  have hsize : l.pending.remaining.size = l.pending.unread := rfl
  by_cases hunread : l.pending.remaining.size = 0
  · rw [Slice.toBytes_of_size_eq_zero hunread, ByteArray.append_empty]
    exact .inl (run_holding_unread E s₀ hshort hunread hstats room out)
  · have hcall : (engine E.watched).decode (holding (s₀, []) seen) l.pending.remaining room = _ :=
      decode_of_whole E.watched (s₀, []) hwhole hshort hunread hsplit room
    by_cases hends : h.size ≤ seen.size + l.pending.remaining.size
    · rw [if_pos hends] at hcall
      obtain ⟨hheader, -⟩ := drop_of_whole hends hshort hsplit
      obtain ⟨l', hrest, htotal, hrun⟩ := run_progress hcall (by omega) (by omega) out
      have hfed : h ++ l'.pending.remaining.toBytes = seen ++ l.pending.remaining.toBytes := by
        rw [hrest, ← hheader, ByteArray.append_assoc, hheader, Slice.take_append_drop]
      rw [hrun]
      by_cases hroom : room = 0
      · rw [if_pos hroom]
        exact .inl (.ready hfed (by omega))
      · rw [if_neg hroom]
        exact .inr (run_ready E s₀ hfed room out)
    · rw [if_neg hends] at hcall
      obtain ⟨l', hrest, htotal, hrun⟩ := run_progress hcall (by omega) (by omega) out
      have hshort' : (seen ++ l.pending.remaining.toBytes).size < h.size := by
        rw [ByteArray.size_append, Slice.size_toBytes]
        omega
      have hunread' : l'.pending.unread = 0 := by
        rw [← Pending.size_remaining, hrest, Slice.size_drop, Nat.sub_self]
      have htotal' : l'.stats.bytesIn = (seen ++ l.pending.remaining.toBytes).size := by
        rw [ByteArray.size_append, Slice.size_toBytes]
        omega
      rw [hrun]
      by_cases hroom : room = 0
      · rw [if_pos hroom]
        exact .inl (.holding hshort' hunread' htotal')
      · rw [if_neg hroom]
        exact .inl (run_holding_unread E s₀ hshort' hunread' htotal' room out)

/-- A call takes a session in front of the body further, or into the body. -/
theorem Awaits.intake (hd : Awaits s₀ h whole d) (E : DecodeEngine σ) (hwhole : Header.Whole h)
    (m : ByteArray × Nat)
    (hsplit : whole ++ (intake (engine E.watched) d m).1 ++ more = h ++ rest) :
    Handed E s₀ h (whole ++ (intake (engine E.watched) d m).1)
      (intake (engine E.watched) d m).2 := by
  obtain hsame | ⟨q, hrest, hnext⟩ := intake_cases (engine E.watched) d m
  · rw [hsame, ByteArray.append_empty]
    exact .inl hd
  · rw [hnext]
    cases hd with
    | @holding ledger hshort hunread hstats =>
      rw [Pending.remaining_of_unread_eq_zero hunread, ByteArray.empty_append] at hrest
      rw [← hrest] at hsplit ⊢
      exact run_holding E s₀ (l := { ledger with pending := q }) hwhole hshort hstats hsplit m.2 _
    | @ready ledger hfed hstats =>
      rw [← hfed, ByteArray.append_assoc, ← hrest]
      exact .inr (run_ready E s₀ (l := { ledger with pending := q }) rfl m.2 _)

/-- The first call of the body engine stays the first. -/
theorem Led.intake (hs : Led first d.engine) (E : DecodeEngine σ) (m : ByteArray × Nat) :
    Led first (intake (engine E.watched) d m).2.engine := by
  have hkeeps (s : Decoder (σ × List Asked)) (input : Slice) (room : Nat) (hs : Led first s) :
      Led first ((engine E.watched).decode s input room).2 := hs.decode E input room
  obtain hsame | ⟨q, -, hnext⟩ := intake_cases (engine E.watched) d m
  · rw [hsame]
    exact hs
  · rw [hnext]
    split
    · exact hs
    · exact run_enters hkeeps (hkeeps _ _ _ hs) _

def fresh (s₀ : σ) : StreamCodec.Decoder (Decoder (σ × List Asked)) := { engine := start (s₀, []) }

def fed (E : DecodeEngine σ) (s₀ : σ) (ms : List (ByteArray × Nat)) : ByteArray :=
  joined (each (intake (engine E.watched)) (fresh s₀) ms).1

def behind (E : DecodeEngine σ) (s₀ : σ) (ms : List (ByteArray × Nat)) :
    StreamCodec.Decoder (Decoder (σ × List Asked)) :=
  (each (intake (engine E.watched)) (fresh s₀) ms).2

theorem fed_snoc (E : DecodeEngine σ) (s₀ : σ) (ms : List (ByteArray × Nat)) (m : ByteArray × Nat) :
    fed E s₀ (ms ++ [m]) = fed E s₀ ms ++ (intake (engine E.watched) (behind E s₀ ms) m).1 := by
  rw [fed, each_append, joined_append, each_cons, each_nil, joined_cons, joined_nil,
    ByteArray.append_empty]
  rfl

theorem behind_snoc (E : DecodeEngine σ) (s₀ : σ) (ms : List (ByteArray × Nat))
    (m : ByteArray × Nat) :
    behind E s₀ (ms ++ [m]) = (intake (engine E.watched) (behind E s₀ ms) m).2 := by
  rw [behind, each_append, each_cons, each_nil]
  rfl

/-- The calls of a session go by in front of the body, or one of them brings the header to its end
and the body engine its first call. -/
theorem awaits_or_led (E : DecodeEngine σ) (s₀ : σ) (hwhole : Header.Whole h)
    (ms : List (ByteArray × Nat)) (hsplit : fed E s₀ ms ++ more = h ++ rest) :
    Awaits s₀ h (fed E s₀ ms) (behind E s₀ ms) ∨
      ∃ before m after first, ms = before ++ m :: after ∧
        Awaits s₀ h (fed E s₀ before) (behind E s₀ before) ∧ Led first (behind E s₀ ms).engine ∧
        h ++ first.input.toBytes = fed E s₀ (before ++ [m]) ∧
        first.answer = (E.decode s₀ first.input first.room).1 := by
  induction ms using List.reverseRecOn generalizing more with
  | nil =>
    have hten := (Header.parse_bounds hwhole.parse_eq).1
    have hnone : (fed E s₀ []).size = 0 := rfl
    exact .inl (.holding (by omega) rfl rfl)
  | append_singleton ms m ih =>
    rw [fed_snoc] at hsplit
    rw [behind_snoc]
    obtain hawaits | ⟨before, m', after, first, rfl, hbefore, hled, hfirst, hanswer⟩ :=
      ih (by rw [← hsplit, ByteArray.append_assoc])
    · obtain hnext | ⟨first, hled, hfirst, hanswer⟩ := hawaits.intake E hwhole m hsplit
      · rw [fed_snoc]
        exact .inl hnext
      · rw [← fed_snoc] at hfirst
        exact .inr ⟨ms, m, [], first, rfl, hawaits, hled, hfirst, hanswer⟩
    · refine .inr ⟨before, m', after ++ [m], first, ?_, hbefore, hled.intake E m, hfirst, hanswer⟩
      rw [List.append_assoc, List.cons_append]

/-- Bytes that were taken in are the header and what the body is to get: either it has been offered
the front of that, or nothing of it yet. -/
theorem first_call (E : DecodeEngine σ) (s₀ : σ) (hwhole : Header.Whole h)
    (ms : List (ByteArray × Nat)) (hfed : fed E s₀ ms = h ++ rest) :
    ((behind E s₀ ms).engine.body.2 = [] → (behind E s₀ ms).engine.part = .body ∧
      (behind E s₀ ms).stats.bytesIn = h.size ∧
      (behind E s₀ ms).ledger.pending.remaining.toBytes = rest) ∧
    ∀ first later, (behind E s₀ ms).engine.body.2 = first :: later →
      ∃ before m after, ms = before ++ m :: after ∧ (behind E s₀ before).engine.body.2 = [] ∧
        h ++ first.input.toBytes = fed E s₀ (before ++ [m]) ∧
        first.answer = (E.decode s₀ first.input first.room).1 := by
  have hsplit : fed E s₀ ms ++ ByteArray.empty = h ++ rest := by rw [ByteArray.append_empty, hfed]
  obtain hawaits | ⟨before, m, after, first, hms, hbefore, ⟨later, hlog⟩, hfirst, hanswer⟩ :=
    awaits_or_led E s₀ hwhole ms hsplit
  · have hempty : (behind E s₀ ms).engine.body.2 = [] := hawaits.log_eq_nil
    refine ⟨fun _ => ?_, fun first later hlog => by cases hempty.symm.trans hlog⟩
    generalize behind E s₀ ms = d at hawaits
    cases hawaits with
    | holding hshort =>
      rw [hfed, ByteArray.size_append] at hshort
      omega
    | ready hready hstats =>
      rw [hfed] at hready
      exact ⟨rfl, hstats, (ByteArray.append_right_inj h).mp hready⟩
  · refine ⟨fun hempty => absurd (hlog.symm.trans hempty) (List.cons_ne_nil _ _),
      fun first' later' hlog' => ?_⟩
    cases hlog.symm.trans hlog'
    exact ⟨before, m, after, hms, hbefore.log_eq_nil, hfirst, hanswer⟩

end Watched

/-- A decoder in front of the end of the header, wherever its caller has brought it. -/
theorem Stands.header_call {s : Decoder σ} (hs : Stands E s₀ True s) (hpart : s.part = .header seen)
    {n : Nat} (hparse : Header.parse (gathered seen input) = .ok (some n)) (room : Nat) :
    seen.size < n ∧ n - seen.size ≤ min input.size (Header.maxSize - seen.size) ∧
      decode E s input room =
        (.ok (.progress (n - seen.size) ByteArray.empty), { s with part := .body }) := by
  have hrange := hs.inRange
  rw [hpart] at hrange
  have hlt := hrange.2 _ n hparse
  have hle := (Header.parse_bounds hparse).2
  rw [gathered, ByteArray.size_append, Slice.size_take] at hle
  refine ⟨hlt, by omega, ?_⟩
  rw [decode_header E s input room hpart, readHeader_eq s seen (by omega), hparse]

/-- Wherever its caller has brought it, a decoder in front of the end of the header holds no more
than a header may have and no whole one, and what it gives back of an offer is what stands behind
the header. Of a header with anything behind it, in any offers, it takes the header, and then the
body engine is first offered what is right behind it. -/
theorem header_handover (E : DecodeEngine σ) (s₀ : σ) :
    (∀ ended s seen, (engine E).Visited (start s₀) (fun _ => True) True ended s →
      s.part = .header seen →
        seen.size ≤ Header.maxSize ∧ (∀ n, Header.parse seen ≠ .ok (some n)) ∧
        ∀ input room n, Header.parse (gathered seen input) = .ok (some n) →
          seen.size < n ∧ n - seen.size ≤ min input.size (Header.maxSize - seen.size) ∧
          decode E s input room =
            (.ok (.progress (n - seen.size) ByteArray.empty), { s with part := .body })) ∧
    (∀ h rest offers, Header.Whole h → (∀ m ∈ offers, m.1.size ≠ 0) → offered offers = h ++ rest →
      ∃ before last after k, offers = before ++ last :: after ∧ 0 < k ∧ k ≤ last.1.size ∧
        offered before ++ last.1.take k = h ∧ (last.1.drop k).toBytes ++ offered after = rest ∧
        each (offer E) (start s₀) before =
          (before.map fun m => .ok (.progress m.1.size ByteArray.empty),
            { start s₀ with part := .header (offered before) }) ∧
        decode E { start s₀ with part := .header (offered before) } last.1 last.2 =
          (.ok (.progress k ByteArray.empty), { start s₀ with part := .body })) ∧
    (∀ h rest ms, Header.Whole h → fed E s₀ ms = h ++ rest →
      ((behind E s₀ ms).engine.body.2 = [] → (behind E s₀ ms).engine.part = .body ∧
        (behind E s₀ ms).stats.bytesIn = h.size ∧
        (behind E s₀ ms).ledger.pending.remaining.toBytes = rest) ∧
      ∀ first later, (behind E s₀ ms).engine.body.2 = first :: later →
        ∃ before m after, ms = before ++ m :: after ∧ (behind E s₀ before).engine.body.2 = [] ∧
          h ++ first.input.toBytes = fed E s₀ (before ++ [m]) ∧
          first.answer = (E.decode s₀ first.input first.room).1) := by
  refine ⟨?_, ?_, fun h rest ms hwhole => first_call E s₀ hwhole ms⟩
  · intro ended s seen hs hpart
    have hstands := stands_of_visited hs
    have hrange := hstands.inRange
    rw [hpart] at hrange
    refine ⟨hrange.1, ?_, fun input room n hparse => hstands.header_call hpart hparse room⟩
    intro n hparse
    have hlt := hrange.2 ByteArray.empty n (by rw [ByteArray.append_empty, hparse])
    exact Nat.not_lt.mpr (Header.parse_bounds hparse).2 hlt
  · intro h rest offers hwhole hoffers hsplit
    have hshort : ByteArray.empty.size < h.size :=
      Nat.lt_of_lt_of_le (by decide) (Header.parse_bounds hwhole.parse_eq).1
    have hparts := offers_part E s₀ hwhole hoffers hshort (by rw [ByteArray.empty_append, hsplit])
    simp only [ByteArray.empty_append] at hparts
    exact hparts

/-- Bytes that no header starts with; and a header with a body behind it, at once and in pieces. -/
theorem header_handover_pieces :
    let E := Deflate.Dialect.grammar.decoder.engine .gzip
    let s₀ := Deflate.Dialect.grammar.decoder.fresh
    let bad := Bytes.ofList [0x1f, 0x00]
    let h := Header.written .balanced
    let rest := Bytes.ofList Deflate.Dialect.emptyBlock
    let first := h.extract 0 4
    let second := h.extract 4 10 ++ rest
    bad.size ≤ Header.maxSize ∧ Header.parse bad ≠ .ok (some 10) ∧
      decode E (start s₀) { bytes := h ++ rest } 9 =
        (.ok (.progress 10 ByteArray.empty), ready s₀) ∧
      (∃ before last after k, [({ bytes := first }, 9), ({ bytes := second }, 9)] =
          before ++ last :: after ∧ offered before ++ last.1.take k = h ∧
          (last.1.drop k).toBytes ++ offered after = rest) ∧
      ∃ (asked : Asked) (before : List (ByteArray × Nat)) (m : ByteArray × Nat)
        (after : List (ByteArray × Nat)), [(first, 9), (second, 9)] = before ++ m :: after ∧
        h ++ asked.input.toBytes = fed E s₀ (before ++ [m]) := by
  intro E s₀ bad h rest first second
  obtain ⟨hheld, hoffers, hsession⟩ := header_handover E s₀
  have hwhole : Header.Whole h := Header.whole_written .balanced
  have hfresh : (engine E).Visited (start s₀) (fun _ => True) True false (start s₀) := .fresh
  have hbad : (engine E).decode (start s₀) { bytes := bad } 9 =
      (.error (rejection .magic), { start s₀ with part := .header bad }) := by
    have hparse : Header.parse (gathered ByteArray.empty { bytes := bad }) = .error .magic := by
      decide +kernel
    have hall : gathered ByteArray.empty { bytes := bad } = bad := by decide +kernel
    have hcall :=
      readHeader_eq (start s₀) ByteArray.empty (show (Slice.mk bad 0).size ≠ 0 by decide)
    rw [show (engine E).decode = decode E from rfl, decode_header E (start s₀) _ 9 rfl, hcall,
      hparse, hall]
  have hrejected := hheld _ _ bad (.error trivial hfresh trivial hbad) rfl
  have hstart := hheld _ _ ByteArray.empty hfresh rfl
  have hcall := hstart.2.2 { bytes := h ++ rest } 9 10 (by decide +kernel)
  obtain ⟨before, last, after, k, hparts, -, -, hheader, hbehind, -⟩ :=
    hoffers h rest [({ bytes := first }, 9), ({ bytes := second }, 9)] hwhole (by decide +kernel)
      (by decide +kernel)
  have hlast := (hsession h rest [(first, 9), (second, 9)] hwhole (by decide +kernel)).2
  have hcalled :
      (behind E s₀ [(first, 9), (second, 9)]).engine.body.2.length = 1 := by decide +kernel
  obtain ⟨asked, hlog⟩ := List.length_eq_one_iff.mp hcalled
  obtain ⟨before', m, after', hms, -, hasked, -⟩ := hlast asked [] hlog
  exact ⟨hrejected.1, hrejected.2.1 10, hcall.2.2,
    ⟨before, last, after, k, hparts, hheader, hbehind⟩,
    asked, before', m, after', hms, hasked⟩

end Decoder

end Gzip

end StreamCodec
