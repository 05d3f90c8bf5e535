import StreamCodec.Proofs.Extracting
import StreamCodec.Proofs.Gzip.Failing

/-!
Decompression sessions whose caller goes on after errors. When the engine stays broken once it
has failed, so does the session: it writes nothing more, and the end of the stream is never
reported. For gzip a session that is at the end has read a whole member, and what it has
written is what the trailer vouches for.
-/

namespace StreamCodec

/-- A bounded call: what it was given, and what it came back with. -/
structure Exchange where
  input : ByteArray
  answer : Outcome ByteArray

namespace Exchange

def Fails (x : Exchange) : Prop := ∃ e, x.answer = .error e

def written (x : Exchange) : ByteArray :=
  match x.answer with
  | .ok b => b
  | .error _ | .trap _ => ByteArray.empty

/-- What was taken in: a call that is trapped takes no input. -/
def accepted (x : Exchange) : ByteArray :=
  match x.answer with
  | .ok _ | .error _ => x.input
  | .trap _ => ByteArray.empty

/-- Input that came too early is the only reason to trap the call. -/
def Regular (codec : Codec) (x : Exchange) : Prop :=
  ∀ t, x.answer = .trap t → ∃ n, t = .inputPending codec n

end Exchange

namespace Decoder

open DecodeEngine Schedule

variable {σ : Type} {E : DecodeEngine σ} {s₀ : σ} {B : σ → Prop} {d d' : Decoder σ}

def exchange (E : DecodeEngine σ) (d : Decoder σ) (m : ByteArray × Nat) : Exchange × Decoder σ :=
  let (answer, d) := d.decompressInto E m.1 m.2
  ({ input := m.1, answer }, d)

/-- A call fails where a step does, and leaves the input that the step was offered. -/
theorem run_of_error {engine : σ} {l : Ledger} {room : Nat} {out : ByteArray} {e : Error}
    (h : run E engine l room out = (.error e, d)) :
    d.finished = false ∧ ∃ before room',
      E.decode before d.ledger.pending.remaining room' = (.error e, d.engine) := by
  fun_induction run E engine l room out with
  | case1 engine l room out e' engine' hcall =>
    cases h
    exact ⟨rfl, engine, room, hcall⟩
  | case3 engine l room out step engine' hcall e' hbook =>
    exact absurd hbook (Ledger.book_ne_error l step room e')
  | case2 | case4 | case5 | case6 | case7 => cases h
  | case8 _ _ _ _ _ _ _ _ _ _ _ _ ih => exact ih h

theorem decompressInto_of_error {input : ByteArray} {room : Nat} {e : Error}
    (h : decompressInto E d input room = (.error e, d')) :
    d'.finished = false ∧ ∃ before room',
      E.decode before d'.ledger.pending.remaining room' = (.error e, d'.engine) := by
  obtain hearly | ⟨q, -, hcall⟩ := decompressInto_cases E d input room
  · cases h.symm.trans hearly
  · have h := hcall.symm.trans h
    split at h
    · cases h
    · exact run_of_error h

/-- The engine is in `B` once it has failed, and from then on stands still or fails. -/
structure Absorbs (E : DecodeEngine σ) (B : σ → Prop) : Prop where
  enters : ∀ s input room e s', E.decode s input room = (.error e, s') → B s'
  stays : ∀ s, B s → ∀ input room, B (E.decode s input room).2 ∧
    ((E.decode s input room).1 = .ok .idle ∨ ∃ e, (E.decode s input room).1 = .error e)

structure Stuck (B : σ → Prop) (d : Decoder σ) : Prop where
  broken : B d.engine
  unfinished : d.finished = false

theorem run_stuck (hE : Absorbs E B) {engine : σ} (hengine : B engine) (l : Ledger) (room : Nat) :
    Stuck B (run E engine l room ByteArray.empty).2 ∧
      ∀ b, (run E engine l room ByteArray.empty).1 = .ok b → b = ByteArray.empty := by
  obtain ⟨hnext, hstep⟩ := hE.stays engine hengine l.pending.remaining room
  rcases hcall : E.decode engine l.pending.remaining room with ⟨answer, engine'⟩
  rw [hcall] at hnext hstep
  obtain rfl | ⟨e, rfl⟩ := hstep
  · obtain ⟨l', -, -, hrun⟩ := run_idle hcall ByteArray.empty
    rw [hrun]
    exact ⟨⟨hnext, rfl⟩, fun b hb => by cases hb; rfl⟩
  · rw [run_error hcall]
    exact ⟨⟨hnext, rfl⟩, fun b hb => by cases hb⟩

theorem Stuck.exchange (hE : Absorbs E B) (h : Stuck B d) (m : ByteArray × Nat) :
    Stuck B (exchange E d m).2 ∧ (exchange E d m).1.written = ByteArray.empty := by
  rw [Decoder.exchange]
  obtain hearly | ⟨q, -, hcall⟩ := decompressInto_cases E d m.1 m.2
  · rw [hearly]
    exact ⟨h, rfl⟩
  · obtain ⟨hstuck, hempty⟩ := run_stuck hE h.broken { d.ledger with pending := q } m.2
    rw [hcall, h.unfinished, if_neg Bool.false_ne_true]
    refine ⟨hstuck, ?_⟩
    unfold Exchange.written
    split
    · next b hb => exact hempty b hb
    · rfl
    · rfl

theorem stuck_of_fails (hE : Absorbs E B) (m : ByteArray × Nat) (h : (exchange E d m).1.Fails) :
    Stuck B (exchange E d m).2 := by
  obtain ⟨e, herror⟩ := h
  obtain ⟨hopen, before, room, hcall⟩ := decompressInto_of_error (Prod.ext herror rfl)
  exact ⟨hE.enters _ _ _ _ _ hcall, hopen⟩

/-- Once a call has failed, no later one hands out a byte, and the end is never reported. -/
theorem each_stuck (hE : Absorbs E B) {ms : List (ByteArray × Nat)} {xs : List Exchange}
    (hrun : each (exchange E) d ms = (xs, d')) (h : ∃ x ∈ xs, x.Fails)
    (later : List (ByteArray × Nat)) :
    (each (exchange E) d' later).2.finished = false ∧
      ∀ x ∈ (each (exchange E) d' later).1, x.written = ByteArray.empty := by
  obtain ⟨rfl, rfl⟩ := Prod.mk.inj hrun
  have hstuck : Stuck B (each (exchange E) d ms).2 :=
    each_enters (fun s m => stuck_of_fails hE m) (fun s m hs => (hs.exchange hE m).1) h
  obtain ⟨hlast, hall⟩ :=
    each_keeps (P := Stuck B) (Q := fun x : Exchange => x.written = ByteArray.empty)
    (fun s m hs => hs.exchange hE m) hstuck later
  exact ⟨hlast.unfinished, hall⟩

/-- So at the end of the stream no call has failed. -/
theorem not_fails_of_finished (hE : Absorbs E B) {ms : List (ByteArray × Nat)} {xs : List Exchange}
    (hrun : each (exchange E) d ms = (xs, d')) (h : d'.finished = true) : ∀ x ∈ xs, ¬ x.Fails := by
  intro x hmem hfails
  have hopen := (each_stuck hE hrun ⟨x, hmem, hfails⟩ []).1
  rw [each_nil, h] at hopen
  cases hopen

section Books

variable {engine : σ} {l : Ledger} {room : Nat} {out b read written : ByteArray}

/-- A call that answers keeps track of what its engine has read and written, whatever the engine
is. -/
theorem run_tracks (hreach : E.Reached s₀ (fun _ _ => True) false read (written ++ out) engine)
    (hstats : l.stats = { bytesIn := read.size, bytesOut := (written ++ out).size })
    (h : run E engine l room out = (.ok b, d)) :
    ∃ read', Tracks E s₀ (fun _ => True) d read' (written ++ b) ∧
      read' ++ d.ledger.pending.remaining.toBytes = read ++ l.pending.remaining.toBytes := by
  have hsplit {l l' : Ledger} {step : Step} {room : Nat} (hbook : l.book step room = .ok l')
      (read : ByteArray) :
      read ++ l.pending.remaining.take step.consumed ++ l'.pending.remaining.toBytes =
        read ++ l.pending.remaining.toBytes := by
    rw [ByteArray.append_assoc, Ledger.take_append_remaining hbook]
  fun_induction run E engine l room out generalizing read with
  | case1 | case2 | case3 | case4 => cases h
  | case5 engine l room out step engine' hcall l' hbook hdone =>
    have ht := Tracks.behind hreach hstats trivial hcall hbook
    rw [hdone, ByteArray.append_assoc] at ht
    cases h
    exact ⟨_, ht, hsplit hbook read⟩
  | case6 engine l out step engine' l' hdone hcall hbook =>
    have ht := Tracks.behind hreach hstats trivial hcall hbook
    rw [Bool.eq_false_iff.mpr hdone, ByteArray.append_assoc] at ht
    cases h
    exact ⟨_, ht, hsplit hbook read⟩
  | case7 engine l room out step engine' hcall l' hbook hdone hfull hidle =>
    have ht := Tracks.behind hreach hstats trivial hcall hbook
    rw [Bool.eq_false_iff.mpr hdone, ByteArray.append_assoc] at ht
    cases h
    exact ⟨_, ht, hsplit hbook read⟩
  | case8 engine l room out step engine' hcall l' hbook hdone hfull hidle ih =>
    have ht := Tracks.behind hreach hstats trivial hcall hbook
    rw [Bool.eq_false_iff.mpr hdone, ByteArray.append_assoc] at ht
    obtain ⟨read', ht', hrest⟩ := ih ht.reached ht.stats h
    exact ⟨read', ht', hrest.trans (hsplit hbook read)⟩

theorem run_of_trap (hE : ∀ s input room t s', E.decode s input room ≠ (.trap t, s')) {t : Trap}
    (h : run E engine l room out = (.trap t, d)) (codec : Codec) (n : Nat) :
    t ≠ .inputPending codec n := by
  fun_induction run E engine l room out with
  | case2 engine l room out t engine' hcall => exact absurd hcall (hE _ _ _ _ _)
  | case4 engine l room out step engine' hcall t hbook =>
    cases h
    exact Ledger.book_ne_pending hbook codec n
  | case1 | case3 | case5 | case6 | case7 => cases h
  | case8 _ _ _ _ _ _ _ _ _ _ _ _ ih => exact ih h

variable {ms : List (ByteArray × Nat)}

/-- A call that answers keeps track of what its engine has read and written. -/
theorem decompressInto_tracks {input : ByteArray} (ht : Tracks E s₀ (fun _ => True) d read written)
    (h : decompressInto E d input room = (.ok b, d')) :
    ∃ read', Tracks E s₀ (fun _ => True) d' read' (written ++ b) ∧
      read' ++ d'.ledger.pending.remaining.toBytes =
        read ++ (d.ledger.pending.remaining.toBytes ++ input) := by
  obtain hearly | ⟨q, hrest, hcall⟩ := decompressInto_cases E d input room
  · cases h.symm.trans hearly
  · have h := hcall.symm.trans h
    obtain ⟨hreach, hstats⟩ := ht
    cases hfinished : d.finished with
    | true =>
      rw [hfinished] at h hreach
      cases h
      refine ⟨read, ?_, congrArg (read ++ ·) hrest⟩
      rw [ByteArray.append_empty]
      exact ⟨hreach, hstats⟩
    | false =>
      rw [hfinished, if_neg Bool.false_ne_true] at h
      rw [hfinished] at hreach
      rw [← ByteArray.append_empty (b := written)] at hreach hstats
      obtain ⟨read', ht', hsplit⟩ :=
        run_tracks (l := { d.ledger with pending := q }) hreach hstats h
      exact ⟨read', ht', hsplit.trans (congrArg (read ++ ·) hrest)⟩

/-- Input that comes too early leaves the session as it is. -/
theorem decompressInto_of_pending
    (hE : ∀ s input room t s', E.decode s input room ≠ (.trap t, s')) {input : ByteArray}
    {codec : Codec} {n : Nat}
    (h : decompressInto E d input room = (.trap (.inputPending codec n), d')) : d' = d := by
  obtain hearly | ⟨q, -, hcall⟩ := decompressInto_cases E d input room
  · cases h.symm.trans hearly
    rfl
  · have h := hcall.symm.trans h
    split at h
    · cases h
    · exact absurd rfl (run_of_trap hE h codec n)

theorem exchange_tracks (hE : ∀ s input room t s', E.decode s input room ≠ (.trap t, s'))
    (ht : Tracks E s₀ (fun _ => True) d read written) (m : ByteArray × Nat)
    (hok : ¬ (exchange E d m).1.Fails) (hregular : (exchange E d m).1.Regular E.codec) :
    ∃ read',
      Tracks E s₀ (fun _ => True) (exchange E d m).2 read' (written ++ (exchange E d m).1.written) ∧
      read' ++ (exchange E d m).2.ledger.pending.remaining.toBytes =
        read ++ (d.ledger.pending.remaining.toBytes ++ (exchange E d m).1.accepted) := by
  rw [exchange] at hok hregular ⊢
  rcases hcall : decompressInto E d m.1 m.2 with ⟨answer, d'⟩
  rw [hcall] at hok hregular
  cases answer with
  | ok b => exact decompressInto_tracks ht hcall
  | error e => exact absurd ⟨e, rfl⟩ hok
  | trap t =>
    obtain ⟨n, htrap⟩ := hregular t rfl
    cases decompressInto_of_pending hE (htrap ▸ hcall)
    refine ⟨read, ?_, ?_⟩
    · show Tracks E s₀ (fun _ => True) d read (written ++ ByteArray.empty)
      rw [ByteArray.append_empty]
      exact ht
    · show _ = read ++ (_ ++ ByteArray.empty)
      rw [ByteArray.append_empty]

theorem each_tracks (hE : ∀ s input room t s', E.decode s input room ≠ (.trap t, s'))
    (ht : Tracks E s₀ (fun _ => True) d read written) {xs : List Exchange}
    (hrun : each (exchange E) d ms = (xs, d')) (hall : ∀ x ∈ xs, ¬ x.Fails ∧ x.Regular E.codec) :
    ∃ read', Tracks E s₀ (fun _ => True) d' read' (written ++ joined (xs.map Exchange.written)) ∧
      read' ++ d'.ledger.pending.remaining.toBytes =
        read ++ (d.ledger.pending.remaining.toBytes ++ joined (xs.map Exchange.accepted)) := by
  induction ms generalizing d read written xs with
  | nil =>
    cases hrun
    refine ⟨read, ?_, ?_⟩
    · rw [List.map_nil, joined_nil, ByteArray.append_empty]
      exact ht
    · rw [List.map_nil, joined_nil, ByteArray.append_empty]
  | cons m ms ih =>
    rw [each_cons] at hrun
    cases hrun
    obtain ⟨⟨hok, hregular⟩, hlater⟩ := List.forall_mem_cons.mp hall
    obtain ⟨read', ht', hsplit⟩ := exchange_tracks hE ht m hok hregular
    obtain ⟨read'', ht'', hsplit'⟩ := ih ht' rfl hlater
    rw [ByteArray.append_assoc] at ht''
    refine ⟨read'', ht'', ?_⟩
    rw [hsplit', ← ByteArray.append_assoc, hsplit, List.map_cons, joined_cons]
    simp only [ByteArray.append_assoc]

end Books

end Decoder

/-- The native decoder has failed for good once it has failed. -/
def NativeDecoder.StaysFailed (N : NativeDecoder) : Prop :=
  ∀ s input room r s', N.run s input room = (.error r, s') →
    ∀ input' room', ∃ r' s'', N.run s' input' room' = (.error r', s'')

theorem NativeDecoder.StaysFailed.engine {N : NativeDecoder} (hN : N.StaysFailed) :
    (N.engine .gzip).StaysFailed := by
  intro s input room e s' h input' room'
  obtain ⟨r, hrun, -⟩ := NativeDecoder.exists_of_error h
  obtain ⟨r', s'', hagain⟩ := hN s input room r s' hrun input' room'
  refine ⟨.decode .gzip r'.message, s'', ?_⟩
  simp only [NativeDecoder.engine, hagain]
  rfl

/-- A native decoder for gzip refuses by an error. -/
theorem NativeDecoder.engine_ne_trap (N : NativeDecoder) (s : N.State) (input : Slice) (room : Nat)
    (t : Trap) (s' : N.State) : (N.engine .gzip).decode s input room ≠ (.trap t, s') := by
  intro h
  simp only [NativeDecoder.engine] at h
  rcases hcall : N.run s input room with ⟨answer, s''⟩
  rw [hcall] at h
  cases answer <;> cases h

namespace Gzip.Decoder

open DecodeEngine Schedule
open StreamCodec.Decoder
  (Absorbs decompressInto_accepted decompressInto_early decompressInto_of_error
  each_tracks exchange run run_error tracks_fresh)

variable {σ : Type} {E : DecodeEngine σ}

theorem absorbs (hE : E.StaysFailed) : Absorbs (engine E) (Broken E) where
  enters := fun _ _ _ _ _ h => broken_of_error hE h
  stays := fun _ hs input room => hs.decode hE input room

/-- A session that has come to the end without a failure has read a whole member, and has handed out
what the body engine has written. -/
theorem readWhole_of_finished (hE : ∀ s input room t s', E.decode s input room ≠ (.trap t, s'))
    {s₀ : σ} {ms : List (ByteArray × Nat)} {xs : List Exchange}
    {d : StreamCodec.Decoder (Decoder σ)}
    (hrun : each (exchange (engine E)) { engine := start s₀ } ms = (xs, d))
    (hall : ∀ x ∈ xs, ¬ x.Fails ∧ x.Regular .gzip) (hfinished : d.finished = true) :
    ∃ header body trailer,
      header ++ (body ++ trailer) ++ d.ledger.pending.remaining.toBytes =
          joined (xs.map Exchange.accepted) ∧
        d.stats = { bytesIn := (header ++ (body ++ trailer)).size,
                    bytesOut := (joined (xs.map Exchange.written)).size } ∧
        ReadWhole E s₀ header body trailer (joined (xs.map Exchange.written)) := by
  obtain ⟨read, ⟨hreach, hstats⟩, hsplit⟩ := each_tracks (decode_ne_trap hE)
    (tracks_fresh (engine E) (start s₀) _) hrun hall
  rw [hfinished, ByteArray.empty_append] at hreach
  rw [ByteArray.empty_append] at hstats hsplit
  obtain ⟨header, body, trailer, rfl, hwhole⟩ := readWhole_of_reached hreach
  refine ⟨header, body, trailer, ?_, hstats, hwhole⟩
  rw [hsplit]
  exact ByteArray.empty_append

/-- A session that has failed before the end of the header, with input that is left over. -/
structure Rejecting (f : Fault) (l : Ledger) (seen : ByteArray)
    (d : StreamCodec.Decoder (Decoder σ)) : Prop where
  part : d.engine.part = .header seen
  rejected : Header.Rejected seen f
  ledger : d.ledger = l
  unread : l.pending.unread ≠ 0
  unfinished : d.finished = false

variable {d : StreamCodec.Decoder (Decoder σ)} {f : Fault} {l : Ledger} {seen : ByteArray}

/-- Where a call fails before the end of the header, what it was offered is left over. -/
theorem rejecting_of_fails {m : ByteArray × Nat} {e : Error}
    (h : (exchange (engine E) d m).1.answer = .error e)
    (hpart : (exchange (engine E) d m).2.engine.part = .header seen) :
    ∃ f, e = rejection f ∧
      Rejecting f (exchange (engine E) d m).2.ledger seen (exchange (engine E) d m).2 := by
  obtain ⟨hopen, before, room, hcall⟩ := decompressInto_of_error (Prod.ext h rfl)
  obtain ⟨hunread, f, he, hrejected⟩ := header_of_error hcall hpart
  exact ⟨f, he, hpart, hrejected, rfl, hunread, hopen⟩

/-- The bytes that are left over are put behind what was rejected, and fail again. -/
theorem Rejecting.retry (h : Rejecting f l seen d) {input : ByteArray} (hinput : input.size = 0)
    (room : Nat) :
    (exchange (engine E) d (input, room)).1.answer = .error (rejection f) ∧
      Rejecting f l (gathered seen l.pending.remaining)
        (exchange (engine E) d (input, room)).2 := by
  obtain ⟨s, ledger, finished⟩ := d
  obtain ⟨hpart, hrejected, rfl, hunread, rfl⟩ := h
  have haccept : ledger.pending.accept .gzip input = .ok ledger.pending := if_pos hinput
  have hcall : (engine E).decode s ledger.pending.remaining room =
      (.error (rejection f), { s with part := .header (gathered seen ledger.pending.remaining) }) :=
    (decode_header E s ledger.pending.remaining room hpart).trans
      (readHeader_of_rejected hrejected hunread)
  have hrun : run (engine E) s ledger room ByteArray.empty = _ := run_error hcall
  rw [exchange, decompressInto_accepted (engine E) s haccept, if_neg Bool.false_ne_true, hrun]
  exact ⟨rfl, rfl, rejected_gathered hrejected _, rfl, hunread, rfl⟩

/-- Every later call fails the same way, unless it brings input too early. -/
theorem Rejecting.each (h : Rejecting f l seen d) (later : List (ByteArray × Nat)) :
    (each (exchange (engine E)) d later).1 = later.map (fun m =>
        { input := m.1,
          answer := if m.1.size = 0 then .error (rejection f)
            else .trap (.inputPending .gzip l.pending.unread) }) ∧
      (each (exchange (engine E)) d later).2.ledger = l := by
  induction later generalizing seen d with
  | nil => exact ⟨rfl, h.ledger⟩
  | cons m later ih =>
    obtain ⟨input, room⟩ := m
    rw [each_cons, List.map_cons]
    by_cases hinput : input.size = 0
    · obtain ⟨hanswer, hnext⟩ := h.retry (E := E) hinput room
      obtain ⟨hlater, hledger⟩ := ih hnext
      refine ⟨?_, hledger⟩
      rw [hlater, if_pos hinput, ← hanswer]
      rfl
    · have hunread : d.ledger.pending.unread ≠ 0 := h.ledger.symm ▸ h.unread
      have hcall := decompressInto_early (engine E) hinput hunread room
      obtain ⟨hlater, hledger⟩ := ih h
      rw [exchange, hcall, if_neg hinput]
      refine ⟨?_, hledger⟩
      rw [hlater, h.ledger]
      rfl

end Gzip.Decoder

namespace Deflate.Decoder

theorem failed_of_decode {s s' : Decoder} {input : Slice} {room : Nat} {r : Refusal}
    (h : decode s input room = (.error r, s')) : s'.failed = true := by
  unfold decode at h
  split at h
  · next hbefore =>
    cases h
    exact hbefore
  · split at h
    · cases h
    · simp only at h
      split at h
      · cases h
        rfl
      · cases h
      · cases h
      · cases h

/-- The inflate engine remembers that it has failed. -/
theorem engine_staysFailed (framed : Bool) : (engine framed).StaysFailed := by
  intro s input room r s' h input' room'
  exact ⟨rejection, s', if_pos (failed_of_decode h)⟩

end Deflate.Decoder

namespace Decompressor

open Schedule

section

variable [Engines]

def exchange (d : Decompressor) (m : ByteArray × Nat) : Exchange × Decompressor :=
  let (answer, d) := d.decompressInto m.1 m.2
  ({ input := m.1, answer }, d)

def part? : Decompressor → Option Gzip.Part
  | ⟨.gzip, _, session⟩ =>
    let engine : Gzip.Decoder (Engines.decoder .gzip).State := session.engine
    some engine.part
  | _ => none

theorem exchange_mk (codec : Codec) (chunk : ChunkSize) (session : Session codec)
    (m : ByteArray × Nat) :
    exchange (mk codec chunk session) m =
      ((Decoder.exchange (engine codec) session m).1,
        mk codec chunk (Decoder.exchange (engine codec) session m).2) := rfl

theorem each_mk (codec : Codec) (chunk : ChunkSize) (session : Session codec)
    (calls : List (ByteArray × Nat)) :
    each exchange (mk codec chunk session) calls =
      ((each (Decoder.exchange (engine codec)) session calls).1,
        mk codec chunk (each (Decoder.exchange (engine codec)) session calls).2) :=
  each_lift (mk codec chunk) (exchange_mk codec chunk) session calls

/-- The calls of a decompressor are those of its session. -/
theorem exists_session (codec : Codec) (chunk : ChunkSize) (calls : List (ByteArray × Nat)) :
    ∃ xs session,
      each (Decoder.exchange (engine codec))
          { engine := newDecoder codec (Engines.decoder codec) } calls = (xs, session) ∧
        each exchange (new codec chunk) calls = (xs, mk codec chunk session) :=
  ⟨_, _, rfl, each_mk codec chunk _ calls⟩

/-- A gzip decompressor that has failed never hands out another byte and never reports the end.
Before the end of the header it fails the same way again and again. And when it reports the end,
no call has failed, it has read a whole member, and the trailer vouches for what it has handed
out. -/
theorem each_gzip (hN : (Engines.decoder .gzip).StaysFailed) (chunk : ChunkSize)
    (calls : List (ByteArray × Nat)) :
    let past := each exchange (new .gzip chunk) calls
    ((∃ x ∈ past.1, x.Fails) → ∀ later,
      (each exchange past.2 later).2.finished = false ∧
        ∀ x ∈ (each exchange past.2 later).1, x.written = ByteArray.empty) ∧
    (∀ m e seen,
      let failed := past.2.exchange m
      failed.1.answer = .error e → failed.2.part? = some (.header seen) →
      let l := failed.2.session.ledger
      (∀ later,
        (each exchange failed.2 later).1 = later.map (fun m =>
            { input := m.1,
              answer := if m.1.size = 0 then .error e
                else .trap (.inputPending .gzip l.pending.unread) }) ∧
          (each exchange failed.2 later).2.session.ledger = l) ∧
      ∀ room, (failed.2.exchange (ByteArray.empty, room)).2.part? =
        some (.header (Gzip.Decoder.gathered seen l.pending.remaining))) ∧
    (past.2.finished = true → (∀ x ∈ past.1, ¬ x.Fails) ∧
      ((∀ x ∈ past.1, x.Regular .gzip) → ∃ header body trailer,
        let out := joined (past.1.map Exchange.written)
        header ++ (body ++ trailer) ++ past.2.session.ledger.pending.remaining.toBytes =
            joined (past.1.map Exchange.accepted) ∧
          past.2.stats = { bytesIn := (header ++ (body ++ trailer)).size, bytesOut := out.size } ∧
          Gzip.Decoder.ReadWhole ((Engines.decoder .gzip).engine .gzip)
            (Engines.decoder .gzip).fresh header body trailer out ∧
          ∀ D, (Engines.decoder .gzip).Follows .gzip D →
            D.verdict body = .complete body.size ∧ D.plain body = out)) := by
  intro past
  have habsorbs : Decoder.Absorbs (engine .gzip)
      (Gzip.Decoder.Broken ((Engines.decoder .gzip).engine .gzip)) :=
    Gzip.Decoder.absorbs hN.engine
  obtain ⟨xs, session, hheld, hpast⟩ := exists_session .gzip chunk calls
  rw [show past = (xs, mk .gzip chunk session) from hpast]
  refine ⟨?stuck, ?rejected, ?finished⟩
  case stuck =>
    intro hfails later
    rw [each_mk]
    exact Decoder.each_stuck habsorbs hheld hfails later
  case rejected =>
    intro m e seen failed hanswer hpart l
    obtain ⟨f, rfl, hrejecting⟩ :=
      Gzip.Decoder.rejecting_of_fails (E := (Engines.decoder .gzip).engine .gzip) (d := session)
        (m := m) hanswer (Option.some.inj hpart)
    constructor
    · intro later
      have hlater := hrejecting.each (E := (Engines.decoder .gzip).engine .gzip) later
      rw [show failed = _ from exchange_mk .gzip chunk session m, each_mk]
      exact hlater
    · intro room
      have hnext := (hrejecting.retry (E := (Engines.decoder .gzip).engine .gzip)
        ByteArray.size_empty room).2.part
      exact congrArg some hnext
  case finished =>
    intro hfinished
    have hok := Decoder.not_fails_of_finished habsorbs hheld hfinished
    refine ⟨hok, fun hregular => ?_⟩
    obtain ⟨header, body, trailer, hsplit, hstats, hwhole⟩ :=
      Gzip.Decoder.readWhole_of_finished (NativeDecoder.engine_ne_trap _) hheld
        (fun x hmem => ⟨hok x hmem, hregular x hmem⟩) hfinished
    refine ⟨header, body, trailer, hsplit, hstats, hwhole, fun D hD => ?_⟩
    obtain ⟨s, hbody⟩ := hwhole.body
    exact DecodeEngine.Follows.complete hD (hbody.mono fun _ _ _ => ⟨trivial, trivial⟩)

end

/-- A byte as a member, in two pieces, and a header that is none. -/
theorem each_gzip_byte :
    let member := Bytes.ofList [0x1f, 0x8b, 0x08, 0x00, 0x00, 0x00, 0x00, 0x00, 0x00, 0x03,
      0x01, 0x01, 0x00, 0xfe, 0xff, 0x68, 0xe7, 0x06, 0x6b, 0x91, 0x01, 0x00, 0x00, 0x00]
    let whole := each exchange (new .gzip .standard)
      [(member.extract 0 14, 9), (member.extract 14 24, 1), (ByteArray.empty, 1)]
    let failed := each exchange (new .gzip .standard) [(Bytes.ofList [0x1f, 0x00], 9)]
    (whole.2.finished = true ∧ ∃ header body trailer, header ++ (body ++ trailer) = member ∧
      Gzip.Decoder.ReadWhole ((Engines.decoder .gzip).engine .gzip) (Engines.decoder .gzip).fresh
        header body trailer (Bytes.ofList [0x68])) ∧
    ∀ later, (each exchange failed.2 later).2.finished = false := by
  intro member whole failed
  have hN : (Engines.decoder .gzip).StaysFailed := Deflate.Decoder.engine_staysFailed false
  constructor
  · have hall : (whole.2.finished, whole.2.session.ledger.pending.remaining.toBytes,
        joined (whole.1.map Exchange.accepted), joined (whole.1.map Exchange.written),
        whole.1.map Exchange.answer) =
      (true, ByteArray.empty, member, Bytes.ofList [0x68],
        [.ok ByteArray.empty, .ok (Bytes.ofList [0x68]), .ok ByteArray.empty]) := by decide +kernel
    simp only [Prod.mk.injEq] at hall
    obtain ⟨hfinished, hremaining, haccepted, hwritten, hanswers⟩ := hall
    have hregular : ∀ x ∈ whole.1, x.Regular .gzip := by
      intro x hmem t htrap
      have hanswer := List.mem_map_of_mem (f := Exchange.answer) hmem
      rw [hanswers, htrap] at hanswer
      simp only [List.mem_cons, List.not_mem_nil, reduceCtorEq, or_self] at hanswer
    obtain ⟨-, -, hwhole⟩ := each_gzip hN .standard
      [(member.extract 0 14, 9), (member.extract 14 24, 1), (ByteArray.empty, 1)]
    obtain ⟨-, hread⟩ := hwhole hfinished
    obtain ⟨header, body, trailer, hsplit, -, hmember, -⟩ := hread hregular
    refine ⟨hfinished, header, body, trailer, ?_, ?_⟩
    · rw [← haccepted, ← hsplit, hremaining, ByteArray.append_empty]
    · rw [← hwritten]
      exact hmember
  · intro later
    obtain ⟨hfails, -, -⟩ := each_gzip hN .standard [(Bytes.ofList [0x1f, 0x00], 9)]
    refine (hfails ⟨_, List.mem_cons_self .., .decode .gzip "invalid header", ?_⟩ later).1
    decide +kernel

end Decompressor

end StreamCodec
