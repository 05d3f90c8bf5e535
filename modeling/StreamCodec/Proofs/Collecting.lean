import StreamCodec.Proofs.Failing

/-!
What the loops over bounded calls come to, whatever the engine does. A loop keeps the books that
its calls keep, it fails only where a call fails, and it ends when no more than so much can be
written.
-/

namespace StreamCodec

open Schedule

/-- The calls account for what they are offered and for what they write. -/
def BoundedCall.Accounts {σ : Type} (call : BoundedCall σ)
    (P : σ → (offered written : ByteArray) → Prop) : Prop :=
  ∀ s offered written input room b s', P s offered written → call s input room = (.ok b, s') →
    b.size ≤ room ∧ P s' (offered ++ input) (written ++ b)

namespace Growth

variable {σ : Type} {call : BoundedCall σ} {P : σ → (offered written : ByteArray) → Prop}
  {chunk : ChunkSize} {s s' : σ} {input out b : ByteArray}

theorem exactly_blank (call : BoundedCall σ) (chunk : ChunkSize) (s : σ) (input : ByteArray) :
    exactly call s input (Bytes.blank chunk.size) =
      ((call s input chunk.size).1.map Reply.exactly, (call s input chunk.size).2) := by
  simp only [exactly, Bytes.size_blank]

/-- A round of the loop whose call answers with what fits into its window. -/
theorem collect_step (hcall : call s input chunk.size = (.ok b, s')) (hle : b.size ≤ chunk.size) :
    collect (exactly call) chunk s input out =
      if b.size < chunk.size then some (.ok (out ++ b), s')
      else collect (exactly call) chunk s' ByteArray.empty (out ++ b) := by
  rw [collect, exactly_blank, hcall]
  simp only [Outcome.map, Reply.taken_blank hle]
  rw [if_neg (show ¬ chunk.size < (Reply.exactly b).count from Nat.not_lt.mpr hle)]
  rfl

/-- What a loop comes to: all that was written and the books, or what a call came to that did not
answer. -/
def Comes (call : BoundedCall σ) (P : σ → (offered written : ByteArray) → Prop) (chunk : ChunkSize)
    (s : σ) (input offered written out : ByteArray) : Outcome ByteArray × σ → Prop
  | (.ok total, s') => ∃ tail, total = out ++ tail ∧ P s' (offered ++ input) (written ++ tail)
  | r => r = call s input chunk.size ∨
      ∃ before tail, P before (offered ++ input) (written ++ tail) ∧
        r = call before ByteArray.empty chunk.size

theorem Comes.of_later {offered written : ByteArray} {r : Outcome ByteArray × σ}
    (h : P s' (offered ++ input) (written ++ b))
    (hr : Comes call P chunk s' ByteArray.empty (offered ++ input) (written ++ b) (out ++ b) r) :
    Comes call P chunk s input offered written out r := by
  obtain ⟨answer, last⟩ := r
  cases answer with
  | ok total =>
    obtain ⟨tail, htotal, hP⟩ := hr
    rw [ByteArray.append_assoc] at htotal
    rw [ByteArray.append_empty, ByteArray.append_assoc] at hP
    exact ⟨b ++ tail, htotal, hP⟩
  | error e | trap t =>
    obtain hcall | ⟨before, tail, hP, hcall⟩ := hr
    · exact .inr ⟨s', b, h, hcall⟩
    · rw [ByteArray.append_empty, ByteArray.append_assoc] at hP
      exact .inr ⟨before, b ++ tail, hP, hcall⟩

theorem collect_comes (hcall : call.Accounts P) {offered written : ByteArray}
    (hP : P s offered written) {r : Outcome ByteArray × σ}
    (h : collect (exactly call) chunk s input out = some r) :
    Comes call P chunk s input offered written out r := by
  refine Call.collect.partial_correctness (exactly call) chunk
    (fun s input out r => ∀ offered written, P s offered written →
      Comes call P chunk s input offered written out r) ?_ s input out r h offered written hP
  intro rest ih s input out r hr offered written hP
  simp only [exactly_blank] at hr
  rcases hstep : call s input chunk.size with ⟨answer, s'⟩
  rw [hstep] at hr
  cases answer with
  | error e =>
    cases hr
    exact .inl hstep.symm
  | trap t =>
    cases hr
    exact .inl hstep.symm
  | ok b =>
    obtain ⟨hle, hnext⟩ := hcall s offered written input chunk.size b s' hP hstep
    simp only [Outcome.map, Reply.taken_blank hle] at hr
    rw [if_neg (show ¬ chunk.size < (Reply.exactly b).count from Nat.not_lt.mpr hle)] at hr
    by_cases hshort : b.size < chunk.size
    · rw [if_pos (show (Reply.exactly b).count < chunk.size from hshort)] at hr
      cases hr
      exact ⟨b, rfl, hnext⟩
    · rw [if_neg (show ¬ (Reply.exactly b).count < chunk.size from hshort)] at hr
      exact .of_later hnext (ih s' ByteArray.empty (out ++ b) r hr _ _ hnext)

/-- Where only so much can be written, the loop ends. -/
theorem collect_ends (hcall : call.Accounts P) {bound : ByteArray → Nat}
    (hbound : ∀ s offered written, P s offered written → written.size ≤ bound offered)
    {offered written : ByteArray} (hP : P s offered written) (input out : ByteArray) :
    ∃ r, collect (exactly call) chunk s input out = some r := by
  -- A full window leaves less that can be written.
  induction hn : bound (offered ++ input) - written.size using Nat.strongRecOn
    generalizing s input out offered written with
  | ind n ih =>
  rcases hstep : call s input chunk.size with ⟨answer, s'⟩
  cases answer with
  | error e => exact ⟨(.error e, s'), by rw [collect, exactly_blank, hstep]; rfl⟩
  | trap t => exact ⟨(.trap t, s'), by rw [collect, exactly_blank, hstep]; rfl⟩
  | ok b =>
    obtain ⟨hle, hnext⟩ := hcall s offered written input chunk.size b s' hP hstep
    rw [collect_step hstep hle]
    by_cases hshort : b.size < chunk.size
    · exact ⟨_, if_pos hshort⟩
    · rw [if_neg hshort]
      have hwritten := hbound s' _ _ hnext
      have hpos := chunk.one_le
      rw [ByteArray.size_append] at hwritten
      refine ih _ ?_ hnext ByteArray.empty (out ++ b) rfl
      rw [ByteArray.append_empty, ByteArray.size_append]
      omega

end Growth

namespace Decompressor

variable [Engines] {codec : Codec} {chunk : ChunkSize} {d d' : Decompressor}
  {offered written out : ByteArray}

/-- A decompressor that has been offered `offered` and has written `written`. -/
def Holds (codec : Codec) (chunk : ChunkSize) (d : Decompressor) (offered written : ByteArray) :
    Prop :=
  ∃ session read, d = mk codec chunk session ∧ Tracks (fun _ => True) session read written ∧
    read ++ session.ledger.pending.remaining.toBytes = offered

theorem holds_new (codec : Codec) (chunk : ChunkSize) :
    Holds codec chunk (new codec chunk) ByteArray.empty ByteArray.empty :=
  ⟨_, ByteArray.empty, rfl, Decoder.tracks_fresh _ _ _, rfl⟩

theorem decompressInto_accounts (codec : Codec) (chunk : ChunkSize) :
    BoundedCall.Accounts (fun d input room => decompressInto d input room) (Holds codec chunk) := by
  rintro d offered written input room b d' ⟨session, read, rfl, ht, rfl⟩ hcall
  replace hcall : (mk codec chunk session).decompressInto input room = (.ok b, d') := hcall
  refine ⟨decompressInto_size_le hcall, ?_⟩
  rcases hstep : session.decompressInto (engine codec) input room with ⟨answer, session'⟩
  rw [decompressInto_mk, hstep] at hcall
  cases hcall
  obtain ⟨read', ht', hsplit⟩ := Decoder.decompressInto_tracks ht hstep
  refine ⟨session', read', rfl, ht', ?_⟩
  rw [hsplit, ByteArray.append_assoc]

theorem Holds.chunk_eq (h : Holds codec chunk d offered written) : d.chunk = chunk := by
  obtain ⟨session, read, rfl, -, -⟩ := h
  rfl

theorem Holds.codec_eq (h : Holds codec chunk d offered written) : d.codec = codec := by
  obtain ⟨session, read, rfl, -, -⟩ := h
  rfl

theorem Holds.decompress (h : Holds codec chunk d offered written) {input b : ByteArray}
    (hcall : d.decompress input = (.ok b, d')) :
    Holds codec chunk d' (offered ++ input) (written ++ b) := by
  rw [Decompressor.decompress, Growth.all, h.chunk_eq] at hcall
  cases hrun : Growth.collect _ chunk d input ByteArray.empty with
  | none =>
    rw [hrun] at hcall
    cases hcall
  | some r =>
    obtain ⟨tail, htail, hlast⟩ : Growth.Comes _ _ _ _ _ _ _ _ (.ok b, d') := by
      rw [hrun, Option.getD_some] at hcall
      exact hcall ▸ Growth.collect_comes (decompressInto_accounts codec chunk) h hrun
    rw [ByteArray.empty_append] at htail
    exact htail ▸ hlast

/-- What is collected behind `out` is what the decompressor writes. -/
theorem Holds.drain (h : Holds codec chunk d offered written) {total : ByteArray}
    (hrun : d.drain out = some (.ok total, d')) :
    ∃ tail, total = out ++ tail ∧ Holds codec chunk d' offered (written ++ tail) := by
  refine drain.partial_correctness
    (fun d out r => ∀ written total d', Holds codec chunk d offered written → r = (.ok total, d') →
      ∃ tail, total = out ++ tail ∧ Holds codec chunk d' offered (written ++ tail))
    ?_ d out _ hrun written total d' h rfl
  intro rest ih d out r hr written total d' hd htotal
  subst htotal
  by_cases hfinished : d.finished = true
  · rw [if_pos hfinished] at hr
    cases hr
    refine ⟨ByteArray.empty, ByteArray.append_empty.symm, ?_⟩
    rw [ByteArray.append_empty]
    exact hd
  · rw [if_neg hfinished] at hr
    rcases hcall : d.decompress ByteArray.empty with ⟨answer, next⟩
    rw [hcall] at hr
    cases answer with
    | ok more =>
      have hnext := hd.decompress hcall
      rw [ByteArray.append_empty] at hnext
      by_cases hmore : more.size = 0
      · simp only [if_pos hmore] at hr
        cases hr
        rw [ByteArray.size_eq_zero_iff.mp hmore] at hnext
        exact ⟨ByteArray.empty, ByteArray.append_empty.symm, hnext⟩
      · simp only [if_neg hmore] at hr
        obtain ⟨tail, htail, hlast⟩ := ih next (out ++ more) _ hr _ total d' hnext rfl
        rw [ByteArray.append_assoc] at htail hlast
        exact ⟨more ++ tail, htail, hlast⟩
    | error e | trap t => cases hr

end Decompressor

namespace OneShot

variable [Engines] {codec : Codec} {chunk : ChunkSize} {d : Decompressor} {b out : ByteArray}

/-- A result comes only of an engine that has read a stream to its end at the front of the input,
and it is what the engine has written. -/
theorem decompressWith_eq_ok (h : decompressWith (Decompressor.new codec chunk) b = (.ok out, d)) :
    d.finished = true ∧ Decompressor.Holds codec chunk d b out := by
  rw [decompressWith] at h
  rcases hcall : (Decompressor.new codec chunk).decompress b with ⟨answer, d₁⟩
  rw [hcall] at h
  cases answer with
  | error e | trap t => cases h
  | ok front =>
    have hfront := (Decompressor.holds_new codec chunk).decompress hcall
    rw [ByteArray.empty_append, ByteArray.empty_append] at hfront
    replace h : whole ((d₁.drain front).getD (.trap .unending, d₁)) = (.ok out, d) := h
    cases hdrain : d₁.drain front with
    | none =>
      rw [hdrain] at h
      cases h
    | some r =>
      obtain ⟨answer, d₂⟩ := r
      rw [hdrain] at h
      cases answer with
      | error e | trap t => cases h
      | ok total =>
        obtain ⟨tail, rfl, hlast⟩ := hfront.drain hdrain
        replace h : whole (.ok (front ++ tail), d₂) = (.ok out, d) := h
        rw [whole] at h
        split at h
        · next hfinished =>
          cases h
          exact ⟨hfinished, hlast⟩
        · cases h

end OneShot

end StreamCodec
