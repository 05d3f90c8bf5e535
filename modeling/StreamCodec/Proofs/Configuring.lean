import StreamCodec.Config.Build
import StreamCodec.Proofs.Lookup

/-!
Settings that are built are fit for use. A shape reads each of its fields by one rule and leaves
the others alone, so a field of the settings is what was merged for it, or the default where
nothing was. What names no format, no log level or no chunk size is never built.
-/

namespace StreamCodec.Config

section

variable {ε ε' α β : Type} {x : Except ε α}

theorem bind_eq_ok {f : α → Except ε β} {b : β} :
    x >>= f = .ok b ↔ ∃ a, x = .ok a ∧ f a = .ok b := by
  constructor
  · intro h
    cases x with
    | error e => cases h
    | ok a => exact ⟨a, rfl, h⟩
  · rintro ⟨a, rfl, h⟩
    exact h

theorem mapError_eq_ok {f : ε → ε'} {a : α} : x.mapError f = .ok a ↔ x = .ok a := by
  cases x with
  | error e =>
    constructor
    · intro h
      cases h
    · intro h
      cases h
  | ok b =>
    constructor
    · intro h
      cases h
      rfl
    · intro h
      cases h
      rfl

theorem eq_ok_of_toOption {a : α} (h : x.toOption = some a) : x = .ok a := by
  cases x with
  | error e => cases h
  | ok b => exact congrArg _ (Option.some.inj h)

end

namespace Decode

namespace Shape

variable {α β : Type} {s : Shape α} {field : String} {get : α → β} {decode : Decode β} {a b : α}

def at? (s : Shape α) (field : String) : Setting → Option Setting
  | .table _ es => es.lookup field
  | .list _ items => items[s.fields.idxOf field]?
  | .scalar _ _ => none

/-- A field that is read by `decode`, shown by `get`, and left alone by the other fields. -/
structure Sets (s : Shape α) (field : String) (get : α → β) (decode : Decode β) : Prop where
  mem : field ∈ s.fields
  nodup : s.fields.Nodup
  own : ∀ {x : Setting} {a b : α}, s.take field x a = .ok b → decode x = .ok (get b)
  others : ∀ {f : String} {x : Setting} {a b : α}, f ∈ s.fields → f ≠ field →
    s.take f x a = .ok b → get b = get a

/-- `v` is what `decode` makes of the setting, or `start` if there is none. -/
def Comes (decode : Decode β) (x : Option Setting) (start v : β) : Prop :=
  match x with
  | some x => decode x = .ok v
  | none => v = start

theorem takeFields_cons {es : Setting.Entries} {f : String} {fs : List String}
    (h : s.takeFields es (f :: fs) a = .ok b) :
    (es.lookup f = none ∧ s.takeFields es fs a = .ok b) ∨
      ∃ x m, es.lookup f = some x ∧ s.take f x a = .ok m ∧ s.takeFields es fs m = .ok b := by
  rw [takeFields] at h
  cases hx : es.lookup f with
  | none =>
    simp only [hx] at h
    exact .inl ⟨rfl, h⟩
  | some x =>
    simp only [hx] at h
    obtain ⟨m, hm, hb⟩ := bind_eq_ok.mp h
    exact .inr ⟨x, m, rfl, mapError_eq_ok.mp hm, hb⟩

theorem takeItems_cons {i : Nat} {f : String} {fs : List String} {x : Setting} {xs : List Setting}
    (h : s.takeItems i (f :: fs) (x :: xs) a = .ok b) :
    ∃ m, s.take f x a = .ok m ∧ s.takeItems (i + 1) fs xs m = .ok b := by
  obtain ⟨m, hm, hb⟩ := bind_eq_ok.mp h
  exact ⟨m, mapError_eq_ok.mp hm, hb⟩

namespace Sets

theorem takeFields_others (h : s.Sets field get decode) {es : Setting.Entries} {fs : List String}
    (hfs : fs ⊆ s.fields) (hf : field ∉ fs) (hb : s.takeFields es fs a = .ok b) :
    get b = get a := by
  induction fs generalizing a with
  | nil =>
    cases hb
    rfl
  | cons f fs ih =>
    rw [List.mem_cons, not_or] at hf
    rw [List.cons_subset] at hfs
    rcases takeFields_cons hb with ⟨-, hb⟩ | ⟨x, m, -, hm, hb⟩
    · exact ih hfs.2 hf.2 hb
    · exact (ih hfs.2 hf.2 hb).trans (h.others hfs.1 (Ne.symm hf.1) hm)

theorem takeFields_own (h : s.Sets field get decode) {es : Setting.Entries} {fs : List String}
    (hfs : fs ⊆ s.fields) (hn : fs.Nodup) (hf : field ∈ fs) (hb : s.takeFields es fs a = .ok b) :
    Comes decode (es.lookup field) (get a) (get b) := by
  induction fs generalizing a with
  | nil => simp at hf
  | cons f fs ih =>
    rw [List.nodup_cons] at hn
    rw [List.cons_subset] at hfs
    by_cases hff : f = field
    · subst hff
      rcases takeFields_cons hb with ⟨hx, hb⟩ | ⟨x, m, hx, hm, hb⟩
      · rw [hx]
        exact h.takeFields_others hfs.2 hn.1 hb
      · rw [hx]
        have hget := h.takeFields_others hfs.2 hn.1 hb
        exact hget ▸ h.own hm
    · have hf := (List.mem_cons.mp hf).resolve_left (Ne.symm hff)
      rcases takeFields_cons hb with ⟨-, hb⟩ | ⟨x, m, -, hm, hb⟩
      · exact ih hfs.2 hn.2 hf hb
      · exact h.others hfs.1 hff hm ▸ ih hfs.2 hn.2 hf hb

theorem takeItems_others (h : s.Sets field get decode) {i : Nat} {fs : List String}
    {xs : List Setting}
    (hfs : fs ⊆ s.fields) (hf : field ∉ fs) (hb : s.takeItems i fs xs a = .ok b) :
    get b = get a := by
  induction fs generalizing a i xs with
  | nil =>
    cases hb
    rfl
  | cons f fs ih =>
    rw [List.mem_cons, not_or] at hf
    rw [List.cons_subset] at hfs
    cases xs with
    | nil =>
      cases hb
      rfl
    | cons x xs =>
      obtain ⟨m, hm, hb⟩ := takeItems_cons hb
      exact (ih hfs.2 hf.2 hb).trans (h.others hfs.1 (Ne.symm hf.1) hm)

theorem takeItems_own (h : s.Sets field get decode) {i : Nat} {fs : List String} {xs : List Setting}
    (hfs : fs ⊆ s.fields) (hn : fs.Nodup) (hf : field ∈ fs) (hb : s.takeItems i fs xs a = .ok b) :
    Comes decode xs[fs.idxOf field]? (get a) (get b) := by
  induction fs generalizing a i xs with
  | nil => simp at hf
  | cons f fs ih =>
    rw [List.nodup_cons] at hn
    rw [List.cons_subset] at hfs
    cases xs with
    | nil =>
      cases hb
      rfl
    | cons x xs =>
      obtain ⟨m, hm, hb⟩ := takeItems_cons hb
      by_cases hff : f = field
      · subst hff
        rw [List.idxOf_cons_self]
        have hget := h.takeItems_others hfs.2 hn.1 hb
        exact hget ▸ h.own hm
      · have hf := (List.mem_cons.mp hf).resolve_left (Ne.symm hff)
        rw [List.idxOf_cons, show (f == field) = false from beq_false_of_ne hff, cond_false,
          List.getElem?_cons_succ]
        exact h.others hfs.1 hff hm ▸ ih hfs.2 hn.2 hf hb

/-- What was read has for the field what the setting has. -/
theorem read (h : s.Sets field get decode) {x : Setting} (hb : s.read a x = .ok b) :
    Comes decode (s.at? field x) (get a) (get b) := by
  cases x with
  | scalar o v => cases hb
  | list o items => exact h.takeItems_own (List.Subset.refl _) h.nodup h.mem hb
  | table o es => exact h.takeFields_own (List.Subset.refl _) h.nodup h.mem hb

theorem comes (h : s.Sets field get decode) {x : Option Setting} (hx : Comes (s.read a) x a b) :
    Comes decode (x.bind (s.at? field)) (get a) (get b) := by
  cases x with
  | none => exact congrArg get hx
  | some x => exact h.read hx

end Sets

end Shape

open Shape

variable {f : String} {x : Setting} {es : Setting.Entries}

theorem codecShape_take {a b : CodecSettings} (hf : f ∈ codecShape.fields)
    (h : codecShape.take f x a = .ok b) :
    (f = "default_codec" ∧ ∃ v, text x = .ok v ∧ b = { a with codec := v }) ∨
      (f = "level" ∧ ∃ v, level x = .ok v ∧ b = { a with level := v }) ∨
        (f = "chunk_size" ∧ ∃ v, chunkSize x = .ok v ∧ b = { a with chunk := v }) ∨
          f = "output_chunk_size" ∧ ∃ v, chunkSize x = .ok v ∧ b = { a with outputChunk := v } := by
  simp only [codecShape, List.mem_cons, List.not_mem_nil, or_false] at hf
  rcases hf with rfl | rfl | rfl | rfl <;> obtain ⟨v, hv, hb⟩ := bind_eq_ok.mp h <;> cases hb
  · exact .inl ⟨rfl, v, hv, rfl⟩
  · exact .inr (.inl ⟨rfl, v, hv, rfl⟩)
  · exact .inr (.inr (.inl ⟨rfl, v, hv, rfl⟩))
  · exact .inr (.inr (.inr ⟨rfl, v, hv, rfl⟩))

theorem loggingShape_take {a b : LoggingSettings} (hf : f ∈ loggingShape.fields)
    (h : loggingShape.take f x a = .ok b) :
    (f = "level" ∧ ∃ v, text x = .ok v ∧ b = { a with level := v }) ∨
      f = "colored_output" ∧ ∃ v, bool x = .ok v ∧ b = { a with colored := v } := by
  simp only [loggingShape, List.mem_cons, List.not_mem_nil, or_false] at hf
  rcases hf with rfl | rfl <;> obtain ⟨v, hv, hb⟩ := bind_eq_ok.mp h <;> cases hb
  · exact .inl ⟨rfl, v, hv, rfl⟩
  · exact .inr ⟨rfl, v, hv, rfl⟩

theorem settingsShape_take {a b : Settings} (hf : f ∈ settingsShape.fields)
    (h : settingsShape.take f x a = .ok b) :
    (f = "codec" ∧ ∃ v, codecShape.read {} x = .ok v ∧ b = { a with codec := v }) ∨
      f = "logging" ∧ ∃ v, loggingShape.read {} x = .ok v ∧ b = { a with logging := v } := by
  simp only [settingsShape, List.mem_cons, List.not_mem_nil, or_false] at hf
  rcases hf with rfl | rfl <;> obtain ⟨v, hv, hb⟩ := bind_eq_ok.mp h <;> cases hb
  · exact .inl ⟨rfl, v, hv, rfl⟩
  · exact .inr ⟨rfl, v, hv, rfl⟩

theorem sets_codec : codecShape.Sets "default_codec" CodecSettings.codec text where
  mem := by decide
  nodup := by decide
  own h := by rcases codecShape_take (by decide) h with h | h | h | h <;> grind
  others hf hne h := by rcases codecShape_take hf h with h | h | h | h <;> grind

theorem sets_chunk : codecShape.Sets "chunk_size" CodecSettings.chunk chunkSize where
  mem := by decide
  nodup := by decide
  own h := by rcases codecShape_take (by decide) h with h | h | h | h <;> grind
  others hf hne h := by rcases codecShape_take hf h with h | h | h | h <;> grind

theorem sets_outputChunk :
    codecShape.Sets "output_chunk_size" CodecSettings.outputChunk chunkSize where
  mem := by decide
  nodup := by decide
  own h := by rcases codecShape_take (by decide) h with h | h | h | h <;> grind
  others hf hne h := by rcases codecShape_take hf h with h | h | h | h <;> grind

theorem sets_logLevel : loggingShape.Sets "level" LoggingSettings.level text where
  mem := by decide
  nodup := by decide
  own h := by rcases loggingShape_take (by decide) h with h | h <;> grind
  others hf hne h := by rcases loggingShape_take hf h with h | h <;> grind

theorem sets_codecSettings : settingsShape.Sets "codec" Settings.codec (codecShape.read {}) where
  mem := by decide
  nodup := by decide
  own h := by rcases settingsShape_take (by decide) h with h | h <;> grind
  others hf hne h := by rcases settingsShape_take hf h with h | h <;> grind

theorem sets_logging : settingsShape.Sets "logging" Settings.logging (loggingShape.read {}) where
  mem := by decide
  nodup := by decide
  own h := by rcases settingsShape_take (by decide) h with h | h <;> grind
  others hf hne h := by rcases settingsShape_take hf h with h | h <;> grind

def codecField? (es : Setting.Entries) (field : String) : Option Setting :=
  (settingsShape.at? "codec" (.table none es)).bind (codecShape.at? field)

def loggingField? (es : Setting.Entries) (field : String) : Option Setting :=
  (settingsShape.at? "logging" (.table none es)).bind (loggingShape.at? field)

variable {s : Settings}

theorem codec_comes {β : Type} {field : String} {get : CodecSettings → β} {decode : Decode β}
    (h : codecShape.Sets field get decode) (hs : settings es = .ok s) :
    Comes decode (codecField? es field) (get {}) (get s.codec) :=
  h.comes (sets_codecSettings.read hs)

theorem logging_comes {β : Type} {field : String} {get : LoggingSettings → β} {decode : Decode β}
    (h : loggingShape.Sets field get decode) (hs : settings es = .ok s) :
    Comes decode (loggingField? es field) (get {}) (get s.logging) :=
  h.comes (sets_logging.read hs)

end Decode

/-- What was merged has for the format no name of a format, for the log level no name of a log
level, or for a chunk size no number in bounds. -/
inductive Unfit (es : Setting.Entries) : Prop
  | codec {x : Setting} (hx : Decode.codecField? es "default_codec" = some x)
      (hnone : ∀ c : Codec, Decode.text x ≠ .ok c.name)
  | logLevel {x : Setting} (hx : Decode.loggingField? es "level" = some x)
      (hnone : ∀ name ∈ logLevels, Decode.text x ≠ .ok name)
  | chunk {field : String} {x : Setting} (hfield : field = "chunk_size" ∨
    field = "output_chunk_size")
      (hx : Decode.codecField? es field = some x)
      (hnone : ∀ n, ChunkSize.min ≤ n → n ≤ ChunkSize.max → Decode.word x ≠ .ok n)

theorem Decode.chunkSize_eq_ok {x : Setting} {c : ChunkSize} (h : Decode.chunkSize x = .ok c) :
    Decode.word x = .ok c.size := by
  obtain ⟨n, hn, h⟩ := bind_eq_ok.mp h
  cases hc : ChunkSize.ofNat n with
  | error e =>
    rw [hc] at h
    cases h
  | ok c' =>
    rw [hc] at h
    cases h
    rw [hn, ChunkSize.size_of_ofNat hc]

namespace Settings

variable [Engines] {s : Settings}

/-- The chunk sizes are in bounds, the log level is there, and the settings give a compressor and a
decompressor of the format that they name, with their own level and chunk sizes. -/
structure Usable (s : Settings) : Prop where
  chunk : ChunkSize.min ≤ s.codec.chunk.size ∧ s.codec.chunk.size ≤ ChunkSize.max
  outputChunk : ChunkSize.min ≤ s.codec.outputChunk.size ∧ s.codec.outputChunk.size ≤ ChunkSize.max
  logLevel : s.logging.level ∈ logLevels
  adapters : ∃ c, s.codec.find = .ok c ∧
    s.codec.compressor = .ok (Compressor.new c s.codec.level s.codec.chunk) ∧
      s.codec.decompressor = .ok (Decompressor.new c s.codec.outputChunk)

omit [Engines] in
theorem check_eq_ok : s.check = .ok () ↔
    (∃ c : Codec, c.name = s.codec.codec) ∧ s.logging.level ∈ logLevels := by
  have hname :
      (Codec.ofName? s.codec.codec).isNone = false ↔ ∃ c : Codec, c.name = s.codec.codec := by
    simp only [Option.isNone_eq_false_iff, Option.isSome_iff_exists, Codec.ofName?_eq_some_iff]
  rw [← hname, ← List.contains_iff_mem, check]
  cases (Codec.ofName? s.codec.codec).isNone <;> cases logLevels.contains s.logging.level <;> simp

theorem usable_of_check (h : s.check = .ok ()) : s.Usable := by
  obtain ⟨⟨c, hc⟩, hlevel⟩ := check_eq_ok.mp h
  refine ⟨⟨s.codec.chunk.one_le, s.codec.chunk.le_max⟩,
    ⟨s.codec.outputChunk.one_le, s.codec.outputChunk.le_max⟩, hlevel, c, ?_, ?_, ?_⟩
  · rw [CodecSettings.find, ← hc, Codec.ofName?_name]
  · rw [CodecSettings.compressor, Registry.compressor?_eq_map, ← hc, Codec.ofName?_name]
    rfl
  · rw [CodecSettings.decompressor, Registry.decompressor?_eq_map, ← hc, Codec.ofName?_name]
    rfl

omit [Engines] in
theorem check_ne_ok_of_unfit {es : Setting.Entries} (hun : Unfit es)
    (hs : Decode.settings es = .ok s) :
    s.check ≠ .ok () := by
  intro h
  obtain ⟨⟨c, hc⟩, hlevel⟩ := check_eq_ok.mp h
  cases hun with
  | codec hx hnone =>
    have hread := Decode.codec_comes Decode.sets_codec hs
    rw [hx] at hread
    exact hnone c (hc ▸ hread)
  | logLevel hx hnone =>
    have hread := Decode.logging_comes Decode.sets_logLevel hs
    rw [hx] at hread
    exact hnone _ hlevel hread
  | @chunk field x hfield hx hnone =>
    have hsize : ∃ c : ChunkSize, Decode.chunkSize x = .ok c := by
      rcases hfield with rfl | rfl
      · have hread := Decode.codec_comes Decode.sets_chunk hs
        rw [hx] at hread
        exact ⟨_, hread⟩
      · have hread := Decode.codec_comes Decode.sets_outputChunk hs
        rw [hx] at hread
        exact ⟨_, hread⟩
    obtain ⟨c, hc⟩ := hsize
    exact hnone c.size c.one_le c.le_max (Decode.chunkSize_eq_ok hc)

end Settings

namespace Plan

theorem build_eq_ok {p : Plan} {w : Surroundings} {s : Settings} : p.build w = .ok s ↔
    ∃ es, p.merged w = .ok es ∧ Decode.settings es = .ok s ∧ s.check = .ok () := by
  constructor
  · intro h
    obtain ⟨es, hes, h⟩ := bind_eq_ok.mp h
    obtain ⟨s', hs, h⟩ := bind_eq_ok.mp h
    obtain ⟨_, hcheck, h⟩ := bind_eq_ok.mp h
    cases h
    exact ⟨es, hes, mapError_eq_ok.mp hs, hcheck⟩
  · rintro ⟨es, hes, hs, hcheck⟩
    have hchecked : (s.check >>= fun _ => .ok s) = .ok s := bind_eq_ok.mpr ⟨(), hcheck, rfl⟩
    exact bind_eq_ok.mpr ⟨es, hes, bind_eq_ok.mpr ⟨s, mapError_eq_ok.mpr hs, hchecked⟩⟩

/-- Whatever the layers hold: settings that are built are fit for use, those that name what is not
there are not built, and the ones taken in their place are fit for use too. -/
theorem build_usable [Engines] (p : Plan) (w : Surroundings) :
    (∀ s, p.build w = .ok s → s.Usable) ∧
      (∀ es, p.merged w = .ok es → Unfit es → ∃ f, p.build w = .error f) ∧
        (p.buildOrDefault w).Usable ∧
          ∀ name, (Registry.find? name).map (·.codec) = Codec.ofName? name := by
  have hbuilt : ∀ s, p.build w = .ok s → s.Usable := by
    intro s hs
    obtain ⟨es, -, -, hcheck⟩ := build_eq_ok.mp hs
    exact Settings.usable_of_check hcheck
  refine ⟨hbuilt, ?_, ?_, ?_⟩
  · intro es hes hun
    cases hb : p.build w with
    | error f => exact ⟨f, rfl⟩
    | ok s =>
      obtain ⟨es', hes', hs, hcheck⟩ := build_eq_ok.mp hb
      cases hes.symm.trans hes'
      exact absurd hcheck (Settings.check_ne_ok_of_unfit hun hs)
  · rw [buildOrDefault]
    split
    · exact hbuilt _ ‹_›
    · exact Settings.usable_of_check (Settings.check_eq_ok.mpr ⟨⟨.zstd, rfl⟩, by decide⟩)
  · intro name
    rw [Registry.find?_eq_map, Option.map_map]
    exact Option.map_id'

theorem build_usable_variables :
    let p : Plan := { layers := [.defaults, .environment "app"] }
    (∃ s, p.build { environment := [("app__codec__default_codec", "gzip")] } = .ok s ∧
        s.codec.codec = "gzip" ∧ s.Usable) ∧
      ∃ f, p.build { environment := [("app__codec__chunk_size", "0")] } = .error f := by
  intro p
  constructor
  · have hs :
        (p.build { environment := [("app__codec__default_codec", "gzip")] }).toOption.map
          (·.codec.codec) =
        some "gzip" := by decide +kernel
    cases hb : p.build { environment := [("app__codec__default_codec", "gzip")] } with
    | error f =>
      rw [hb] at hs
      cases hs
    | ok s =>
      rw [hb] at hs
      exact ⟨s, rfl, Option.some.inj hs, (build_usable p _).1 s hb⟩
  · have hn : ((p.merged { environment := [("app__codec__chunk_size", "0")] }).toOption.bind
      fun es =>
        (Decode.codecField? es "chunk_size").bind fun x => (Decode.word x).toOption) = some 0 := by
      decide +kernel
    obtain ⟨es, hes, hn⟩ := Option.bind_eq_some_iff.mp hn
    obtain ⟨x, hx, hn⟩ := Option.bind_eq_some_iff.mp hn
    exact (build_usable p _).2.1 es (eq_ok_of_toOption hes)
      (.chunk (.inl rfl) hx fun n hmin _ h => by
        cases h.symm.trans (eq_ok_of_toOption hn)
        exact absurd hmin (by decide))

end Plan

end StreamCodec.Config
