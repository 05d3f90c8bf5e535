import StreamCodec.Config.Store
import StreamCodec.Proofs.Configuring

/-!
Layers of settings, key by key. However the layers are merged, table into table and path by
path, each key has in the end what the last layer that sets it has set. So what stands below a
layer that sets every key is without effect, and so is what would have been invalid there.
-/

namespace StreamCodec.Config

/-- What the last item has that has something. -/
def lastSome {α β : Type} (f : α → Option β) (items : List α) : Option β :=
  (items.filterMap f).getLast?

section LastSome

variable {α β : Type} {f : α → Option β}

@[simp] theorem lastSome_nil : lastSome f [] = none := rfl

theorem lastSome_cons (a : α) (items : List α) :
    lastSome f (a :: items) = (lastSome f items).or (f a) := by
  rw [lastSome, lastSome, List.filterMap_cons]
  cases hf : f a with
  | none => exact Option.or_none.symm
  | some b => rw [List.getLast?_cons, Option.or_some]

theorem lastSome_append (items more : List α) :
    lastSome f (items ++ more) = (lastSome f more).or (lastSome f items) := by
  rw [lastSome, List.filterMap_append, List.getLast?_append, lastSome, lastSome]

end LastSome

inductive Key where
  | format
  | level
  | chunk
  | outputChunk
  | logLevel
  | colored
deriving DecidableEq, Repr

namespace Key

def all : List Key := [format, level, chunk, outputChunk, logLevel, colored]

theorem mem_all (key : Key) : key ∈ all := by
  cases key <;> decide

def heading : Key → String
  | format | level | chunk | outputChunk => "codec"
  | logLevel | colored => "logging"

def field : Key → String
  | format => "default_codec"
  | level | logLevel => "level"
  | chunk => "chunk_size"
  | outputChunk => "output_chunk_size"
  | colored => "colored_output"

end Key

namespace Setting

def isScalar : Setting → Bool
  | scalar _ _ => true
  | list _ _ | table _ _ => false

def value? (es : Entries) (key : Key) : Option Setting :=
  (es.lookup key.heading).bind fun s => s.entries.lookup key.field

/-- What a table sets for a field, which may stand in it more than once. -/
def last? (es : Entries) (field : String) : Option Setting :=
  lastSome (fun e => if e.1 = field then some e.2 else none) es

end Setting

namespace Setting

/-- What a setting at the end of some steps sets for a field under the heading they start from. -/
def setAlong? (field : String) : List Step → Setting → Option Setting
  | [], s => last? s.entries field
  | [.key k], s => if k = field then some s else none
  | _, _ => none

def suitsAlong (field : String) : List Step → Setting → Bool
  | [], .table _ es => es.all fun e => e.1 ≠ field || e.2.isScalar
  | [], _ => false
  | [.key k], s => k ≠ field || s.isScalar
  | .key k :: _, _ => k ≠ field
  | .place _ :: _, _ => false

end Setting

namespace Key

/-- What an entry at the top of a layer sets for a key. What stands before it is a path. -/
def setBy? (key : Key) (e : String × Setting) : Option Setting :=
  let place := Path.ofText e.1
  if place.top = key.heading then Setting.setAlong? key.field place.steps e.2 else none

/-- Where the entry has the heading of the key it is a table, and where it has the key, a scalar. -/
def suits (key : Key) (e : String × Setting) : Bool :=
  let place := Path.ofText e.1
  place.top ≠ key.heading || Setting.suitsAlong key.field place.steps e.2

end Key

namespace Setting

variable {es old : Entries} {k field : String} {s : Setting}

theorem lookup_cons (e : String × Setting) (es : Entries) (k : String) :
    List.lookup k (e :: es) = if k = e.1 then some e.2 else es.lookup k := by
  rw [List.lookup_cons]
  by_cases hk : k = e.1
  · rw [if_pos hk, beq_iff_eq.mpr hk]
  · rw [if_neg hk, beq_false_of_ne hk]

/-- What is put under a key is found there, and the rest is found as before. -/
theorem lookup_put (es : Entries) (k k' : String) (s : Setting) :
    (put es k s).lookup k' = if k' = k then some s else es.lookup k' := by
  induction es with
  | nil => exact lookup_cons (k, s) [] k'
  | cons e es ih =>
    rw [put, lookup_cons e]
    by_cases he : e.1 = k
    · rw [if_pos he, lookup_cons, he]
      split <;> rfl
    · rw [if_neg he, lookup_cons, ih]
      by_cases hk : k' = k
      · rw [if_neg (fun h => he (h.symm.trans hk)), if_pos hk, if_pos hk]
      · rw [if_neg hk, if_neg hk]

theorem merge_of_isScalar (h : s.isScalar = true) (old : Setting) : merge old s = s := by
  cases s with
  | scalar o v => rw [merge]; exact fun _ _ => Setting.noConfusion
  | list o items => cases h
  | table o es => cases h

/-- Of a field that is set to scalars only the last one is left. -/
theorem lookup_mergeEntries (old : Entries)
    (h : ∀ x ∈ es, x.1 = field → x.2.isScalar = true) :
    (mergeEntries old es).lookup field = (last? es field).or (old.lookup field) := by
  induction es generalizing old with
  | nil => rw [mergeEntries]; rfl
  | cons x es ih =>
    obtain ⟨hx, hes⟩ := List.forall_mem_cons.mp h
    have hlast : last? (x :: es) field =
        (last? es field).or (if x.1 = field then some x.2 else none) := lastSome_cons x es
    rw [mergeEntries, ih _ hes, lookup_put, hlast, Option.or_assoc]
    by_cases hfield : x.1 = field
    · rw [if_pos hfield.symm, if_pos hfield, merge_of_isScalar (hx hfield), Option.some_or]
    · rw [if_neg (Ne.symm hfield), if_neg hfield, Option.none_or]

/-- What stands at the end of some steps under a heading is changed, and no other field. -/
theorem lookup_alter {steps : List Step} (h : suitsAlong field steps s = true) (prev : Setting) :
    ∃ o es, alter (merge · s) steps prev = table o es ∧
      es.lookup field = (setAlong? field steps s).or (prev.entries.lookup field) := by
  match steps, s, h with
  | [], table o es, h =>
    have hscalars : ∀ e ∈ es, e.1 = field → e.2.isScalar = true := by
      intro e he hfield
      have hor := List.all_eq_true.mp h e he
      rw [decide_eq_false (not_not_intro hfield), Bool.false_or] at hor
      exact hor
    exact ⟨prev.tableOrigin, mergeEntries prev.entries es, by rw [alter, merge],
      lookup_mergeEntries prev.entries hscalars⟩
  | [.key k], s, h =>
    refine ⟨_, _, by rw [alter], ?_⟩
    rw [lookup_put, setAlong?, alter]
    by_cases hk : k = field
    · have hscalar : s.isScalar = true := by
        rw [suitsAlong, decide_eq_false (not_not_intro hk), Bool.false_or] at h
        exact h
      rw [if_pos hk.symm, if_pos hk, merge_of_isScalar hscalar, Option.some_or]
    · rw [if_neg (Ne.symm hk), if_neg hk, Option.none_or]
  | .key k :: step :: steps, s, h =>
    have hk : k ≠ field := of_decide_eq_true h
    refine ⟨_, _, by rw [alter], ?_⟩
    rw [lookup_put, if_neg (Ne.symm hk)]
    rfl

def enter (old : Entries) (e : String × Setting) : Entries :=
  let place := Path.ofText e.1
  put old place.top (alter (merge · e.2) place.steps ((old.lookup place.top).getD nothing))

theorem apply_eq_foldl (old layer : Entries) : apply old layer = layer.foldl enter old := rfl

theorem lookup_enter (old : Entries) (e : String × Setting) (k : String) :
    (enter old e).lookup k =
      if k = (Path.ofText e.1).top then
        some (alter (merge · e.2) (Path.ofText e.1).steps
          ((old.lookup (Path.ofText e.1).top).getD nothing))
      else old.lookup k := lookup_put ..

variable {key : Key} {e : String × Setting}

/-- What a heading stands for, in settings where it may be missing. -/
theorem value?_eq (es : Entries) (key : Key) :
    value? es key = ((es.lookup key.heading).getD nothing).entries.lookup key.field := by
  rw [value?]
  cases es.lookup key.heading with
  | none => rfl
  | some s => rfl

/-- What an entry that has the heading of a key leaves there. -/
theorem enter_heading (old : Entries) (h : key.suits e = true)
    (htop : (Path.ofText e.1).top = key.heading) :
    ∃ o es, (enter old e).lookup key.heading = some (table o es) ∧
      es.lookup key.field = (key.setBy? e).or (value? old key) := by
  rw [Key.suits, decide_eq_false (not_not_intro htop), Bool.false_or] at h
  obtain ⟨o, es, halter, hlookup⟩ :=
    lookup_alter h ((old.lookup (Path.ofText e.1).top).getD nothing)
  refine ⟨o, es, ?_, ?_⟩
  · rw [lookup_enter, if_pos htop.symm, halter]
  · rw [hlookup, htop, value?_eq, Key.setBy?, if_pos htop]

/-- One entry changes what it sets and nothing else. -/
theorem value?_enter (old : Entries) (h : key.suits e = true) :
    value? (enter old e) key = (key.setBy? e).or (value? old key) := by
  by_cases htop : (Path.ofText e.1).top = key.heading
  · obtain ⟨o, es, hheading, hfield⟩ := enter_heading old h htop
    rw [value?, hheading, Option.bind_some]
    exact hfield
  · rw [value?, lookup_enter, if_neg (Ne.symm htop), Key.setBy?, if_neg htop, Option.none_or]
    rfl

/-- The last entry of a layer that sets a key gives its value, and without one it stays. -/
theorem value?_apply (old : Entries) (h : ∀ e ∈ es, key.suits e = true) :
    value? (apply old es) key = (lastSome key.setBy? es).or (value? old key) := by
  rw [apply_eq_foldl]
  induction es generalizing old with
  | nil => rfl
  | cons e es ih =>
    obtain ⟨he, hes⟩ := List.forall_mem_cons.mp h
    rw [List.foldl_cons, ih _ hes, value?_enter old he, lastSome_cons, Option.or_assoc]

def Headed (es : Entries) : Prop :=
  ∀ (key : Key) (s : Setting), es.lookup key.heading = some s → ∃ o fields, s = table o fields

theorem headed_nil : Headed [] := by
  intro key s h
  cases h

theorem headed_apply (h : ∀ e ∈ es, ∀ key : Key, key.suits e = true) (hold : Headed old) :
    Headed (apply old es) := by
  rw [apply_eq_foldl]
  induction es generalizing old with
  | nil => exact hold
  | cons e es ih =>
    obtain ⟨he, hes⟩ := List.forall_mem_cons.mp h
    refine ih hes ?_
    intro key s hs
    by_cases htop : (Path.ofText e.1).top = key.heading
    · obtain ⟨o, fields, hheading, -⟩ := enter_heading old (he key) htop
      exact ⟨o, fields, Option.some.inj (hs.symm.trans hheading)⟩
    · rw [lookup_enter, if_neg (Ne.symm htop)] at hs
      exact hold key s hs

end Setting

/-- A bind of a bind, seen from further out. -/
theorem mapError_bind {ε ε' α β : Type} (x : Except ε α) (f : α → Except ε β) (g : ε → ε') :
    (x >>= f).mapError g = x.mapError g >>= fun a => (f a).mapError g := by
  cases x <;> rfl

namespace Decode

variable {α β : Type}

def under (step : Step) (decode : Decode β) (start : β) : Option Setting → Except Misfit β
  | some x => (decode x).mapError (·.under step)
  | none => .ok start

/-- A field of a shape that `decode` reads, `get` shows and `set` puts in its place. -/
structure Shape.Owns (s : Shape α) (f : String) (decode : Decode β) (get : α → β)
    (set : α → β → α) : Prop where
  take : ∀ x a, s.take f x a = decode x >>= fun b => .ok (set a b)
  set_get : ∀ a, set a (get a) = a

theorem Shape.takeFields_nil (s : Shape α) (es : Setting.Entries) (a : α) :
    s.takeFields es [] a = .ok a := rfl

theorem Shape.Owns.takeFields {s : Shape α} {f : String} {decode : Decode β} {get : α → β}
    {set : α → β → α} (h : s.Owns f decode get set) (es : Setting.Entries) (fs : List String)
    (a : α) :
    s.takeFields es (f :: fs) a =
      under (.key f) decode (get a) (es.lookup f) >>= fun b => s.takeFields es fs (set a b) := by
  rw [Shape.takeFields]
  cases es.lookup f with
  | none =>
    show s.takeFields es fs a = s.takeFields es fs (set a (get a))
    rw [h.set_get]
  | some x =>
    simp only [h.take, under, mapError_bind]
    cases decode x <;> rfl

end Decode

def Key.read {β : Type} (key : Key) (decode : Decode β) (start : β) (value : Key → Option Setting) :
    Except Misfit β :=
  (Decode.under (.key key.field) decode start (value key)).mapError (·.under (.key key.heading))

namespace Decode

def settingsOf (value : Key → Option Setting) : Except Misfit Settings := do
  let start : Settings := {}
  let codec ← Key.format.read text start.codec.codec value
  let level ← Key.level.read level start.codec.level value
  let chunk ← Key.chunk.read chunkSize start.codec.chunk value
  let outputChunk ← Key.outputChunk.read chunkSize start.codec.outputChunk value
  let logLevel ← Key.logLevel.read text start.logging.level value
  let colored ← Key.colored.read bool start.logging.colored value
  return {
    codec := { codec, level, chunk, outputChunk }
    logging := { level := logLevel, colored } }

theorem owns_codec : codecShape.Owns "default_codec" text CodecSettings.codec
    fun s codec => { s with codec } := ⟨fun _ _ => rfl, fun _ => rfl⟩

theorem owns_level : codecShape.Owns "level" level CodecSettings.level
    fun s level => { s with level } := ⟨fun _ _ => rfl, fun _ => rfl⟩

theorem owns_chunk : codecShape.Owns "chunk_size" chunkSize CodecSettings.chunk
    fun s chunk => { s with chunk } := ⟨fun _ _ => rfl, fun _ => rfl⟩

theorem owns_outputChunk : codecShape.Owns "output_chunk_size" chunkSize CodecSettings.outputChunk
    fun s outputChunk => { s with outputChunk } := ⟨fun _ _ => rfl, fun _ => rfl⟩

theorem owns_logLevel : loggingShape.Owns "level" text LoggingSettings.level
    fun s level => { s with level } := ⟨fun _ _ => rfl, fun _ => rfl⟩

theorem owns_colored : loggingShape.Owns "colored_output" bool LoggingSettings.colored
    fun s colored => { s with colored } := ⟨fun _ _ => rfl, fun _ => rfl⟩

theorem owns_codecSettings : settingsShape.Owns "codec" (codecShape.read {}) Settings.codec
    fun s codec => { s with codec } := ⟨fun _ _ => rfl, fun _ => rfl⟩

theorem owns_logging : settingsShape.Owns "logging" (loggingShape.read {}) Settings.logging
    fun s logging => { s with logging } := ⟨fun _ _ => rfl, fun _ => rfl⟩

/-- Where a heading is a table or missing, its fields are read from what it has. -/
theorem under_read {s : Shape α} (start : α) (step : Step) (x : Option Setting)
    (hnone : s.takeFields [] s.fields start = .ok start)
    (h : ∀ y, x = some y → ∃ o es, y = .table o es) :
    under step (s.read start) start x =
      (s.takeFields (x.getD .nothing).entries s.fields start).mapError (·.under step) := by
  cases x with
  | none =>
    rw [under, Option.getD_none, show Setting.nothing.entries = [] from rfl, hnone]
    rfl
  | some y =>
    obtain ⟨o, es, rfl⟩ := h y rfl
    rfl

/-- Settings are read key by key. -/
theorem settings_eq {es : Setting.Entries} (h : Setting.Headed es) :
    settings es = settingsOf (Setting.value? es) := by
  have hcodec := under_read (s := codecShape) {} (.key "codec") (es.lookup "codec") rfl (h .format)
  have hlogging :=
    under_read (s := loggingShape) {} (.key "logging") (es.lookup "logging") rfl (h .logLevel)
  have htop : settings es = settingsShape.takeFields es ["codec", "logging"] {} := rfl
  have hfields : codecShape.fields =
      ["default_codec", "level", "chunk_size", "output_chunk_size"] := rfl
  have hfields' : loggingShape.fields = ["level", "colored_output"] := rfl
  rw [htop]
  simp only [owns_codecSettings.takeFields, owns_logging.takeFields, hcodec, hlogging, hfields,
    hfields', owns_codec.takeFields, owns_level.takeFields, owns_chunk.takeFields,
    owns_outputChunk.takeFields, owns_logLevel.takeFields, owns_colored.takeFields,
    Shape.takeFields_nil, mapError_bind, bind_assoc]
  simp only [settingsOf, Key.read, Setting.value?_eq, Key.heading, Key.field]
  rfl

end Decode

open Decode Shape

/-- Each of the settings is what was read for its key, or the one without settings. -/
structure Settings.Reads (s : Settings) (value : Key → Option Setting) : Prop where
  format : Comes text (value .format) ({} : Settings).codec.codec s.codec.codec
  level : Comes Decode.level (value .level) ({} : Settings).codec.level s.codec.level
  chunk : Comes chunkSize (value .chunk) ({} : Settings).codec.chunk s.codec.chunk
  outputChunk : Comes chunkSize (value .outputChunk) ({} : Settings).codec.outputChunk
    s.codec.outputChunk
  logLevel : Comes text (value .logLevel) ({} : Settings).logging.level s.logging.level
  colored : Comes bool (value .colored) ({} : Settings).logging.colored s.logging.colored

section Reading

variable {β : Type} {decode : Decode β} {start b : β} {value : Key → Option Setting}

theorem Key.read_eq_ok {key : Key} :
    key.read decode start value = .ok b ↔ Comes decode (value key) start b := by
  rw [Key.read, mapError_eq_ok]
  cases value key with
  | none => exact ⟨fun h => (Except.ok.inj h).symm, fun h => congrArg Except.ok h.symm⟩
  | some x => exact mapError_eq_ok

theorem Decode.settingsOf_eq_ok {s : Settings} : settingsOf value = .ok s ↔ s.Reads value := by
  constructor
  · intro h
    obtain ⟨codec, hcodec, h⟩ := bind_eq_ok.mp h
    obtain ⟨level, hlevel, h⟩ := bind_eq_ok.mp h
    obtain ⟨chunk, hchunk, h⟩ := bind_eq_ok.mp h
    obtain ⟨outputChunk, houtputChunk, h⟩ := bind_eq_ok.mp h
    obtain ⟨logLevel, hlogLevel, h⟩ := bind_eq_ok.mp h
    obtain ⟨colored, hcolored, h⟩ := bind_eq_ok.mp h
    cases h
    exact ⟨Key.read_eq_ok.mp hcodec, Key.read_eq_ok.mp hlevel, Key.read_eq_ok.mp hchunk,
      Key.read_eq_ok.mp houtputChunk, Key.read_eq_ok.mp hlogLevel, Key.read_eq_ok.mp hcolored⟩
  · intro h
    simp only [settingsOf, Key.read_eq_ok.mpr h.format, Key.read_eq_ok.mpr h.level,
      Key.read_eq_ok.mpr h.chunk, Key.read_eq_ok.mpr h.outputChunk, Key.read_eq_ok.mpr h.logLevel,
      Key.read_eq_ok.mpr h.colored]
    rfl

end Reading

def Settings.at (s : Settings) : Key → Field
  | .format => .text s.codec.codec
  | .level => .text s.codec.level.name
  | .chunk => .size s.codec.chunk.size
  | .outputChunk => .size s.codec.outputChunk.size
  | .logLevel => .text s.logging.level
  | .colored => .flag s.logging.colored

def Key.preset (key : Key) : Setting := .scalar none (({} : Settings).at key).toScalar

/-- To set a key to what it has without settings is as good as not to set it. -/
theorem Key.read_preset {β : Type} {key : Key} {decode : Decode β} {start : β}
    (h : decode key.preset = .ok start) (value : Key → Option Setting) :
    key.read decode start (fun key => (value key).or (some key.preset)) =
      key.read decode start value := by
  rw [Key.read, Key.read]
  cases value key with
  | some x => rfl
  | none =>
    rw [Option.none_or, under, h]
    rfl

theorem Decode.settingsOf_preset (value : Key → Option Setting) :
    settingsOf (fun key => (value key).or (some key.preset)) = settingsOf value := by
  have hformat : text Key.format.preset = .ok ({} : Settings).codec.codec := rfl
  have hlevel : level Key.level.preset = .ok ({} : Settings).codec.level := rfl
  have hchunk : chunkSize Key.chunk.preset = .ok ({} : Settings).codec.chunk := rfl
  have houtputChunk : chunkSize Key.outputChunk.preset = .ok ({} : Settings).codec.outputChunk :=
    rfl
  have hlogLevel : text Key.logLevel.preset = .ok ({} : Settings).logging.level := rfl
  have hcolored : bool Key.colored.preset = .ok ({} : Settings).logging.colored := rfl
  simp only [settingsOf, Key.read_preset hformat, Key.read_preset hlevel, Key.read_preset hchunk,
    Key.read_preset houtputChunk, Key.read_preset hlogLevel, Key.read_preset hcolored]

namespace Layer

variable {w : Surroundings} {separator : String} {l : Layer}

def sets? (w : Surroundings) (separator : String) (key : Key) (l : Layer) : Option Setting :=
  match l.entries w separator with
  | .ok es => lastSome key.setBy? es
  | .error _ => none

/-- The layer can be read, its headings are tables, and its settings are scalars. -/
def suits (w : Surroundings) (separator : String) (l : Layer) : Bool :=
  match l.entries w separator with
  | .ok es => es.all fun e => Key.all.all (·.suits e)
  | .error _ => false

theorem entries_of_suits (h : l.suits w separator = true) :
    ∃ es, l.entries w separator = .ok es ∧ (∀ e ∈ es, ∀ key : Key, key.suits e = true) ∧
      ∀ key, l.sets? w separator key = lastSome key.setBy? es := by
  cases hl : l.entries w separator with
  | error f =>
    rw [suits, hl] at h
    cases h
  | ok es =>
    rw [suits, hl] at h
    refine ⟨es, rfl, ?_, ?_⟩
    · intro e he key
      exact List.all_eq_true.mp (List.all_eq_true.mp h e he) key key.mem_all
    · intro key
      rw [sets?, hl]

theorem entries_missing {path : String} (h : w.files.has path = false) (separator : String) :
    (file path).entries w separator = .ok [] := by
  rw [entries, ofFile, h]
  rfl

/-- The layer of what there is without settings is a good one. -/
theorem suits_defaults (w : Surroundings) (separator : String) :
    defaults.suits w separator = true := by
  rfl

theorem sets_defaults (w : Surroundings) (separator : String) (key : Key) :
    defaults.sets? w separator key = some key.preset := by
  cases key <;> rfl

end Layer

/-- Settings from what there is for each key, if they are fit for use. -/
def Settings.fromKeys (value : Key → Option Setting) : Except Fault Settings := do
  let s ← (settingsOf value).mapError .misfit
  s.check
  return s

theorem Settings.fromKeys_preset (value : Key → Option Setting) :
    fromKeys (fun key => (value key).or (some key.preset)) = fromKeys value := by
  rw [fromKeys, fromKeys, settingsOf_preset]

namespace Plan

variable {w : Surroundings} {separator : String} {layers pre post : List Layer}

/-- What the last layer sets that sets the key. -/
def last? (p : Plan) (w : Surroundings) (key : Key) : Option Setting :=
  lastSome (Layer.sets? w p.separator key) p.layers

/-- Merging goes layer by layer. -/
theorem merged_cons (l : Layer) (layers : List Layer) (acc : Setting.Entries) :
    (l :: layers).foldlM (fun acc l => return Setting.apply acc (← l.entries w separator)) acc =
      l.entries w separator >>= fun es =>
        layers.foldlM (fun acc l => return Setting.apply acc (← l.entries w separator))
          (Setting.apply acc es) := by
  rw [List.foldlM_cons, bind_assoc]
  rfl

/-- From settings that are merged already, layers that suit can be merged, and what they set
comes in front. -/
theorem merged_from (h : ∀ l ∈ layers, l.suits w separator = true) {acc : Setting.Entries}
    (hacc : Setting.Headed acc) :
    ∃ es, layers.foldlM (fun acc l => return Setting.apply acc (← l.entries w separator)) acc =
        .ok es ∧ Setting.Headed es ∧
      ∀ key, Setting.value? es key =
        (lastSome (Layer.sets? w separator key) layers).or (Setting.value? acc key) := by
  induction layers generalizing acc with
  | nil => exact ⟨acc, rfl, hacc, fun _ => rfl⟩
  | cons l layers ih =>
    obtain ⟨hl, hlayers⟩ := List.forall_mem_cons.mp h
    obtain ⟨es, hes, hsuits, hsets⟩ := Layer.entries_of_suits hl
    obtain ⟨es', hes', hheaded, hvalue⟩ := ih hlayers (Setting.headed_apply hsuits hacc)
    refine ⟨es', ?_, hheaded, ?_⟩
    · rw [merged_cons, hes]
      exact hes'
    · intro key
      rw [hvalue, Setting.value?_apply acc fun e he => hsuits e he key, lastSome_cons, hsets,
        Option.or_assoc]

/-- What the layers of a plan come to, key by key: what is checked, and what is built. -/
structure Layered (p : Plan) (w : Surroundings) : Prop where
  merged : ∃ es, p.merged w = .ok es ∧ (∀ key, Setting.value? es key = p.last? w key) ∧
    Decode.settings es = settingsOf (p.last? w)
  reads : ∀ s, settingsOf (p.last? w) = .ok s ↔ s.Reads (p.last? w)
  built : p.build w = Settings.fromKeys (p.last? w)

theorem layered_of_suits (h : ∀ l ∈ layers, l.suits w separator = true) :
    Layered { layers, separator } w := by
  obtain ⟨es, hes, hheaded, hvalue⟩ := merged_from h Setting.headed_nil
  have hlast : Setting.value? es = last? { layers, separator } w := by
    funext key
    exact (hvalue key).trans Option.or_none
  have hsettings : Decode.settings es = settingsOf (last? { layers, separator } w) := by
    rw [Decode.settings_eq hheaded, hlast]
  refine ⟨⟨es, hes, fun key => congrFun hlast key, hsettings⟩, fun s => settingsOf_eq_ok, ?_⟩
  have hmerged : merged { layers, separator } w = .ok es := hes
  rw [build, hmerged, Settings.fromKeys, ← hsettings]
  rfl

/-- The layer of what there is without settings sets every key, and hides what stands before. -/
theorem last?_defaults (w : Surroundings) (separator : String) (pre post : List Layer) :
    last? { layers := pre ++ .defaults :: post, separator } w = fun key =>
      (last? { layers := post, separator } w key).or (some key.preset) := by
  funext key
  rw [last?, lastSome_append, lastSome_cons, Layer.sets_defaults, Option.or_assoc, Option.some_or]
  rfl

/-- What stands before that layer is without effect, and so is the layer itself. -/
theorem build_defaults (hpre : ∀ l ∈ pre, l.suits w separator = true)
    (hpost : ∀ l ∈ post, l.suits w separator = true) :
    build { layers := pre ++ .defaults :: post, separator } w =
      build { layers := post, separator } w := by
  have hall : ∀ l ∈ pre ++ .defaults :: post, l.suits w separator = true :=
    List.forall_mem_append.mpr
      ⟨hpre, List.forall_mem_cons.mpr ⟨Layer.suits_defaults w separator, hpost⟩⟩
  rw [(layered_of_suits hall).built, (layered_of_suits hpost).built, last?_defaults,
    Settings.fromKeys_preset]

theorem build_missing {path : String} (h : w.files.has path = false) (separator : String)
    (pre post : List Layer) :
    build { layers := pre ++ .file path :: post, separator } w =
      build { layers := pre ++ post, separator } w := by
  have hmerged : merged { layers := pre ++ .file path :: post, separator } w =
      merged { layers := pre ++ post, separator } w := by
    rw [merged, merged, List.foldlM_append, List.foldlM_append]
    refine congrArg _ (funext fun acc => ?_)
    rw [merged_cons, Layer.entries_missing h]
    rfl
  rw [build, build, hmerged]

end Plan

/-- Layered settings in some surroundings: each key has what the last layer sets that sets it. The
consequences are about layers that have no say. -/
structure Layering (w : Surroundings) (separator : String) : Prop where
  law : ∀ layers : List Layer, (∀ l ∈ layers, l.suits w separator = true) →
    Plan.Layered { layers, separator } w
  shadowed : ∀ pre post : List Layer, (∀ l ∈ pre, l.suits w separator = true) →
    (∀ l ∈ post, l.suits w separator = true) →
    Plan.build { layers := pre ++ [.defaults] ++ post, separator } w =
      Plan.build { layers := post, separator } w
  leading : ∀ layers : List Layer, (∀ l ∈ layers, l.suits w separator = true) →
    Plan.build { layers := .defaults :: layers, separator } w =
      Plan.build { layers, separator } w
  missing : ∀ (pre post : List Layer) (path : String), w.files.has path = false →
    Plan.build { layers := pre ++ [.file path] ++ post, separator } w =
      Plan.build { layers := pre ++ post, separator } w
  loaded : ∀ paths : List String,
    let layers := [.defaults] ++ paths.map .file ++ [.environment "DECOCO"]
    (∀ l ∈ layers, l.suits w "__" = true) →
      Settings.loadAll w paths = Settings.fromKeys (Plan.last? { layers } w)

/-- The last layer that sets a key has the last word on it. -/
theorem Plan.build_layered (w : Surroundings) (separator : String) : Layering w separator where
  law := fun _ h => layered_of_suits h
  shadowed := by
    intro pre post hpre hpost
    rw [List.append_assoc]
    exact build_defaults hpre hpost
  leading := fun _ h => build_defaults (List.forall_mem_nil _) h
  missing := by
    intro pre post path h
    rw [List.append_assoc]
    exact build_missing h separator pre post
  loaded := fun _ h => (layered_of_suits h).built

/-- Variables that name no format and no chunk size, below the layer that hides them. Above it, a
file sets what variables override in part. -/
theorem Plan.build_layered_file :
    let w : Surroundings := {
      files :=
        { entries := [(["own.toml"], .file "[codec]\nlevel = \"small\"\nchunk_size = 1024\n")] }
      environment := [("old__codec__default_codec", "snappy"), ("old__codec__chunk_size", "0"),
        ("new__codec__level", "fast")] }
    let pre : List Layer := [.environment "old"]
    let post : List Layer := [.file "own.toml", .file "none.yaml", .environment "new"]
    (∀ l ∈ pre, l.suits w "__" = true) ∧ (∀ l ∈ post, l.suits w "__" = true) ∧
      (Plan.build { layers := pre } w).toOption = none ∧
      Plan.build { layers := pre ++ [.defaults] ++ post } w = Plan.build { layers := post } w ∧
      ∃ s, Plan.build { layers := post } w = .ok s ∧ s.Reads (Plan.last? { layers := post } w) ∧
        s.codec.level = .fast ∧ s.codec.chunk.size = 1024 ∧ s.codec.codec = "zstd" := by
  intro w pre post
  have hpre : ∀ l ∈ pre, l.suits w "__" = true := by decide +kernel
  have hpost : ∀ l ∈ post, l.suits w "__" = true := by decide +kernel
  have hfails : (Plan.build { layers := pre } w).toOption = none := by decide +kernel
  have hbuilt : (Plan.build { layers := post } w).toOption.map
      (fun s => (s.codec.level, s.codec.chunk.size, s.codec.codec)) =
        some (.fast, 1024, "zstd") := by
    decide +kernel
  obtain ⟨s, hs, hfields⟩ := Option.map_eq_some_iff.mp hbuilt
  have hs : Plan.build { layers := post } w = .ok s := eq_ok_of_toOption hs
  have hlayering := Plan.build_layered w "__"
  have hreads : s.Reads (Plan.last? { layers := post } w) := by
    obtain ⟨⟨es, hes, -, hsettings⟩, hreads, -⟩ := hlayering.law post hpost
    obtain ⟨es', hes', hs', -⟩ := Plan.build_eq_ok.mp hs
    cases hes.symm.trans hes'
    exact (hreads s).mp (hsettings.symm.trans hs')
  simp only [Prod.mk.injEq] at hfields
  obtain ⟨hlevel, hchunk, hcodec⟩ := hfields
  exact ⟨hpre, hpost, hfails, hlayering.shadowed pre post hpre hpost, s, hs, hreads, hlevel, hchunk,
    hcodec⟩

end StreamCodec.Config
