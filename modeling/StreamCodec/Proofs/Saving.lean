import StreamCodec.Proofs.Documents.Json
import StreamCodec.Proofs.Documents.Toml
import StreamCodec.Proofs.Documents.Yaml
import StreamCodec.Proofs.Layering
import StreamCodec.Proofs.Storing

/-!
Settings that are saved are loaded as they were. Every format gives back the table that was written
in it, a file that was written is found again, and the table sets every key; so nothing is left to
what holds without settings.
-/

namespace StreamCodec.Config

variable {s : Settings} {w w' : Surroundings} {path : String}

theorem Settings.tidy (h : s.check = .ok ()) : Tidy s.sections := by
  obtain ⟨⟨c, hc⟩, hlevel⟩ := Settings.check_eq_ok.mp h
  exact Settings.tidy_sections (hc ▸ word_codec c) (word_logLevel _ hlevel)

/-- What is written in a format is read in it. -/
theorem Format.parse_write (h : s.check = .ok ()) (f : Format) :
    f.parse? (f.write s) = some s.toValue := by
  have htidy := Settings.tidy h
  rw [Settings.toValue_eq]
  cases f with
  | yaml => rw [parse?, write, Yaml.parse_write htidy]
  | toml => rw [parse?, write, Toml.parse_write htidy]
  | json => rw [parse?, write, Settings.toValue_eq, Json.parse_pretty htidy]

theorem Format.ofPath_eq (path : String) : ofPath path =
    if Files.Location.extension? path = some "toml" then .toml
    else if Files.Location.extension? path = some "json" then .json
    else .yaml := by
  rw [ofPath]
  split
  · next htoml => rw [if_pos htoml]
  · next hjson => rw [if_neg (by rw [hjson]; decide), if_pos hjson]
  · next htoml hjson => rw [if_neg htoml, if_neg hjson]

/-- The format of a file is the same for reading and writing. -/
theorem Settings.written_eq (s : Settings) (path : String) :
    s.written path = (Format.ofPath path).write s := by
  rw [Settings.written, Format.ofPath_eq]
  split
  · next htoml => rw [if_pos htoml]
  · next hjson => rw [if_neg (by rw [hjson]; decide), if_pos hjson]
  · next htoml hjson => rw [if_neg htoml, if_neg hjson]

/-- No document that is written starts with the mark of an encoding. -/
theorem Format.exists_cons_write (f : Format) (s : Settings) :
    ∃ c r, (f.write s).toList = c :: r ∧ c.toNat ≠ 0xfeff := by
  cases f with
  | yaml =>
    simp only [write, Yaml.write, Settings.sections, List.map_cons, String.toList_join,
      List.flatMap_cons, Yaml.writeSection, String.toList_append]
    exact ⟨'c', _, rfl, by decide⟩
  | toml =>
    simp only [write, Toml.write, Settings.sections, List.map_cons, List.map_nil,
      String.toList_intercalate, List.intercalate_cons_cons, Toml.writeSection,
        String.toList_append]
    exact ⟨'[', _, rfl, by decide⟩
  | json =>
    rw [write, Settings.toValue_eq, sectionTable, Settings.sections, List.map_cons, Json.pretty,
      Json.prettyAt, String.toList_append, String.toList_append, String.toList_append]
    · exact ⟨'\x7b', _, rfl, by decide⟩
    · exact List.cons_ne_nil _ _

theorem dropMark_write (f : Format) (s : Settings) : dropMark (f.write s) = f.write s := by
  obtain ⟨c, r, htext, hc⟩ := f.exists_cons_write s
  rw [dropMark, htext]
  exact if_neg hc

section Layers

theorem ofEntries_sections (origin : Origin) (s : Settings) :
    Setting.ofEntries origin (sectionTable s.sections) =
      [("codec", .table origin [
          ("default_codec", .scalar origin (s.at .format).toScalar),
          ("level", .scalar origin (s.at .level).toScalar),
          ("chunk_size", .scalar origin (s.at .chunk).toScalar),
          ("output_chunk_size", .scalar origin (s.at .outputChunk).toScalar)]),
        ("logging", .table origin [
          ("level", .scalar origin (s.at .logLevel).toScalar),
          ("colored_output", .scalar origin (s.at .colored).toScalar)])] := by
  rfl

theorem path_codec : Path.ofText "codec" = { top := "codec" } := rfl

theorem path_logging : Path.ofText "logging" = { top := "logging" } := rfl

/-- The tables of a file with saved settings stand under their headings, with scalars in them. -/
theorem suits_sections (origin : Origin) (s : Settings) :
    ∀ e ∈ Setting.ofEntries origin (sectionTable s.sections), ∀ key : Key, key.suits e = true := by
  rw [ofEntries_sections]
  simp only [List.forall_mem_cons, Key.suits, path_codec, path_logging]
  refine ⟨fun key => ?_, fun key => ?_, List.forall_mem_nil _⟩
  · cases key <;> simp [Setting.suitsAlong, Setting.isScalar, Key.heading, Key.field]
  · cases key <;> simp [Setting.suitsAlong, Setting.isScalar, Key.heading, Key.field]

/-- And every key is in them. -/
theorem last_sections (origin : Origin) (s : Settings) (key : Key) :
    lastSome key.setBy? (Setting.ofEntries origin (sectionTable s.sections)) =
      some (.scalar origin (s.at key).toScalar) := by
  rw [ofEntries_sections, lastSome_cons, lastSome_cons, lastSome_nil, Option.none_or, Key.setBy?,
    Key.setBy?, path_codec, path_logging]
  cases key <;> simp [Setting.setAlong?, Setting.last?, Setting.entries, lastSome_cons, Key.heading,
    Key.field]

/-- Variables that are not the program's set nothing. -/
theorem settings_nil {vs : Variables} {program separator : String}
    (h : ∀ v ∈ vs, Variables.path? program separator v.1 = none) :
    vs.settings program separator = [] := by
  rw [Variables.settings, List.filterMap_eq_nil_iff]
  rintro ⟨name, text⟩ hv
  simp only [h _ hv, Option.map_none]

theorem chunkSize_size (origin : Origin) (c : ChunkSize) :
    Decode.chunkSize (.scalar origin (.int c.size)) = .ok c := by
  have hword : Decode.word (.scalar origin (.int c.size)) = .ok c.size := by
    rw [Decode.word, if_pos (Int.natCast_nonneg c.size), Int.toNat_natCast]
  rw [Decode.chunkSize, hword]
  simp only [bind, Except.bind, ChunkSize.ofNat_size]
  rfl

/-- Settings are read from what they were written as. -/
theorem Settings.reads_at (origin : Origin) (s : Settings) :
    s.Reads fun key => some (.scalar origin (s.at key).toScalar) where
  format := rfl
  level := by
    show Decode.levelNamed s.codec.level.name = .ok s.codec.level
    cases s.codec.level <;> rfl
  chunk := chunkSize_size origin s.codec.chunk
  outputChunk := chunkSize_size origin s.codec.outputChunk
  logLevel := rfl
  colored := rfl

theorem Layer.suits_of_entries {l : Layer} {separator : String} {es : Setting.Entries}
    (h : l.entries w separator = .ok es) (hsuits : ∀ e ∈ es, ∀ key : Key, key.suits e = true) :
    l.suits w separator = true := by
  rw [suits, h]
  exact List.all_eq_true.mpr fun e he => List.all_eq_true.mpr fun key _ => hsuits e he key

theorem Layer.sets_of_entries {l : Layer} {separator : String} {es : Setting.Entries}
    (h : l.entries w separator = .ok es) (key : Key) :
    l.sets? w separator key = lastSome key.setBy? es := by
  rw [sets?, h]

/-- A file with saved settings is read as their table. -/
theorem Layer.entries_saved (hs : s.check = .ok ())
    (hread : w.files.read? path = some (s.written path))
    (separator : String) : (Layer.file path).entries w separator =
      .ok (Setting.ofEntries (some (Files.Location.plain path)) (sectionTable s.sections)) := by
  have hhas := Files.Tree.has_of_read? hread
  have hsource : w.source? path = some (Files.Location.plain path, s.written path) := by
    simp only [Surroundings.source?, hread]
  have hparse : (Format.ofPath path).parse? (dropMark (s.written path)) =
      some (.table (sectionTable s.sections)) := by
    rw [Settings.written_eq, dropMark_write, Format.parse_write hs, Settings.toValue_eq]
  rw [Layer.entries, Layer.ofFile, hhas]
  simp only [hsource, hparse]
  rfl

end Layers

/-- No variable has the name of the program and the separator in front, in capitals or not. -/
def Surroundings.Foreign (w : Surroundings) : Prop :=
  ∀ v ∈ w.environment, ¬ "decoco__".toList <+: (Lowercase.text v.1).toList

theorem Layer.entries_foreign (h : w.Foreign) :
    (Layer.environment "DECOCO").entries w "__" = .ok [] := by
  have hfront : (Lowercase.text ("DECOCO" ++ "__")).toList = "decoco__".toList := by decide +kernel
  have hnone : ∀ v ∈ w.environment, Variables.path? "DECOCO" "__" v.1 = none := by
    intro v hv
    have hprefix : "decoco__".toList.isPrefixOf (Lowercase.text v.1).toList = false := by
      rw [← Bool.not_eq_true, List.isPrefixOf_iff_prefix]
      exact h v hv
    simp only [Variables.path?, hfront, hprefix]
    rfl
  rw [Layer.entries, settings_nil hnone]
  rfl

/-- A file with saved settings is loaded as what they were. -/
theorem Settings.load_of_read? (hs : s.check = .ok ()) (hforeign : w.Foreign)
    (hread : w.files.read? path = some (s.written path)) : Settings.load w path = .ok s := by
  have hfile := Layer.entries_saved hs hread "__"
  have hvariables := Layer.entries_foreign hforeign
  have hsuits : ∀ l ∈ [.defaults, .file path, Settings.overrides], l.suits w "__" = true := by
    simp only [List.forall_mem_cons]
    exact ⟨Layer.suits_defaults w "__", Layer.suits_of_entries hfile (suits_sections _ s),
      Layer.suits_of_entries hvariables (List.forall_mem_nil _), List.forall_mem_nil _⟩
  have hlast : Plan.last? { layers := [.defaults, .file path, Settings.overrides] } w = fun key =>
      some (.scalar (some (Files.Location.plain path)) (s.at key).toScalar) := by
    funext key
    rw [Plan.last?, lastSome_cons, lastSome_cons, lastSome_cons, lastSome_nil, Option.none_or,
      Settings.overrides, Layer.sets_of_entries hvariables, Layer.sets_of_entries hfile,
        last_sections]
    rfl
  have hbuilt := (Plan.layered_of_suits hsuits).built
  have hreads := Decode.settingsOf_eq_ok.mpr
    (Settings.reads_at (some (Files.Location.plain path)) s)
  rw [hlast, Settings.fromKeys, hreads] at hbuilt
  rw [Settings.load, Files.Tree.has_of_read? hread, if_pos rfl, Settings.loadAll]
  refine hbuilt.trans ?_
  show (s.check >>= fun _ => .ok s) = .ok s
  rw [hs]
  rfl

/-- What is kept of settings that are saved: every format gives back what was written in it, the
extension of a file tells one format for saving and loading, and what was saved, wherever there is
room for it, is loaded as it was, also in other surroundings that have the file. -/
structure Settings.Kept (s : Settings) (w : Surroundings) (path : String) : Prop where
  formats : ∀ f : Format, f.parse? (f.write s) = some s.toValue
  format : Format.ofPath path =
    if Files.Location.extension? path = some "toml" then .toml
    else if Files.Location.extension? path = some "json" then .json
    else .yaml
  written : s.written path = (Format.ofPath path).write s
  saved : (∃ w', s.save w path = .ok w') ↔ ∃ place, w.files.room path = .ok place
  stored : ∀ w', s.save w path = .ok w' →
    w'.environment = w.environment ∧ w'.files.read? path = some (s.written path)
  loaded : ∀ w', s.save w path = .ok w' → Settings.load w' path = .ok s
  elsewhere : ∀ v : Surroundings, v.Foreign → v.files.read? path = some (s.written path) →
    Settings.load v path = .ok s

theorem Settings.save_eq_ok : s.save w path = .ok w' ↔ ∃ place, w.files.room path = .ok place ∧
    w' = { w with files := w.files.put place (.file (s.written path)) } := by
  rw [Settings.save, Files.Tree.write]
  cases w.files.room path with
  | error r => exact ⟨nofun, nofun⟩
  | ok place =>
    constructor
    · intro h
      exact ⟨place, rfl, (Except.ok.inj h).symm⟩
    · rintro ⟨place, ⟨⟩, rfl⟩
      rfl

/-- Settings that are fit for use are kept in files, where no variable of the program has a say. -/
theorem Settings.load_save (hs : s.check = .ok ()) (hforeign : w.Foreign) (path : String) :
    s.Kept w path where
  formats := Format.parse_write hs
  format := Format.ofPath_eq path
  written := s.written_eq path
  saved := by
    constructor
    · rintro ⟨w', hsave⟩
      obtain ⟨place, hroom, -⟩ := Settings.save_eq_ok.mp hsave
      exact ⟨place, hroom⟩
    · rintro ⟨place, hroom⟩
      exact ⟨_, Settings.save_eq_ok.mpr ⟨place, hroom, rfl⟩⟩
  stored := by
    intro w' hsave
    obtain ⟨place, hroom, rfl⟩ := Settings.save_eq_ok.mp hsave
    exact ⟨rfl, Files.Tree.read?_put hroom _⟩
  loaded := by
    intro w' hsave
    obtain ⟨place, hroom, rfl⟩ := Settings.save_eq_ok.mp hsave
    exact Settings.load_of_read? hs hforeign (Files.Tree.read?_put hroom _)
  elsewhere := fun v hv hread => Settings.load_of_read? hs hv hread

/-- Settings that differ from those that hold without settings, in each of the formats. -/
theorem Settings.load_save_formats :
    let s : Settings := {
      codec := {
        codec := "gzip", level := .small, chunk := { size := 1 },
        outputChunk := { size := 67108864 } }
      logging := { level := "warn", colored := false } }
    let w : Surroundings := { environment := [("HOME", "/root"), ("decoco_level", "fast")] }
    s.check = .ok () ∧ w.Foreign ∧
      ((s.save w "own.toml").bind fun w' => Settings.load w' "own.toml") = .ok s ∧
      ((s.save w "./own.json").bind fun w' => Settings.load w' "./own.json") = .ok s ∧
      ((s.save w "own").bind fun w' => Settings.load w' "own") = .ok s := by
  intro s w
  have hs : s.check = .ok () := rfl
  have hforeign : w.Foreign := by
    unfold Surroundings.Foreign
    decide +kernel
  have hall (path : String) (place : List String) (hroom : w.files.room path = .ok place) :
      ((s.save w path).bind fun w' => Settings.load w' path) = .ok s := by
    have hkept := Settings.load_save hs hforeign path
    obtain ⟨w', hsave⟩ := hkept.saved.mpr ⟨place, hroom⟩
    rw [hsave]
    exact hkept.loaded w' hsave
  exact ⟨hs, hforeign, hall _ ["own.toml"] rfl, hall _ ["own.json"] rfl, hall _ ["own"] rfl⟩

end StreamCodec.Config
