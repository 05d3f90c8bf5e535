import Mathlib.Tactic.SplitIfs
import StreamCodec.Files.Tree

/-!
A file that is written is there afterwards. Its place was no folder before, so the folders on the
way to it are as they were, and the way leads to the same place.
-/

namespace StreamCodec.Files

theorem split_ne_nil (cs : List Char) : split cs ≠ [] := by
  cases cs with
  | nil => exact List.cons_ne_nil _ _
  | cons c r =>
    rw [split]
    split
    · exact List.cons_ne_nil _ _
    · cases split r with
      | nil => exact List.cons_ne_nil _ _
      | cons w ws => exact List.cons_ne_nil _ _

namespace Location

/-- The parts of a path are those of its folder and the last one. -/
theorem parts_eq (path : String) :
    parts path = (parts path).dropLast ++ [(parts path).getLastD ""] := by
  have hne : parts path ≠ [] := fun h => split_ne_nil _ (List.map_eq_nil_iff.mp h)
  rw [List.getLastD_eq_getLast?, List.getLast?_eq_some_getLast hne, Option.getD_some,
    List.dropLast_concat_getLast]

end Location

namespace Tree

variable {t t' : Tree} {place here folder : List String} {path text : String} {n : Node}

theorem at?_put_self (t : Tree) (place : List String) (n : Node) :
    (t.put place n).at? place = some n := by
  rw [at?, put, List.lookup_cons_self]

/-- Folders stay folders, whatever is put where none is. -/
theorem at?_put_folder (hplace : t.at? place ≠ some .folder) (h : t.at? here = some .folder)
    (n : Node) :
    (t.put place n).at? here = some .folder := by
  have hne : (here == place) = false := by
    rw [beq_eq_false_iff_ne]
    rintro rfl
    exact hplace h
  -- The new entry is found at its own place only, and no way down is lost.
  rw [at?, put, List.lookup_cons, hne]
  rw [at?] at h
  cases hlookup : t.entries.lookup here with
  | some n' =>
    rw [hlookup] at h
    exact h
  | none =>
    rw [hlookup] at h
    simp only at h ⊢
    split at h
    · next hway =>
      rw [if_pos]
      rw [Bool.or_eq_true] at hway ⊢
      exact hway.imp_right fun hany => by rw [List.any_cons, hany, Bool.or_true]
    · cases h

def next (here : List String) (p : String) : List String :=
  if Location.isIdle p then here else if p = ".." then here.dropLast else here ++ [p]

/-- Each step of a walk starts in a folder. -/
theorem walk_cons {p : String} {ps : List String} : t.walk here (p :: ps) = .ok place ↔
    t.at? here = some .folder ∧ t.walk (next here p) ps = .ok place := by
  rw [walk]
  cases t.at? here with
  | none => exact ⟨nofun, fun h => nomatch h.1⟩
  | some n =>
    cases n with
    | file text => exact ⟨nofun, fun h => nomatch h.1⟩
    | folder =>
      have hnext : (if Location.isIdle p = true then t.walk here ps
          else if p = ".." then t.walk here.dropLast ps else t.walk (here ++ [p]) ps) =
            t.walk (next here p) ps := by
        rw [next]
        split_ifs <;> rfl
      rw [← hnext]
      exact ⟨fun h => ⟨rfl, h⟩, fun h => h.2⟩

/-- A walk goes the same way in a tree that has the same folders and more. -/
theorem walk_of_folders (hfolders : ∀ here, t.at? here = some .folder → t'.at? here = some .folder)
    {ps : List String} (h : t.walk here ps = .ok place) : t'.walk here ps = .ok place := by
  induction ps generalizing here with
  | nil => exact h
  | cons p ps ih =>
    obtain ⟨hfolder, hrest⟩ := walk_cons.mp h
    exact walk_cons.mpr ⟨hfolders here hfolder, ih hrest⟩

/-- From a folder a name leads to what is in it. -/
theorem walk_last {last : String} (hidle : Location.isIdle last = false) (hup : last ≠ "..")
    {ps : List String} (h : t.walk here (ps ++ ["."]) = .ok folder) :
    t.walk here (ps ++ [last]) = .ok (folder ++ [last]) := by
  induction ps generalizing here with
  | nil =>
    obtain ⟨hfolder, hend⟩ := walk_cons.mp h
    cases hend
    refine walk_cons.mpr ⟨hfolder, ?_⟩
    rw [next, hidle, if_neg Bool.false_ne_true, if_neg hup]
    rfl
  | cons p ps ih =>
    obtain ⟨hfolder, hrest⟩ := walk_cons.mp h
    exact walk_cons.mpr ⟨hfolder, ih hrest⟩

def placeIn (t : Tree) (folder : List String) (last : String) : Except Refusal (List String) :=
  if Location.isIdle last || last = ".." then .error .isFolder
  else
    match t.at? (folder ++ [last]) with
    | some .folder => .error .isFolder
    | _ => .ok (folder ++ [last])

theorem room_eq (h : path.isEmpty = false) : t.room path =
    t.walk [] ((Location.parts path).dropLast ++ ["."]) >>= fun folder =>
      t.placeIn folder ((Location.parts path).getLastD "") := by
  rw [room, h]
  rfl

theorem placeIn_eq_ok {last : String} (h : t.placeIn folder last = .ok place) :
    Location.isIdle last = false ∧ last ≠ ".." ∧ t.at? place ≠ some .folder ∧
      place = folder ++ [last] := by
  rw [placeIn] at h
  split at h
  · cases h
  · next hlast =>
    rw [Bool.not_eq_true, Bool.or_eq_false_iff] at hlast
    split at h
    · cases h
    · next hfolder =>
      cases h
      exact ⟨hlast.1, of_decide_eq_false hlast.2, hfolder, rfl⟩

/-- The room for a file is at the end of its path, and no folder is there. -/
theorem room_eq_ok (h : t.room path = .ok place) :
    path.isEmpty = false ∧ t.at? place ≠ some .folder ∧
      t.walk [] (Location.parts path) = .ok place := by
  cases hpath : path.isEmpty with
  | true =>
    rw [room, hpath] at h
    cases h
  | false =>
    rw [room_eq hpath] at h
    cases hwalk : t.walk [] ((Location.parts path).dropLast ++ ["."]) with
    | error r =>
      rw [hwalk] at h
      cases h
    | ok folder =>
      rw [hwalk] at h
      obtain ⟨hidle, hup, hplace, rfl⟩ := placeIn_eq_ok h
      have hall := walk_last hidle hup hwalk
      rw [← Location.parts_eq] at hall
      exact ⟨rfl, hplace, hall⟩

theorem node?_put (h : t.room path = .ok place) (n : Node) :
    (t.put place n).node? path = some n := by
  obtain ⟨hpath, hplace, hwalk⟩ := room_eq_ok h
  have hsame := walk_of_folders (fun _ hfolder => at?_put_folder hplace hfolder n) hwalk
  rw [node?, hpath, if_neg Bool.false_ne_true, hsame]
  exact at?_put_self t place n

theorem read?_put (h : t.room path = .ok place) (text : String) :
    (t.put place (.file text)).read? path = some text := by
  rw [read?, node?_put h]

theorem has_of_read? (h : t.read? path = some text) : t.has path = true := by
  rw [read?] at h
  rw [has]
  cases hnode : t.node? path with
  | none =>
    rw [hnode] at h
    cases h
  | some n => rfl

end Tree

end StreamCodec.Files
