import Mathlib.Data.List.TakeWhile
import StreamCodec.Proofs.Documents.Tidy
import StreamCodec.Yaml.Document

/-!
YAML that is written is read back. The lines that are written start with a word, so none of them is
empty, a mark or a comment; a table goes on as long as its lines stand at one column, and the lines
of an inner table stand further in.
-/

namespace StreamCodec.Yaml

open Config (Field Section Tidied Tidy Value Word Solid isWordChar ne_of_isWordChar
  isWordChar_of_isDigit fieldTable sectionTable takeWhile_span dropWhile_span isDigit_of_mem
  solid_toDigits toDigits_eq_zero_cons foldl_toDigits signed_toDigits)

section Lines

variable {cs cs' l rest : List Char} {ls ls' : List Line}

theorem unify_line (hl : '\r' ∉ l) (rest : List Char) :
    Line.unify (l ++ '\n' :: rest) = l ++ '\n' :: Line.unify rest := by
  induction l with
  | nil => rfl
  | cons c l ih =>
    rw [List.mem_cons, not_or] at hl
    rw [List.cons_append, Line.unify, ih hl.2]
    · rfl
    · exact fun _ h _ => hl.1 h.symm
    · exact fun h => hl.1 h.symm

theorem split_line (hl : '\n' ∉ l) (rest : List Char) :
    Line.split (l ++ '\n' :: rest) = l :: Line.split rest := by
  induction l with
  | nil => rfl
  | cons c l ih =>
    rw [List.mem_cons, not_or] at hl
    rw [List.cons_append, Line.split, ih hl.2]
    exact fun h => hl.1 h.symm

theorem ofChars_indented (column : Nat) (h : Solid cs) :
    Line.ofChars (List.replicate column ' ' ++ cs) = ⟨column, cs⟩ := by
  have hblanks : ∀ c ∈ List.replicate column ' ', decide (c = ' ') = true := fun c hc =>
    decide_eq_true (List.eq_of_mem_replicate hc)
  have hstop : ∀ c ∈ cs.head?, decide (c = ' ') = false := by
    obtain ⟨c, r, rfl, hc⟩ := h
    rintro d ⟨⟩
    exact decide_eq_false (ne_of_isWordChar hc (by decide))
  rw [Line.ofChars, takeWhile_span hblanks hstop, dropWhile_span hblanks hstop,
    List.length_replicate]

/-- Text that makes some lines, whatever follows. -/
def Lines (cs : List Char) (ls : List Line) : Prop :=
  ls.length ≤ cs.length ∧
    ∀ rest, Line.ofText (Line.unify (cs ++ rest)) = ls ++ Line.ofText (Line.unify rest)

theorem Lines.append (h : Lines cs ls) (h' : Lines cs' ls') : Lines (cs ++ cs') (ls ++ ls') := by
  obtain ⟨hle, hlines⟩ := h
  obtain ⟨hle', hlines'⟩ := h'
  refine ⟨?_, fun rest => ?_⟩
  · rw [List.length_append, List.length_append]
    omega
  · rw [List.append_assoc, hlines, hlines', List.append_assoc]

theorem lines_nil : Lines [] [] := ⟨Nat.le_refl _, fun _ => rfl⟩

/-- One line, with its end. -/
theorem lines_line (column : Nat) (h : Solid cs) (hreturn : '\r' ∉ cs) (hend : '\n' ∉ cs) :
    Lines (List.replicate column ' ' ++ cs ++ ['\n']) [⟨column, cs⟩] := by
  have hnot (c : Char) (hblank : c ≠ ' ') (hc : c ∉ cs) : c ∉ List.replicate column ' ' ++ cs := by
    rw [List.mem_append, not_or]
    exact ⟨fun hmem => hblank (List.eq_of_mem_replicate hmem), hc⟩
  refine ⟨?_, fun rest => ?_⟩
  · rw [List.length_append]
    exact Nat.le_add_left _ _
  · rw [List.append_assoc, List.singleton_append, unify_line (hnot _ (by decide) hreturn),
      Line.ofText,
      split_line (hnot _ (by decide) hend), List.map_cons, ofChars_indented column h]
    rfl

end Lines

section Plain

variable {cs l r : List Char}

structure Bare (cs : List Char) : Prop where
  solid : Solid cs
  chars : ∀ c ∈ cs, isWordChar c = true

theorem Bare.not_mem (h : Bare cs) {c : Char} (hc : isWordChar c = false) : c ∉ cs := fun hmem => by
  cases (h.chars c hmem).symm.trans hc

theorem bare_word {s : String} (h : Word s) : Bare s.toList := ⟨h.solid, h.mem_chars⟩

theorem bare_toDigits (n : Nat) : Bare (Nat.toDigits 10 n) :=
  ⟨solid_toDigits n, fun c hc => isWordChar_of_isDigit (isDigit_of_mem n c hc)⟩

theorem isBlank_of_isWordChar {c : Char} (hc : isWordChar c = true) : Line.isBlank c = false := by
  rw [Line.isBlank, Bool.or_eq_false_iff]
  exact ⟨decide_eq_false (ne_of_isWordChar hc (by decide)),
    decide_eq_false (ne_of_isWordChar hc (by decide))⟩

theorem isSpace_of_isWordChar {c : Char} (hc : isWordChar c = true) : isSpace c = false := by
  rw [isSpace, isBlank_of_isWordChar hc, Bool.false_or]
  exact decide_eq_false (ne_of_isWordChar hc (by decide))

theorem isVoid_solid (h : Solid cs) : Line.isVoid cs = false := by
  have hdrop : Line.dropBlanks cs = cs := h.dropWhile fun _ => isBlank_of_isWordChar
  obtain ⟨c, r, rfl, hc⟩ := h
  rw [Line.isVoid, hdrop]
  exact decide_eq_false (ne_of_isWordChar hc (by decide))

/-- No word starts with a mark. -/
theorem behind_solid (h : Solid cs) (mark : Char) (hmark : isWordChar mark = false) :
    behind? mark cs = none := by
  obtain ⟨c, r, rfl, hc⟩ := h
  rw [behind?, decide_eq_false (ne_of_isWordChar hc hmark), Bool.false_and,
    if_neg Bool.false_ne_true]

theorem startsPlain_solid (h : Solid cs) : startsPlain false cs = true := by
  obtain ⟨c, r, rfl, hc⟩ := h
  have hne (d : Char) (hd : isWordChar d = false) : decide (c = d) = false :=
    decide_eq_false (ne_of_isWordChar hc hd)
  have hindicator : isIndicator c = false := by
    rw [isIndicator, List.contains_eq_mem, decide_eq_false_iff_not]
    have hmarks :
        (",[]\x7b\x7d#&*!|>'\"%@\x60".toList.all fun d => !isWordChar d) = true := by decide
    intro hmem
    have hmark := List.all_eq_true.mp hmarks c hmem
    rw [hc] at hmark
    cases hmark
  rw [startsPlain, hne _ (by decide), hne _ (by decide), hne _ (by decide), hindicator,
    isSpace_of_isWordChar hc]
  rfl

/-- A line without quotes goes on to its end, or to a colon that ends a key. -/
theorem plainLine_chars (hl : ∀ c ∈ l, isWordChar c = true) (acc r : List Char) :
    plainLine false acc (l ++ r) = plainLine false (l.reverse ++ acc) r := by
  induction l generalizing acc with
  | nil => rfl
  | cons c l ih =>
    obtain ⟨hc, hl⟩ := List.forall_mem_cons.mp hl
    have hcolon : c ≠ ':' := ne_of_isWordChar hc (by decide)
    have hcomment : c ≠ '#' := ne_of_isWordChar hc (by decide)
    rw [List.cons_append, plainLine, if_neg (ne_of_isWordChar hc (by decide)),
      if_neg fun h => hcolon h.1, if_neg fun h => hcomment h.1, Bool.false_and,
      if_neg Bool.false_ne_true, ih hl, List.reverse_cons, List.append_assoc, List.singleton_append]

theorem plainLine_bare (h : Bare cs) : plainLine false [] cs = (cs.reverse, []) := by
  have hline := plainLine_chars h.chars [] []
  rwa [List.append_nil, List.append_nil] at hline

theorem plainLine_key (h : Bare cs) (hr : endsMark false r = true) :
    plainLine false [] (cs ++ ':' :: r) = (cs.reverse, ':' :: r) := by
  rw [plainLine_chars h.chars, List.append_nil, plainLine, if_neg (by decide), if_pos ⟨rfl, hr⟩]

theorem trim_bare (h : Bare cs) : trim cs.reverse = cs.reverse := by
  have hlast : Solid cs.reverse := by
    obtain ⟨c, r, hr, -⟩ := h.solid
    obtain ⟨d, l, hl⟩ := List.exists_cons_of_ne_nil (l := cs.reverse) (by simp [hr])
    refine ⟨d, l, hl, h.chars d (List.mem_reverse.mp ?_)⟩
    rw [hl]
    exact List.mem_cons_self
  exact hlast.dropWhile fun _ => isBlank_of_isWordChar

/-- A key and what follows its colon; text without a colon is no key. -/
theorem key_solid (h : Solid cs) : key? cs =
    (behind? ':' (Line.dropBlanks (plainLine false [] cs).2)).map fun r =>
      (.plain (String.ofList (trim (plainLine false [] cs).1).reverse), r) := by
  have hstart := startsPlain_solid h
  unfold key?
  split
  · exact absurd rfl (h.ne_cons (d := '"') rfl _)
  · exact absurd rfl (h.ne_cons (d := '\'') rfl _)
  · exact absurd rfl (h.ne_cons (d := '*') rfl _)
  · rw [if_pos hstart]
    cases hbehind : behind? ':' (Line.dropBlanks (plainLine false [] cs).2) with
    | none =>
      simp only [hbehind, Option.bind_eq_bind, Option.bind_some, Option.bind_none, Option.map_none]
    | some r =>
      simp only [hbehind, Option.bind_eq_bind, Option.bind_some, Option.map_some]
      rfl

theorem key_word {k : String} (h : Word k) (hr : endsMark false r = true) :
    key? (k.toList ++ ':' :: r) = some (.plain k, r) := by
  have hbehind : behind? ':' (Line.dropBlanks (':' :: r)) = some r := by
    have hdrop : Line.dropBlanks (':' :: r) = ':' :: r := rfl
    rw [hdrop, behind?, hr]
    rfl
  rw [key_solid (h.solid.append _), plainLine_key (bare_word h) hr, hbehind]
  simp only [trim_bare (bare_word h), List.reverse_reverse, String.ofList_toList, Option.map_some]

/-- Lines that belong to no node that starts at a column or further in. -/
def Below (column : Nat) (ls : List Line) : Prop :=
  ∀ l ∈ ls.head?, Solid l.text ∧ l.indent < column

/-- Text without quotes up to the end of its line. -/
theorem content_bare (h : Bare cs) {least : Nat} {ls : List Line} (hls : Below least ls)
    (fuel : Nat) :
    content (fuel + 1) least cs ls = some (.plain (String.ofList cs), ls) := by
  have hmore : plainMore least ls cs.reverse 1 = some (cs.reverse, ls) := by
    cases ls with
    | nil => rfl
    | cons l ls =>
      obtain ⟨hsolid, hindent⟩ := hls l rfl
      have hdrop : Line.dropBlanks l.text = l.text := hsolid.dropWhile fun _ =>
        isBlank_of_isWordChar
      obtain ⟨c, r, hl, -⟩ := hsolid
      rw [hl] at hdrop
      simp only [plainMore, hl, hdrop, hindent, decide_true, Bool.true_or, if_true]
  have htext : plainText least cs ls = some (.plain (String.ofList cs), ls) := by
    simp only [plainText, plainLine_bare h, trim_bare h, hmore, Option.map_some,
      List.reverse_reverse]
  have hstart := startsPlain_solid h.solid
  unfold content
  simp only
  split
  · exact absurd rfl (h.solid.ne_cons (d := '&') rfl _)
  · exact absurd rfl (h.solid.ne_cons (d := '!') rfl _)
  · exact absurd rfl (h.solid.ne_cons (d := '|') rfl _)
  · exact absurd rfl (h.solid.ne_cons (d := '>') rfl _)
  · next c r _ _ _ _ =>
    have hne (d : Char) (hd : isWordChar d = false) : decide (c = d) = false :=
      decide_eq_false fun heq => h.solid.ne_cons hd r (congrArg (· :: r) heq)
    have hflow : (c = '"' || c = '\'' || c = '[' || c = '\x7b' || c = '*') = false := by
      rw [hne _ (by decide), hne _ (by decide), hne _ (by decide), hne _ (by decide),
        hne _ (by decide)]
      rfl
    rw [hflow, if_neg Bool.false_ne_true, if_pos hstart, htext]
  · obtain ⟨c, r, heq, -⟩ := h.solid
    cases heq

end Plain

section Tables

variable {α : Type} {line : α → List Char} {body : α → List Line} {nodes : α → Node × Node}
  {column spare : Nat}

/-- An entry of a table at a column: its first line, further lines, and what is read from them. The
reader takes some fuel to spare. -/
structure Reads (column spare : Nat) (line : α → List Char) (body : α → List Line)
    (nodes : α → Node × Node) (e : α) : Prop where
  solid : Solid (line e)
  key : (key? (line e)).isSome = true
  entry : ∀ fuel rest, (body e).length + spare ≤ fuel → Below (column + 1) rest →
    entry fuel column (line e) (body e ++ rest) = some (nodes e, rest)

def tableLines (column : Nat) (line : α → List Char) (body : α → List Line) (es : List α) :
    List Line :=
  es.flatMap fun e => ⟨column, line e⟩ :: body e

theorem tableLines_cons (e : α) (es : List α) (rest : List Line) :
    tableLines column line body (e :: es) ++ rest =
      ⟨column, line e⟩ :: (body e ++ (tableLines column line body es ++ rest)) := by
  rw [tableLines, List.flatMap_cons, List.append_assoc]
  rfl

theorem length_tableLines_cons (column : Nat) (line : α → List Char) (body : α → List Line)
    (e : α) (es : List α) :
    (tableLines column line body (e :: es)).length =
      (body e).length + 1 + (tableLines column line body es).length := by
  rw [tableLines, List.flatMap_cons, List.length_append, List.length_cons]
  rfl

theorem dropVoid_solid {l : Line} (h : Solid l.text) (ls : List Line) :
    Line.dropVoid (l :: ls) = l :: ls :=
  List.dropWhile_cons_of_neg (Bool.eq_false_iff.mp (isVoid_solid h))

/-- The entries of a table are read one after another, as long as lines stand at its column. -/
theorem entries_table {e : α} {es : List α}
    (hreads : ∀ b ∈ e :: es, Reads column spare line body nodes b) {fuel : Nat}
    (hfuel : (tableLines column line body (e :: es)).length + spare ≤ fuel) {rest : List Line}
    (hrest : Below column rest) (acc : List (Node × Node)) :
    entries fuel column (line e) (body e ++ (tableLines column line body es ++ rest)) acc =
      some (acc.reverse ++ (e :: es).map nodes, rest) := by
  -- The entry in front has been opened by its first line; the next one is opened by the line
  -- behind.
  induction es generalizing e fuel acc with
  | nil =>
    have hread := hreads e List.mem_cons_self
    rw [length_tableLines_cons] at hfuel
    obtain ⟨fuel, rfl⟩ : ∃ n, fuel = n + 1 := ⟨fuel - 1, by omega⟩
    have hbelow : Below (column + 1) rest := fun l hl =>
      ⟨(hrest l hl).1, Nat.lt_succ_of_lt (hrest l hl).2⟩
    have hnone : tableLines column line body [] ++ rest = rest := rfl
    rw [hnone, entries, hread.entry fuel rest (by omega) hbelow, Option.bind_eq_bind,
      Option.bind_some, List.map_singleton, ← List.reverse_cons]
    cases rest with
    | nil => rfl
    | cons l more =>
      obtain ⟨hl, hindent⟩ := hrest l rfl
      simp only [dropVoid_solid hl, decide_eq_false (Nat.ne_of_lt hindent), Bool.false_and,
        Bool.false_eq_true, if_false]
      rfl
  | cons e' es ih =>
    obtain ⟨hread, hreads⟩ := List.forall_mem_cons.mp hreads
    have hsolid := (hreads e' List.mem_cons_self).solid
    rw [length_tableLines_cons] at hfuel
    obtain ⟨fuel, rfl⟩ : ∃ n, fuel = n + 1 := ⟨fuel - 1, by omega⟩
    have hmore := @ih e' hreads fuel (by omega) (nodes e :: acc)
    have hbelow : Below (column + 1) (tableLines column line body (e' :: es) ++ rest) := by
      rw [tableLines_cons]
      rintro l ⟨⟩
      exact ⟨hsolid, Nat.lt_succ_self column⟩
    rw [entries, hread.entry fuel _ (by omega) hbelow, tableLines_cons, Option.bind_eq_bind,
      Option.bind_some]
    simp only [dropVoid_solid (l := ⟨column, line e'⟩) hsolid, behind_solid hsolid '-' rfl,
      decide_eq_true (hsolid.head_ne (d := '\t') rfl), Option.isNone_none, decide_true,
      Bool.and_self, if_true, hmore, List.map_cons, List.reverse_cons, List.append_assoc,
        List.singleton_append]

/-- A table that starts on a line of its own. -/
theorem block_table {es : List α} (hsome : es ≠ [])
    (hreads : ∀ b ∈ es, Reads column spare line body nodes b) (fuel : Nat)
    (hfuel : (tableLines column line body es).length + spare ≤ fuel) {rest : List Line}
    (hrest : Below column rest) (least : Nat) (hleast : least ≤ column) :
    block (fuel + 2) least (tableLines column line body es ++ rest) =
      some (.table (es.map nodes), rest) := by
  obtain ⟨e, es, rfl⟩ := List.exists_cons_of_ne_nil hsome
  obtain ⟨hsolid, hkey, -⟩ := hreads e List.mem_cons_self
  have hread := entries_table hreads hfuel hrest []
  rw [tableLines_cons, block, dropVoid_solid (l := ⟨column, line e⟩) hsolid]
  simp only [if_neg (Nat.not_lt.mpr hleast), if_neg (hsolid.head_ne (d := '\t') rfl)]
  rw [node, behind_solid hsolid '-' rfl, behind_solid hsolid '?' rfl, hkey, hread]
  rfl

/-- An entry is read by its key, as far as its value goes. -/
theorem entry_word {k : String} (h : Word k) {r : List Char} (hr : endsMark false r = true)
    {fuel : Nat} {ls rest : List Line} {v : Node}
    (hvalue : entryValue fuel column r ls = some (v, rest)) :
    entry (fuel + 1) column (k.toList ++ ':' :: r) ls = some ((.plain k, v), rest) := by
  rw [entry, behind_solid (h.solid.append _) '?' rfl]
  simp only [key_word h hr, hvalue, Option.bind_eq_bind, Option.bind_some]
  rfl

end Tables

section Written

def fieldLine (e : String × Field) : List Char :=
  e.1.toList ++ ':' :: ' ' :: (writeField 4 e.2).toList

def headLine (e : Section) : List Char := e.1.toList ++ [':']

def fieldLines (e : Section) : List Line := tableLines 2 fieldLine (fun _ => []) e.2

def fieldNodes (e : String × Field) : Node × Node := (.plain e.1, .plain (writeField 4 e.2))

def sectionNodes (e : Section) : Node × Node := (.plain e.1, .table (e.2.map fieldNodes))

theorem bare_field {f : Field} (h : f.Fits) : Bare (writeField 4 f).toList := by
  cases f with
  | text s =>
    have hquote : writeField 4 (.text s) = s := Word.quoted h
    rw [hquote]
    exact bare_word h
  | size n =>
    have hdigits : (writeField 4 (.size n)).toList = Nat.toDigits 10 n := Nat.toList_repr
    rw [hdigits]
    exact bare_toDigits n
  | flag b => cases b <;> exact ⟨⟨_, _, rfl, rfl⟩, List.all_eq_true.mp rfl⟩

theorem reads_field {e : String × Field} (hword : Word e.1) (hfits : e.2.Fits) :
    Reads 2 3 fieldLine (fun _ => []) fieldNodes e where
  solid := hword.solid.append _
  key := by
    rw [fieldLine, key_word hword rfl]
    rfl
  entry := by
    intro fuel rest hfuel hrest
    obtain ⟨fuel, rfl⟩ : ∃ n, fuel = n + 3 := ⟨fuel - 3, by omega⟩
    have hbare := bare_field hfits
    have hsolid := hbare.solid
    have hcontent := content_bare hbare hrest fuel
    rw [String.ofList_toList] at hcontent
    refine entry_word hword rfl ?_
    have hvoid : Line.isVoid (' ' :: (writeField 4 e.2).toList) = false := by
      rw [← isVoid_solid hsolid]
      rfl
    have hdrop : Line.dropBlanks (' ' :: (writeField 4 e.2).toList) = (writeField 4 e.2).toList :=
      hsolid.dropWhile fun _ => isBlank_of_isWordChar
    rw [entryValue, hvoid, if_neg Bool.false_ne_true, hdrop]
    exact hcontent

theorem reads_section {e : Section} (hword : Word e.1) (h : Tidied Field.Fits e.2) :
    Reads 0 7 headLine fieldLines sectionNodes e where
  solid := hword.solid.append _
  key := by
    rw [headLine, key_word hword rfl]
    rfl
  entry := by
    intro fuel rest hfuel hrest
    obtain ⟨fuel, rfl⟩ : ∃ n, fuel = n + 4 := ⟨fuel - 4, by omega⟩
    have hfields : ∀ f ∈ e.2, Reads 2 3 fieldLine (fun _ => []) fieldNodes f := fun f hf =>
      reads_field (h.words f.1 (List.mem_map_of_mem hf)) (h.fits f hf)
    have hbelow : Below 2 rest := fun l hl =>
      ⟨(hrest l hl).1, Nat.lt_trans (hrest l hl).2 (by decide)⟩
    have hblock := block_table h.some hfields fuel (by rw [fieldLines] at hfuel; omega) hbelow
      1 (by decide)
    refine entry_word hword rfl ?_
    obtain ⟨f, fields, hcons⟩ := List.exists_cons_of_ne_nil h.some
    have hvoid : Line.isVoid [] = true := rfl
    have hsolid := (hfields f (by rw [hcons]; exact List.mem_cons_self)).solid
    rw [fieldLines, hcons, tableLines_cons]
    rw [hcons, tableLines_cons] at hblock
    rw [entryValue, hvoid, if_pos rfl, dropVoid_solid (l := ⟨2, fieldLine f⟩) hsolid]
    exact hblock

theorem lines_field {e : String × Field} (hword : Word e.1) (hfits : e.2.Fits) :
    Lines (writeEntry e.1 e.2).toList [⟨2, fieldLine e⟩] := by
  have hbare := bare_field hfits
  have hlast : (writeField 4 e.2).toList.getLast? ≠ some '\n' := fun heq =>
    hbare.not_mem (by decide) (List.mem_of_getLast? heq)
  have htext : (writeEntry e.1 e.2).toList = List.replicate 2 ' ' ++ fieldLine e ++ ['\n'] := by
    simp only [writeEntry, if_neg hlast, String.toList_append, fieldLine, List.append_assoc]
    rfl
  have hnot (c : Char) (hc : isWordChar c = false) (hcolon : c ≠ ':') (hblank : c ≠ ' ') :
      c ∉ fieldLine e := by
    rw [fieldLine, List.mem_append, List.mem_cons, List.mem_cons]
    rintro (hmem | rfl | rfl | hmem)
    · exact (bare_word hword).not_mem hc hmem
    · exact hcolon rfl
    · exact hblank rfl
    · exact hbare.not_mem hc hmem
  rw [htext]
  exact lines_line 2 (hword.solid.append _) (hnot _ (by decide) (by decide) (by decide))
    (hnot _ (by decide) (by decide) (by decide))

theorem lines_head {e : Section} (hword : Word e.1) :
    Lines (e.1 ++ ":\n").toList [⟨0, headLine e⟩] := by
  have htext : (e.1 ++ ":\n").toList = List.replicate 0 ' ' ++ headLine e ++ ['\n'] := by
    rw [String.toList_append, headLine, List.replicate_zero, List.nil_append, List.append_assoc]
    rfl
  have hnot (c : Char) (hc : isWordChar c = false) (hcolon : c ≠ ':') : c ∉ headLine e := by
    rw [headLine, List.mem_append, List.mem_singleton]
    rintro (hmem | rfl)
    · exact (bare_word hword).not_mem hc hmem
    · exact hcolon rfl
  rw [htext]
  exact lines_line 0 (hword.solid.append _) (hnot _ (by decide) (by decide))
    (hnot _ (by decide) (by decide))

theorem lines_fields {fields : List (String × Field)} (hwords : ∀ k ∈ fields.map Prod.fst, Word k)
    (hfits : ∀ e ∈ fields, e.2.Fits) :
    Lines (String.join (fields.map fun e => writeEntry e.1 e.2)).toList
      (tableLines 2 fieldLine (fun _ => []) fields) := by
  rw [String.toList_join, List.flatMap_map, tableLines]
  induction fields with
  | nil => exact lines_nil
  | cons e fields ih =>
    obtain ⟨hword, hwords⟩ := List.forall_mem_cons.mp hwords
    obtain ⟨hfit, hfits⟩ := List.forall_mem_cons.mp hfits
    rw [List.flatMap_cons, List.flatMap_cons]
    exact (lines_field hword hfit).append (ih hwords hfits)

theorem lines_sections {sections : List Section} (hwords : ∀ k ∈ sections.map Prod.fst, Word k)
    (hfits : ∀ e ∈ sections, Tidied Field.Fits e.2) :
    Lines (write sections).toList (tableLines 0 headLine fieldLines sections) := by
  rw [write, String.toList_join, List.flatMap_map, tableLines]
  induction sections with
  | nil => exact lines_nil
  | cons e sections ih =>
    obtain ⟨hword, hwords⟩ := List.forall_mem_cons.mp hwords
    obtain ⟨hfit, hfits⟩ := List.forall_mem_cons.mp hfits
    have hsection : Lines (writeSection e).toList (⟨0, headLine e⟩ :: fieldLines e) := by
      rw [writeSection, String.toList_append]
      exact (lines_head hword).append (lines_fields hfit.words hfit.fits)
    rw [List.flatMap_cons, List.flatMap_cons]
    exact hsection.append (ih hwords hfits)

theorem marked_toDigits (n : Nat) : marked? (Nat.toDigits 10 n) = none := by
  unfold marked?
  split
  · next heq => cases toDigits_eq_zero_cons heq
  · next heq => cases toDigits_eq_zero_cons heq
  · next heq => exact absurd heq ((solid_toDigits n).ne_cons rfl _)
  · rfl

theorem integer_toDigits {n : Nat} (hn : n < 0x8000000000000000) :
    integer? 10 (Nat.toDigits 10 n) = some (n : Int) := by
  have hvalue (c : Char) (hc : c.isDigit = true) : digitValue c = c.toNat - 48 := if_pos hc
  have hdigits : (Nat.toDigits 10 n).all (fun c => digitValue c < 10) = true := by
    rw [List.all_eq_true]
    intro c hc
    have hdigit := isDigit_of_mem n c hc
    have hle : c.toNat ≤ 57 := (Char.isDigit_iff_toNat.mp hdigit).2
    rw [decide_eq_true_eq, hvalue c hdigit]
    omega
  have hsome : (Nat.toDigits 10 n).isEmpty = false :=
    List.isEmpty_eq_false_iff.mpr Nat.toDigits_ne_nil
  have hrange : -0x8000000000000000 ≤ (n : Int) ∧ (n : Int) < 0x8000000000000000 := by omega
  simp only [integer?, signed_toDigits, hsome, hdigits, foldl_toDigits hvalue, Bool.not_true,
    Bool.or_self, Bool.false_eq_true, if_false, if_pos hrange]

theorem plain_field {f : Field} (h : f.Fits) : plain? (writeField 4 f) = some f.toScalar := by
  cases f with
  | text s =>
    have hquote : writeField 4 (.text s) = s := Word.quoted h
    rw [hquote]
    exact Word.plain h
  | size n =>
    have hdigits : (writeField 4 (.size n)).toList = Nat.toDigits 10 n := Nat.toList_repr
    have hne (t : String) (ht : t.toList.all Char.isDigit = false) :
        writeField 4 (.size n) ≠ t := by
      rintro rfl
      rw [hdigits, List.all_eq_true.mpr (isDigit_of_mem n)] at ht
      cases ht
    have hinteger := integer_toDigits h
    have hnull : ¬ (writeField 4 (.size n) = "~" ∨ writeField 4 (.size n) = "null") :=
      not_or.mpr ⟨hne _ (by decide), hne _ (by decide)⟩
    simp only [plain?, hdigits, marked_toDigits, if_neg hnull, if_neg (hne "true" (by decide)),
      if_neg (hne "false" (by decide)), hinteger]
    rfl
  | flag b => cases b <;> decide +kernel

end Written

section Values

variable {α : Type} {value : α → Value} {nodes : α → Node}

/-- The value of a table whose keys are words, where no key stands twice. -/
theorem toValue_entries {es : List (String × α)} (hwords : ∀ k ∈ es.map Prod.fst, Word k)
    (hvalues : ∀ e ∈ es, (nodes e.2).toValue? [] = some (value e.2, []))
    (acc : List (String × Value))
    (hdistinct : (acc.reverse.map Prod.fst ++ es.map Prod.fst).Nodup) :
    Node.entriesToValue? [] (es.map fun e => (.plain e.1, nodes e.2)) acc =
      some (acc.reverse ++ es.map fun e => (e.1, value e.2), []) := by
  induction es generalizing acc with
  | nil =>
    rw [List.map_nil, List.map_nil, List.append_nil]
    rfl
  | cons e es ih =>
    obtain ⟨hword, hwords⟩ := List.forall_mem_cons.mp hwords
    obtain ⟨hvalue, hvalues⟩ := List.forall_mem_cons.mp hvalues
    have hnew : (acc.any fun e' => e'.1 == e.1) = false := by
      rw [List.any_eq_false]
      intro e' he' hkey
      refine (List.nodup_append.mp hdistinct).2.2 e'.1 ?_ e.1 List.mem_cons_self (eq_of_beq hkey)
      exact List.mem_map.mpr ⟨e', List.mem_reverse.mpr he', rfl⟩
    have hkey : (Node.plain e.1).toValue? [] = some (.text e.1, []) := by
      rw [Node.toValue?, hword.plain]
      rfl
    have hrest := ih hwords hvalues ((e.1, value e.2) :: acc) (by
      rw [List.reverse_cons, List.map_append, List.append_assoc]
      exact hdistinct)
    rw [List.map_cons, List.map_cons, Node.entriesToValue?]
    have hname : Node.keyOf (.text e.1) = some e.1 := rfl
    simp only [hkey, hname, hvalue, Option.bind_eq_bind, Option.bind_some]
    rw [hnew, if_neg Bool.false_ne_true, hrest, List.reverse_cons, List.append_assoc]
    rfl

theorem toValue_table (nodes : α → Node) (value : α → Value) {es : List (String × α)}
    (hwords : ∀ k ∈ es.map Prod.fst, Word k)
    (hvalues : ∀ e ∈ es, (nodes e.2).toValue? [] = some (value e.2, []))
    (hdistinct : (es.map Prod.fst).Nodup) :
    (Node.table (es.map fun e => (.plain e.1, nodes e.2))).toValue? [] =
      some (.table (es.map fun e => (e.1, value e.2)), []) := by
  have hentries := toValue_entries hwords hvalues [] hdistinct
  rw [Node.toValue?, hentries]
  rfl

theorem toValue_section {e : Section} (h : Tidied Field.Fits e.2) :
    (Node.table (e.2.map fieldNodes)).toValue? [] = some (.table (fieldTable e.2), []) := by
  refine toValue_table (fun f => .plain (writeField 4 f)) (fun f => .scalar f.toScalar)
    h.words (fun f hf => ?_) h.distinct
  rw [Node.toValue?, plain_field (h.fits f hf), Option.map_some]

theorem toValue_sections {sections : List Section} (h : Tidy sections) :
    (Node.table (sections.map sectionNodes)).toValue? [] =
      some (.table (sectionTable sections), []) :=
  toValue_table (fun fields : List (String × Field) => .table (fields.map fieldNodes))
    (fun fields => .table (fieldTable fields)) h.words
    (fun e he => toValue_section (h.fits e he)) h.distinct

theorem isTriple_solid {l : Line} (h : Solid l.text) (mark : Char)
    (hmark : isWordChar mark = false) :
    Line.isTriple mark l = false := by
  obtain ⟨c, r, hl, hc⟩ := h
  have hne : decide (c = mark) = false := decide_eq_false (ne_of_isWordChar hc hmark)
  unfold Line.isTriple
  rw [hl, Bool.and_eq_false_iff]
  right
  split
  · next heq =>
    rw [(List.cons.inj heq).1] at hne
    rw [hne]
    rfl
  · rfl

/-- A line that starts with a word starts a document. -/
theorem opening_solid {l : Line} (h : Solid l.text) (ls : List Line) :
    opening (l :: ls) = some (.bare (l :: ls)) := by
  have hdirective : isDirective l = false := by
    rw [isDirective, decide_eq_false (h.head_ne (d := '%') rfl), Bool.and_false]
  have hfront : (Line.isVoid l.text || Line.isTriple '.' l || isDirective l) = false := by
    rw [isVoid_solid h, isTriple_solid h '.' rfl, hdirective]
    rfl
  have hdrop : (l :: ls).dropWhile
      (fun l => Line.isVoid l.text || Line.isTriple '.' l || isDirective l) = l :: ls :=
    List.dropWhile_cons_of_neg (Bool.eq_false_iff.mp hfront)
  have htake : (l :: ls).takeWhile
      (fun l => Line.isVoid l.text || Line.isTriple '.' l || isDirective l) = [] :=
    List.takeWhile_cons_of_neg (Bool.eq_false_iff.mp hfront)
  simp only [opening, hdrop, htake, isTriple_solid h '-' rfl, List.any_nil,
    Bool.false_eq_true, if_false]

theorem solid_tableLines {sections : List Section} (h : Tidy sections) :
    ∀ l ∈ tableLines 0 headLine fieldLines sections, Solid l.text := by
  simp only [tableLines, fieldLines, List.mem_flatMap, List.mem_cons]
  rintro l ⟨e, he, rfl | ⟨f, hf, rfl | hnone⟩⟩
  · exact (h.words e.1 (List.mem_map_of_mem he)).solid.append _
  · exact ((h.fits e he).words f.1 (List.mem_map_of_mem hf)).solid.append _
  · cases hnone

/-- A document without quotes is read back as it was written. -/
theorem parse_write {sections : List Section} (h : Tidy sections) :
    parse? (write sections) = some (.table (sectionTable sections)) := by
  obtain ⟨hle, hlines⟩ := lines_sections h.words h.fits
  obtain ⟨e, es, hcons⟩ := List.exists_cons_of_ne_nil h.some
  have hlength := length_tableLines_cons 0 headLine fieldLines e es
  have hsolid := solid_tableLines h
  have htext : Line.ofText (Line.unify (write sections).toList) =
      tableLines 0 headLine fieldLines sections := by
    have hall := hlines []
    rw [List.append_nil] at hall
    exact hall.trans (List.append_nil _)
  have hopen : opening (tableLines 0 headLine fieldLines sections) =
      some (.bare (tableLines 0 headLine fieldLines sections)) := by
    have hfirst := opening_solid (l := ⟨0, headLine e⟩)
      ((h.words e.1 (by rw [hcons]; exact List.mem_cons_self)).solid.append _)
      (fieldLines e ++ (tableLines 0 headLine fieldLines es ++ []))
    rwa [← tableLines_cons, List.append_nil, ← hcons] at hfirst
  -- There are no more lines than characters, so the fuel lasts for both tables.
  have hread : block (4 * (write sections).toList.length + 8) 0
      (tableLines 0 headLine fieldLines sections) =
        some (.table (sections.map sectionNodes), []) := by
    have hbelow : Below 0 [] := fun _ hl => nomatch hl
    have hblock := block_table h.some (fun e he =>
        reads_section (h.words e.1 (List.mem_map_of_mem he)) (h.fits e he))
      (4 * (write sections).toList.length + 6) (by rw [hcons] at hle ⊢; omega) hbelow 0
        (Nat.le_refl 0)
    rwa [List.append_nil] at hblock
  have hedge : ∀ l ∈ tableLines 0 headLine fieldLines sections, (!isEdge l) = true := by
    intro l hl
    rw [isEdge, isTriple_solid (hsolid l hl) '-' rfl,
      isTriple_solid (hsolid l hl) '.' rfl]
    rfl
  have htake := List.takeWhile_eq_self_iff.mpr hedge
  have hdrop := List.dropWhile_eq_nil_iff.mpr hedge
  simp only [parse?, htext, hopen, hread, htake, hdrop, toValue_sections h, Option.bind_eq_bind,
    Option.bind_some]
  rfl

end Values

end StreamCodec.Yaml
