import Mathlib.Data.List.TakeWhile
import StreamCodec.Proofs.Documents.Tidy
import StreamCodec.Toml.Document
import StreamCodec.Toml.Writer

/-!
TOML that is written is read back. Each line that is written is one statement; it adds what it
says to the table that was opened last.
-/

namespace StreamCodec.Toml

open Config (Field Section Tidied Tidy Word ne_of_isWordChar toNat_of_isWordChar fieldTable
  sectionTable takeWhile_span dropWhile_span isDigit_of_mem exists_cons_toDigits
  solid_toDigits toDigits_eq_zero_cons foldl_toDigits signed_toDigits)

variable {l rest : List Char} {s : String}

section Quotes

theorem longestRun_eq_zero {c : Char} (h : c ∉ l) : longestRun c l 0 0 = 0 := by
  induction l with
  | nil => rfl
  | cons d l ih =>
    rw [List.mem_cons, not_or] at h
    rw [longestRun, if_neg (Ne.symm h.1), ih h.2]

theorem escape_word (hl : ∀ c ∈ l, Config.isWordChar c = true) (run : Nat) :
    escape false l run = l := by
  induction l generalizing run with
  | nil => rfl
  | cons c l ih =>
    obtain ⟨hc, hl⟩ := List.forall_mem_cons.mp hl
    have hplain : ¬ (c.toNat < 0x20 ∨ c.toNat = 0x7f) := by
      have hbounds := toNat_of_isWordChar hc
      omega
    rw [escape, if_neg (ne_of_isWordChar hc (by decide)), ih hl]
    rw [if_neg (ne_of_isWordChar hc (by decide)), if_neg (ne_of_isWordChar hc (by decide)),
      if_neg (ne_of_isWordChar hc (by decide)), if_neg (ne_of_isWordChar hc (by decide)),
      if_neg (ne_of_isWordChar hc (by decide)), if_neg (ne_of_isWordChar hc (by decide)),
      if_neg hplain]
    rfl

theorem traits_word (h : Word s) : Traits.of s.toList = {} := by
  have hnot (c : Char) (hc : Config.isWordChar c = false) : c ∉ s.toList := fun hmem => by
    cases (h.mem_chars c hmem).symm.trans hc
  have hcontains (c : Char) (hc : Config.isWordChar c = false) : s.toList.contains c = false := by
    rw [List.contains_eq_mem, decide_eq_false (hnot c hc)]
  have hcontrol : (s.toList.any fun c =>
      c ≠ '\t' && c ≠ '\n' && (c.toNat < 0x20 || c.toNat = 0x7f)) = false := by
    rw [List.any_eq_false]
    intro c hc hcontrol
    have hbounds := toNat_of_isWordChar (h.mem_chars c hc)
    simp only [Bool.and_eq_true, Bool.or_eq_true, decide_eq_true_eq] at hcontrol
    omega
  rw [Traits.of, longestRun_eq_zero (hnot _ (by decide)), longestRun_eq_zero (hnot _ (by decide)),
    hcontains _ (by decide), hcontains _ (by decide), hcontrol]

/-- A word stands in plain double quotes. -/
theorem toList_quote (h : Word s) : (quote s).toList = '"' :: (s.toList ++ ['"']) := by
  have hquote : quote s = "\"" ++ String.ofList (escape false s.toList 0) ++ "\"" := by
    simp only [quote, traits_word h]
    rfl
  simp only [hquote, escape_word h.mem_chars, String.toList_append, String.toList_ofList]
  rfl

theorem basic_word (hl : ∀ c ∈ l, Config.isWordChar c = true) {fuel : Nat} (hfuel : l.length < fuel)
    (rest acc : List Char) : basic fuel (l ++ '"' :: rest) acc = some (acc.reverse ++ l, rest) := by
  induction l generalizing fuel acc with
  | nil =>
    obtain ⟨fuel, rfl⟩ := Nat.exists_eq_add_of_lt hfuel
    rw [List.nil_append, basic, List.append_nil]
  | cons c l ih =>
    obtain ⟨hc, hl⟩ := List.forall_mem_cons.mp hl
    cases fuel with
    | zero => cases hfuel
    | succ fuel =>
      have hplain : isPlain c = true := by
        have hbounds := toNat_of_isWordChar hc
        simp only [isPlain, Bool.or_eq_true, Bool.and_eq_true, decide_eq_true_eq]
        omega
      rw [List.cons_append, basic]
      · rw [if_pos hplain, ih hl (Nat.lt_of_succ_lt_succ hfuel), List.reverse_cons,
          List.append_assoc, List.singleton_append]
      · exact ne_of_isWordChar hc (by decide)
      · exact ne_of_isWordChar hc (by decide)

theorem string_word (h : Word s) (rest : List Char) :
    string ('"' :: (s.toList ++ '"' :: rest)) = some (s, rest) := by
  have hbasic : basic (('"' :: (s.toList ++ '"' :: rest)).length + 1) (s.toList ++ '"' :: rest) [] =
      some (s.toList, rest) := by
    refine basic_word h.mem_chars ?_ rest []
    rw [List.length_cons, List.length_append]
    omega
  unfold string
  simp only
  split
  · next heq => exact absurd (List.cons.inj heq).2 ((h.solid.append _).ne_cons rfl _)
  · next heq => cases (List.cons.inj heq).1
  · next heq =>
    rw [← (List.cons.inj heq).2, hbasic, Option.map_some, String.ofList_toList]
  · next heq => cases (List.cons.inj heq).1
  · next hneq _ => exact absurd rfl (hneq _)

end Quotes

section Numbers

variable {n : Nat}

theorem digits_toDigits (n fuel : Nat) :
    digits Char.isDigit (fuel + 1) (Nat.toDigits 10 n) = some (Nat.toDigits 10 n, []) := by
  have htake := List.takeWhile_eq_self_iff.mpr (isDigit_of_mem n)
  have hdrop := List.dropWhile_eq_nil_iff.mpr (isDigit_of_mem n)
  have hsome : (Nat.toDigits 10 n).isEmpty = false :=
    List.isEmpty_eq_false_iff.mpr Nat.toDigits_ne_nil
  simp only [digits, htake, hdrop, hsome]
  rfl

theorem valueIn_toDigits (n : Nat) : valueIn 10 (Nat.toDigits 10 n) = n :=
  foldl_toDigits (fun _ hc => if_pos hc) n

theorem decimal_toDigits (hn : n < 0x8000000000000000) :
    decimal false (Nat.toDigits 10 n) = some (.int n) := by
  have hfront :
      ((Nat.toDigits 10 n).head? = some '0' && 1 < (Nat.toDigits 10 n).length) = false := by
    cases hl : Nat.toDigits 10 n with
    | nil => rfl
    | cons c l =>
      rw [Bool.and_eq_false_iff, List.head?_cons]
      by_cases hc : c = '0'
      · subst hc
        rw [toDigits_eq_zero_cons hl]
        exact .inr rfl
      · exact .inl (decide_eq_false fun h => hc (Option.some.inj h))
  have hinteger : integer n = some (.int n) := if_pos (by omega)
  simp only [decimal, digits_toDigits, Option.bind_eq_bind, Option.bind_some, hfront,
    valueIn_toDigits, List.isEmpty_nil, if_true, Bool.false_eq_true, if_false]
  rw [hinteger]

/-- Digits are no date and no time. -/
theorem moment_toDigits (n : Nat) : moment (Nat.toDigits 10 n) = none := by
  have hfixed (k : Nat) {m : Nat} {c : Char} {r : List Char} (hc : c.isDigit = false) :
      fixed k (Nat.toDigits 10 n) ≠ some (m, c :: r) := by
    intro h
    rw [fixed] at h
    split at h
    · have hmem : c ∈ Nat.toDigits 10 n := by
        refine List.mem_of_mem_drop (i := k) ?_
        rw [(Prod.mk.inj (Option.some.inj h)).2]
        exact List.mem_cons_self
      cases (isDigit_of_mem n c hmem).symm.trans hc
    · cases h
  have hdate : isDate (Nat.toDigits 10 n) = false := by
    unfold isDate
    split
    · next h => exact absurd h (hfixed 4 rfl)
    · rfl
  have htime : time (Nat.toDigits 10 n) = none := by
    unfold time
    cases h : fixed 2 (Nat.toDigits 10 n) with
    | none => rfl
    | some p =>
      obtain ⟨hour, r⟩ := p
      rw [Option.bind_eq_bind, Option.bind_some]
      simp only
      split
      · cases hfixed 2 (c := ':') rfl h
      · rfl
  rw [moment, hdate, htime]
  rfl

theorem word_toDigits (hn : n < 0x8000000000000000) : word (Nat.toDigits 10 n) = some (.int n) := by
  obtain ⟨c, l, hl, hc⟩ := exists_cons_toDigits n
  have hmoment := moment_toDigits n
  have hdecimal := decimal_toDigits hn
  have hsigned := signed_toDigits n
  have hzero : ∀ d r, c :: l = '0' :: d :: r → False := fun d r h => by
    cases toDigits_eq_zero_cons (hl.trans h)
  rw [hl] at hmoment hdecimal hsigned ⊢
  unfold word
  rw [hsigned]
  split
  next negative r hpair =>
  cases hpair
  split
  · next h => cases h; cases hc
  · next h => cases h; cases hc
  · next h => cases hzero _ _ h
  · next h => cases hzero _ _ h
  · next h => cases hzero _ _ h
  · split
    · next h => cases h; cases hc
    · next h => cases h; cases hc
    · rw [hmoment, hdecimal]
      rfl

end Numbers

section Lines

variable {k : String}

theorem isBare_of_isWordChar {c : Char} (hc : Config.isWordChar c = true) : isBare c = true := by
  have halphanum : c.isAlphanum = (c.isUpper || c.isLower || c.isDigit) := rfl
  rw [Config.isWordChar, Bool.or_eq_true, Bool.or_eq_true] at hc
  rw [isBare, halphanum]
  obtain (hlower | hdigit) | hline := hc
  · rw [hlower, Bool.or_true, Bool.true_or, Bool.true_or, Bool.true_or]
  · rw [hdigit, Bool.or_true, Bool.true_or, Bool.true_or]
  · rw [hline, Bool.or_true, Bool.true_or]

theorem isBlank_of_isWordChar {c : Char} (hc : Config.isWordChar c = true) : isBlank c = false := by
  rw [isBlank, Bool.or_eq_false_iff]
  exact ⟨decide_eq_false (ne_of_isWordChar hc (by decide)),
    decide_eq_false (ne_of_isWordChar hc (by decide))⟩

theorem dropBlanks_word (h : Word k) (rest : List Char) :
    dropBlanks (k.toList ++ rest) = k.toList ++ rest := by
  exact (h.solid.append rest).dropWhile fun _ => isBlank_of_isWordChar

/-- A word is a key, whatever ends it. -/
theorem key_word (h : Word k) (rest : List Char) (fuel : Nat)
    (hrest : ∀ c ∈ rest.head?, isBare c = false) (hdot : ∀ r, dropBlanks rest ≠ '.' :: r) :
    key (fuel + 1) (k.toList ++ rest) = some ([k], dropBlanks rest) := by
  have hbare : ∀ c ∈ k.toList, isBare c = true := fun c hc =>
    isBare_of_isWordChar (h.mem_chars c hc)
  have hsimple : simpleKey (k.toList ++ rest) = some (k, rest) := by
    have hsolid := h.solid.append rest
    have hsome : k.toList.isEmpty = false := by
      obtain ⟨c, r, hk, -⟩ := h.solid
      rw [hk]
      rfl
    unfold simpleKey
    split
    · next heq => exact absurd heq (hsolid.ne_cons rfl _)
    · next heq => exact absurd heq (hsolid.ne_cons rfl _)
    · simp only [takeWhile_span hbare hrest, dropWhile_span hbare hrest, hsome,
        String.ofList_toList]
      rfl
  rw [key, dropBlanks_word h, hsimple, Option.bind_eq_bind, Option.bind_some]
  simp only
  rfl

theorem dropSpace_word (h : Word k) (fuel : Nat) (rest : List Char) :
    dropSpace (fuel + 1) (k.toList ++ rest) = k.toList ++ rest := by
  have hsolid := h.solid.append rest
  have hcomment : dropComment (k.toList ++ rest) = k.toList ++ rest := by
    unfold dropComment
    split
    · next heq => exact absurd heq (hsolid.ne_cons rfl _)
    · rfl
  have hline : lineEnd? (k.toList ++ rest) = none := by
    unfold lineEnd?
    split
    · next heq => exact absurd heq (hsolid.ne_cons rfl _)
    · next heq => exact absurd heq (hsolid.ne_cons rfl _)
    · rfl
  rw [dropSpace, dropBlanks_word h, hcomment, hline]

theorem takeWord_toDigits (n : Nat) (rest : List Char) :
    takeWord (Nat.toDigits 10 n ++ '\n' :: rest) = (Nat.toDigits 10 n, '\n' :: rest) := by
  have hword : ∀ c ∈ Nat.toDigits 10 n, isWordChar c = true := fun c hc => by
    simp only [isWordChar, Char.isAlphanum, isDigit_of_mem n c hc, Bool.or_true, Bool.true_or]
  have hstop : ∀ c ∈ ('\n' :: rest).head?, isWordChar c = false := by
    rintro c ⟨⟩
    decide
  simp only [takeWord, takeWhile_span hword hstop, dropWhile_span hword hstop]
  rfl

theorem dropBlanks_field {f : Field} (h : f.Fits) (rest : List Char) :
    dropBlanks (' ' :: ((writeField f).toList ++ rest)) = (writeField f).toList ++ rest := by
  have hfirst : ∃ c r, (writeField f).toList = c :: r ∧ isBlank c = false := by
    cases f with
    | text s => exact ⟨'"', _, toList_quote h, by decide⟩
    | size n =>
      obtain ⟨c, l, hl, hc⟩ := solid_toDigits n
      exact ⟨c, l, Nat.toList_repr.trans hl, isBlank_of_isWordChar hc⟩
    | flag b => cases b <;> exact ⟨_, _, rfl, rfl⟩
  obtain ⟨c, r, hf, hc⟩ := hfirst
  rw [hf]
  exact dropWhile_span (l := [' ']) (List.forall_mem_singleton.mpr rfl) (by rintro d ⟨⟩; exact hc)

/-- What is written of a field is read back, and the line ends behind it. -/
theorem value_field {f : Field} (h : f.Fits) (fuel : Nat) (rest : List Char) :
    value (fuel + 1) ((writeField f).toList ++ '\n' :: rest) =
      some (.scalar f.toScalar, '\n' :: rest) := by
  cases f with
  | text s =>
    have hstring := string_word h ('\n' :: rest)
    rw [writeField, toList_quote h, List.cons_append, List.append_assoc, List.singleton_append,
      value, hstring]
    rfl
  | size n =>
    have hdigits : (writeField (.size n)).toList = Nat.toDigits 10 n := Nat.toList_repr
    have hsolid := (solid_toDigits n).append ('\n' :: rest)
    rw [hdigits, value, takeWord_toDigits]
    · simp only [word_toDigits h]
      rfl
    · exact fun r heq => hsolid.ne_cons rfl r heq
    · exact fun r heq => hsolid.ne_cons rfl r heq
    · exact fun r heq => hsolid.ne_cons rfl r heq
    · exact fun r heq => hsolid.ne_cons rfl r heq
  | flag b => cases b <;> rfl

end Lines

section Tables

variable {es : Entries} {k name : String}

theorem put_fresh (h : k ∉ es.map Prod.fst) (item : Item) : es.put k item = es ++ [(k, item)] := by
  have hfresh : (es.any fun e => e.1 == k) = false := by
    rw [List.any_eq_false]
    exact fun e he hkey => h (List.mem_map.mpr ⟨e, he, eq_of_beq hkey⟩)
  rw [Entries.put, hfresh, if_neg Bool.false_ne_true]

theorem get?_fresh (h : k ∉ es.map Prod.fst) : es.get? k = none := by
  rw [Entries.get?, List.lookup_eq_none_iff]
  exact fun e he => bne_iff_ne.mpr fun hkey => h (List.mem_map.mpr ⟨e, he, hkey.symm⟩)

/-- The table that was opened last. -/
theorem get?_last (h : name ∉ es.map Prod.fst) (item : Item) :
    Entries.get? (es ++ [(name, item)]) name = some item := by
  have hfresh : es.lookup name = none := get?_fresh h
  rw [Entries.get?, List.lookup_append, hfresh, List.lookup_cons_self, Option.none_or]

theorem put_last (h : name ∉ es.map Prod.fst) (item item' : Item) :
    Entries.put (es ++ [(name, item)]) name item' = es ++ [(name, item')] := by
  have hsame : es.map (fun e => if e.1 == name then (name, item') else e) = es := by
    refine (List.map_congr_left fun e he => ?_).trans (List.map_id _)
    exact if_neg fun hkey => h (List.mem_map.mpr ⟨e, he, eq_of_beq hkey⟩)
  have hfound : ((es ++ [(name, item)]).any fun e => e.1 == name) = true := by
    rw [List.any_eq_true]
    exact ⟨(name, item), List.mem_append_right _ List.mem_cons_self, beq_self_eq_true name⟩
  rw [Entries.put, hfound, if_pos rfl, List.map_append, hsame, List.map_singleton,
    if_pos (beq_self_eq_true name)]

theorem openTable_fresh (h : name ∉ es.map Prod.fst) :
    es.openTable [name] = some (es ++ [(name, .table false false [])]) := by
  simp only [Entries.openTable, List.getLast?_singleton, List.dropLast_singleton, Entries.descend,
    get?_fresh h, put_fresh h]

theorem set_last (h : name ∉ es.map Prod.fst) {sub : Entries} (hk : k ∉ sub.map Prod.fst)
    (v : Config.Value) :
    Entries.set (es ++ [(name, .table false false sub)]) [name] [k] v =
      some (es ++ [(name, .table false false (sub ++ [(k, .value v)]))]) := by
  simp only [Entries.set, List.getLast?_singleton, List.dropLast_singleton, Entries.descend,
    get?_last h, get?_fresh hk, put_fresh hk, put_last h, List.isEmpty_nil, Bool.false_and]
  rfl

end Tables

section Statements

/-- Text that is read as some statements, whatever follows. -/
def Runs (cs : List Char) (path : List String) (es : Entries) (path' : List String)
    (es' : Entries) : Prop :=
  ∃ n ≤ cs.length, ∀ fuel rest,
    statements (fuel + n) (cs ++ rest) path es = statements fuel rest path' es'

variable {cs cs' : List Char} {path path' path'' : List String} {es es' es'' : Entries}
  {k name : String}

theorem Runs.trans (h : Runs cs path es path' es') (h' : Runs cs' path' es' path'' es'') :
    Runs (cs ++ cs') path es path'' es'' := by
  obtain ⟨n, hle, hread⟩ := h
  obtain ⟨n', hle', hread'⟩ := h'
  refine ⟨n' + n, ?_, fun fuel rest => ?_⟩
  · rw [List.length_append]
    omega
  · rw [List.append_assoc, ← Nat.add_assoc, hread, hread']

theorem runs_nil (path : List String) (es : Entries) : Runs [] path es path es :=
  ⟨0, Nat.zero_le _, fun _ _ => rfl⟩

/-- An empty line says nothing. -/
theorem runs_blank (path : List String) (es : Entries) : Runs ['\n'] path es path es := by
  refine ⟨0, Nat.zero_le _, fun fuel rest => ?_⟩
  cases fuel with
  | zero => rfl
  | succ fuel =>
    have hspace : dropSpace (('\n' :: rest).length + 1) ('\n' :: rest) =
        dropSpace (rest.length + 1) rest := rfl
    rw [Nat.add_zero, List.singleton_append, statements, statements, hspace]

/-- A heading opens a table. -/
theorem runs_heading (hname : Word name) (hnew : name ∉ es.map Prod.fst) (path : List String) :
    Runs ('[' :: (name.toList ++ [']', '\n'])) path es [name]
      (es ++ [(name, .table false false [])]) := by
  refine ⟨1, ?_, fun fuel rest => ?_⟩
  · rw [List.length_cons]
    omega
  · have hheader : header [']'] (name.toList ++ ']' :: '\n' :: rest) =
      some ([name], '\n' :: rest) := by
      rw [header, key_word hname]
      · rfl
      · rintro c ⟨⟩
        decide
      · exact fun r heq => by cases heq
    rw [List.cons_append, List.append_assoc, List.cons_append, List.singleton_append]
    have hspace (fuel : Nat) (cs : List Char) : dropSpace (fuel + 1) ('[' :: cs) = '[' :: cs := rfl
    rw [statements, hspace]
    split
    · next heq => cases heq
    · next heq =>
      exact absurd (List.cons.inj heq).2 ((hname.solid.append _).ne_cons rfl _)
    · next heq =>
      obtain ⟨-, rfl⟩ := List.cons.inj heq
      have hend : endStatement ('\n' :: rest) = some rest := rfl
      simp only [hheader, hend, openTable_fresh hnew, Option.bind_eq_bind, Option.bind_some]
    · next hneq => exact absurd rfl (hneq _)

/-- A field is set in the table that was opened last. -/
theorem runs_field (hname : name ∉ es.map Prod.fst) {sub : Entries} (hk : k ∉ sub.map Prod.fst)
    (hword : Word k) {f : Field} (hf : f.Fits) :
    Runs (k ++ " = " ++ writeField f ++ "\n").toList
      [name] (es ++ [(name, .table false false sub)])
      [name] (es ++ [(name, .table false false (sub ++ [(k, .value (.scalar f.toScalar))]))]) := by
  have htext (rest : List Char) : (k ++ " = " ++ writeField f ++ "\n").toList ++ rest =
      k.toList ++ ' ' :: '=' :: ' ' :: ((writeField f).toList ++ '\n' :: rest) := by
    simp only [String.toList_append, List.append_assoc]
    rfl
  have hpair (fuel : Nat) (rest : List Char) :
      pair (fuel + 2) (k.toList ++ ' ' :: '=' :: ' ' :: ((writeField f).toList ++ '\n' :: rest)) =
        some ([k], .scalar f.toScalar, '\n' :: rest) := by
    have hkey := key_word hword (' ' :: '=' :: ' ' :: ((writeField f).toList ++ '\n' :: rest))
      ((k.toList ++ ' ' :: '=' :: ' ' :: ((writeField f).toList ++ '\n' :: rest)).length)
      (by rintro c ⟨⟩; decide) fun r heq => by cases heq
    have hequals : dropBlanks (' ' :: '=' :: ' ' :: ((writeField f).toList ++ '\n' :: rest)) =
        '=' :: ' ' :: ((writeField f).toList ++ '\n' :: rest) := rfl
    rw [hequals] at hkey
    simp only [pair, hkey, dropBlanks_field hf, value_field hf, Option.bind_eq_bind,
      Option.bind_some]
    rfl
  refine ⟨1, ?_, fun fuel rest => ?_⟩
  · have hlength := congrArg List.length (htext [])
    rw [List.append_nil, List.length_append, List.length_cons] at hlength
    omega
  · have hend : endStatement ('\n' :: rest) = some rest := rfl
    have hcall := hpair
      (2 * (k.toList ++ ' ' :: '=' :: ' ' :: ((writeField f).toList ++ '\n' :: rest)).length) rest
    have hsolid := hword.solid.append (' ' :: '=' :: ' ' :: ((writeField f).toList ++ '\n' :: rest))
    rw [htext, statements, dropSpace_word hword]
    split
    · next heq =>
      obtain ⟨c, r, hs, -⟩ := hsolid
      cases heq.symm.trans hs
    · next heq => exact absurd heq (hsolid.ne_cons rfl _)
    · next heq => exact absurd heq (hsolid.ne_cons rfl _)
    · simp only [hcall, hend, set_last hname hk, Option.bind_eq_bind, Option.bind_some]

def fieldItems (fields : List (String × Field)) : Entries :=
  fields.map fun e => (e.1, .value (.scalar e.2.toScalar))

def sectionItems (sections : List Section) : Entries :=
  sections.map fun e => (e.1, .table false false (fieldItems e.2))

theorem runs_fields (hname : name ∉ es.map Prod.fst) {fields : List (String × Field)}
    (hwords : ∀ k ∈ fields.map Prod.fst, Word k) (hfits : ∀ e ∈ fields, e.2.Fits) (sub : Entries)
    (hdistinct : (sub.map Prod.fst ++ fields.map Prod.fst).Nodup) :
    Runs (String.join (fields.map fun e => e.1 ++ " = " ++ writeField e.2 ++ "\n")).toList
      [name] (es ++ [(name, .table false false sub)])
      [name] (es ++ [(name, .table false false (sub ++ fieldItems fields))]) := by
  rw [String.toList_join, List.flatMap_map]
  induction fields generalizing sub with
  | nil =>
    rw [fieldItems, List.map_nil, List.append_nil]
    exact runs_nil _ _
  | cons e fields ih =>
    obtain ⟨hword, hwords⟩ := List.forall_mem_cons.mp hwords
    obtain ⟨hfit, hfits⟩ := List.forall_mem_cons.mp hfits
    have hnew : e.1 ∉ sub.map Prod.fst := fun hmem =>
      (List.nodup_append.mp hdistinct).2.2 e.1 hmem e.1 List.mem_cons_self rfl
    have hrest : ((sub ++ [(e.1, Item.value (.scalar e.2.toScalar))]).map Prod.fst ++
        fields.map Prod.fst).Nodup := by
      rwa [List.map_append, List.append_assoc]
    have hfield := runs_field hname hnew hword hfit
    have hfields := ih hwords hfits _ hrest
    rw [List.append_assoc] at hfields
    exact hfield.trans hfields

theorem runs_section {e : Section} (hword : Word e.1) (h : Tidied Field.Fits e.2)
    (hnew : e.1 ∉ es.map Prod.fst) (path : List String) :
    Runs (writeSection e).toList path es
      [e.1] (es ++ [(e.1, .table false false (fieldItems e.2))]) := by
  have htext : (writeSection e).toList = '[' :: (e.1.toList ++ [']', '\n']) ++
      (String.join (e.2.map fun e => e.1 ++ " = " ++ writeField e.2 ++ "\n")).toList := by
    simp only [writeSection, String.toList_append]
    rfl
  rw [htext]
  exact (runs_heading hword hnew path).trans
    (runs_fields hnew h.words h.fits [] h.distinct)

theorem runs_sections (es : Entries) {sections : List Section}
    (hwords : ∀ k ∈ sections.map Prod.fst, Word k)
    (hfits : ∀ e ∈ sections, Tidied Field.Fits e.2)
    (hdistinct : (es.map Prod.fst ++ sections.map Prod.fst).Nodup) (path : List String) :
    ∃ path', Runs (write sections).toList path es path' (es ++ sectionItems sections) := by
  rw [write, String.toList_intercalate, List.map_map]
  induction sections generalizing es path with
  | nil =>
    have hnone : es ++ sectionItems [] = es := List.append_nil es
    rw [hnone]
    exact ⟨path, runs_nil path es⟩
  | cons e sections ih =>
    obtain ⟨hword, hwords⟩ := List.forall_mem_cons.mp hwords
    obtain ⟨hfit, hfits⟩ := List.forall_mem_cons.mp hfits
    have hnew : e.1 ∉ es.map Prod.fst := fun hmem =>
      (List.nodup_append.mp hdistinct).2.2 e.1 hmem e.1 List.mem_cons_self rfl
    have hsection := runs_section hword hfit hnew path
    cases sections with
    | nil =>
      rw [List.map_singleton, List.intercalate_singleton]
      exact ⟨[e.1], hsection⟩
    | cons e' sections =>
      have hrest : ((es ++ [(e.1, Item.table false false (fieldItems e.2))]).map Prod.fst ++
          (e' :: sections).map Prod.fst).Nodup := by
        rwa [List.map_append, List.append_assoc]
      -- The table that is open in front of a heading does not matter.
      obtain ⟨path', hsections⟩ := ih _ hwords hfits hrest [e.1]
      rw [List.append_assoc] at hsections
      refine ⟨path', ?_⟩
      rw [List.map_cons, List.map_cons, List.intercalate_cons_cons, ← List.map_cons,
        List.append_assoc]
      exact hsection.trans ((runs_blank _ _).trans hsections)

theorem toValue_fieldItems (fields : List (String × Field)) :
    entriesToValue (fieldItems fields) = fieldTable fields := by
  induction fields with
  | nil => rfl
  | cons e fields ih => exact congrArg (List.cons _) ih

theorem toValue_sectionItems (sections : List Section) :
    entriesToValue (sectionItems sections) = sectionTable sections := by
  induction sections with
  | nil => rfl
  | cons e sections ih =>
    rw [sectionItems, List.map_cons, entriesToValue, Item.toValue, toValue_fieldItems]
    exact congrArg (List.cons _) ih

/-- A document without quotes is read back as it was written. -/
theorem parse_write {sections : List Section} (h : Tidy sections) :
    parse? (write sections) = some (.table (sectionTable sections)) := by
  obtain ⟨path, n, hle, hread⟩ := runs_sections [] h.words h.fits h.distinct []
  obtain ⟨k, hk⟩ := Nat.exists_eq_add_of_le' hle
  have hall := hread (k + 1) []
  rw [List.append_nil, Nat.add_right_comm, ← hk] at hall
  simp only [parse?, hall, List.nil_append]
  rw [← toValue_sectionItems]
  rfl

end Statements

end StreamCodec.Toml
