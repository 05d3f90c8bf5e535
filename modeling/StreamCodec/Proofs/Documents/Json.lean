import StreamCodec.Json.Draft
import StreamCodec.Json.Writer
import StreamCodec.Proofs.Documents.Tidy

/-!
JSON that is written is read back. What is written is cut into pieces, each a word with the blanks
in front of it; the words of a table are read as its tree, and the tree has its value.
-/

namespace StreamCodec.Json

open Config (Field Section Tidy Value Word isWordChar ne_of_isWordChar toNat_of_isWordChar
  fieldTable sectionTable takeWhile_span dropWhile_span isDigit_of_mem exists_cons_toDigits
  toDigits_eq_zero_cons)

namespace Token

/-! Words. -/

def bounds (c : Char) : Bool := !(c.isDigit || c = '.' || c = 'e' || c = 'E')

/-- Text that is read as some words, whatever follows that does not go on with a number. -/
structure Lexes (cs : List Char) (ts : List Token) : Prop where
  bound : ∃ c r, cs = c :: r ∧ bounds c = true
  length_le : ts.length ≤ cs.length
  words : ∀ fuel rest, (∀ c ∈ rest.head?, bounds c = true) →
    words (fuel + ts.length) (cs ++ rest) = ts ++ words fuel rest

variable {cs cs' rest : List Char} {ts ts' : List Token} {s : String}

theorem Lexes.append (h : Lexes cs ts) (h' : Lexes cs' ts') : Lexes (cs ++ cs') (ts ++ ts') where
  bound := by
    obtain ⟨c, r, rfl, hc⟩ := h.bound
    exact ⟨c, r ++ cs', rfl, hc⟩
  length_le := by
    have hle := h.length_le
    have hle' := h'.length_le
    rw [List.length_append, List.length_append]
    omega
  words := by
    intro fuel rest hrest
    obtain ⟨c, r, rfl, hc⟩ := h'.bound
    have hbound : ∀ d ∈ ((c :: r) ++ rest).head?, bounds d = true := by
      rintro d ⟨⟩
      exact hc
    rw [List.append_assoc, List.length_append, Nat.add_comm ts.length, ← Nat.add_assoc,
      h.words _ _ hbound, h'.words fuel rest hrest, List.append_assoc]

theorem bounds_of_isBlank {c : Char} (h : isBlank c = true) : bounds c = true := by
  simp only [isBlank, Bool.or_eq_true, decide_eq_true_eq] at h
  obtain ((rfl | rfl) | rfl) | rfl := h <;> rfl

/-- A word with blanks in front of it. -/
theorem lexes_word (blanks : List Char) {c : Char} {t : Token}
    (hblanks : ∀ b ∈ blanks, isBlank b = true) (hc : isBlank c = false)
    (hbound : blanks ≠ [] ∨ bounds c = true) (hread : ∀ rest, (∀ d ∈ rest.head?, bounds d = true) →
      read (c :: cs ++ rest) = some (t, rest)) :
    Lexes (blanks ++ c :: cs) [t] where
  bound := by
    cases blanks with
    | nil => exact ⟨c, cs, rfl, hbound.resolve_left (not_not_intro rfl)⟩
    | cons b blanks =>
      exact ⟨b, blanks ++ c :: cs, rfl, bounds_of_isBlank (hblanks b List.mem_cons_self)⟩
  length_le := by
    rw [List.length_append, List.length_cons, List.length_cons, List.length_nil]
    omega
  words := by
    intro fuel rest hrest
    have hstop : ∀ d ∈ (c :: cs ++ rest).head?, isBlank d = false := by
      rintro d ⟨⟩
      exact hc
    rw [List.append_assoc, List.length_singleton, Token.words, dropWhile_span hblanks hstop]
    have hword := hread rest hrest
    rw [List.cons_append] at hword ⊢
    simp only [hword, List.cons_append, List.nil_append]

theorem pieces_cons {c : Char} (hc : isWordChar c = true) (r : List Char) (acc : List Piece) :
    pieces (c :: r) acc = pieces r (.char c :: acc) := by
  have hquote : c ≠ '"' := ne_of_isWordChar hc (by decide)
  have hescape : c ≠ '\\' := ne_of_isWordChar hc (by decide)
  have hplain : ¬ (c.toNat < 0x20 ∨ c = '\\') := by
    have hle := (toNat_of_isWordChar hc).1
    exact not_or.mpr ⟨by omega, hescape⟩
  rw [pieces]
  · rw [if_neg hplain]
  · exact hquote
  · exact fun _ _ _ _ _ h _ => hescape h
  · exact fun _ _ h _ => hescape h

/-- The letters of a word stand for themselves in a string. -/
theorem pieces_word {l : List Char} (hl : ∀ c ∈ l, isWordChar c = true) (rest : List Char)
    (acc : List Piece) :
    pieces (l ++ '"' :: rest) acc = some (l.reverse.map Piece.char ++ acc, rest) := by
  induction l generalizing acc with
  | nil => rw [List.nil_append, pieces]; rfl
  | cons c l ih =>
    obtain ⟨hc, hl⟩ := List.forall_mem_cons.mp hl
    rw [List.cons_append, pieces_cons hc, ih hl, List.reverse_cons, List.map_append,
      List.append_assoc]
    rfl

theorem assemble_chars (l acc : List Char) :
    assemble (l.map Piece.char) acc = some (l.reverse ++ acc) := by
  induction l generalizing acc with
  | nil => rfl
  | cons c l ih => rw [List.map_cons, assemble, ih, List.reverse_cons, List.append_assoc]; rfl

theorem readString_word (h : Word s) (rest : List Char) :
    readString (s.toList ++ '"' :: rest) = some (text s, rest) := by
  rw [readString, pieces_word h.mem_chars, List.append_nil, Option.map_some]
  simp only [assemble_chars, List.reverse_reverse, List.append_nil, String.ofList_toList]

/-- Digits are gathered whole as long as the number stays below the limit. -/
theorem gather_digits (l : List Char) (n : Nat) (h : Nat.ofDigitChars 10 l n < wordLimit) :
    gather l n 0 = (Nat.ofDigitChars 10 l n, 0) := by
  induction l generalizing n with
  | nil => rfl
  | cons c l ih =>
    rw [Nat.ofDigitChars_cons] at h ⊢
    have hle : 10 * n + (c.toNat - 48) ≤ Nat.ofDigitChars 10 l (10 * n + (c.toNat - 48)) := by
      rw [Nat.ofDigitChars_eq_ofDigitChars_zero]
      have hpow : 0 < 10 ^ l.length := Nat.pow_pos (by decide)
      have hmul := Nat.le_mul_of_pos_left (10 * n + (c.toNat - 48)) hpow
      omega
    rw [gather, if_pos ⟨rfl, Nat.lt_of_le_of_lt hle h⟩]
    exact ih _ h

theorem bounds_eq {c : Char} (h : bounds c = true) :
    c.isDigit = false ∧ c ≠ '.' ∧ c ≠ 'e' ∧ c ≠ 'E' := by
  simp only [bounds, Bool.not_eq_true', Bool.or_eq_false_iff, decide_eq_false_iff_not] at h
  exact ⟨h.1.1.1, h.1.1.2, h.1.2, h.2⟩

theorem fraction_bounds (hrest : ∀ c ∈ rest.head?, bounds c = true) :
    fraction rest = some ([], rest) := by
  unfold fraction
  split
  · exact absurd rfl (bounds_eq (hrest _ rfl)).2.1
  · rfl

theorem exponent_bounds (hrest : ∀ c ∈ rest.head?, bounds c = true) :
    exponent rest = some (none, rest) := by
  unfold exponent
  simp only
  split
  · exact absurd rfl (bounds_eq (hrest _ rfl)).2.2.1
  · exact absurd rfl (bounds_eq (hrest _ rfl)).2.2.2
  · rfl

theorem numberOf_digits {n : Nat} (hn : n < wordLimit) :
    numberOf false (Nat.toDigits 10 n) [] none = number (.nat n) := by
  have hvalue := gather_digits (Nat.toDigits 10 n) 0 (by rwa [Nat.ofDigitChars_ten_toDigits])
  rw [Nat.ofDigitChars_ten_toDigits] at hvalue
  simp only [numberOf, hvalue]
  rfl

theorem readNumber_digits {n : Nat} (hn : n < wordLimit)
    (hrest : ∀ c ∈ rest.head?, bounds c = true) :
    readNumber (Nat.toDigits 10 n ++ rest) = some (number (.nat n), rest) := by
  have hdigits := isDigit_of_mem n
  have hstop : ∀ c ∈ rest.head?, c.isDigit = false := fun c hc => (bounds_eq (hrest c hc)).1
  unfold readNumber
  split
  next negative cs hsign =>
  have hplain : (negative, cs) = (false, Nat.toDigits 10 n ++ rest) := by
    rw [← hsign]
    split
    · next hminus =>
      obtain ⟨d, l, hl, hdigit⟩ := exists_cons_toDigits n
      rw [hl, List.cons_append] at hminus
      rw [(List.cons.inj hminus).1] at hdigit
      cases hdigit
    · rfl
  cases hplain
  rw [takeWhile_span hdigits hstop, dropWhile_span hdigits hstop]
  simp only
  split
  · next hnone => exact absurd hnone Nat.toDigits_ne_nil
  · next hzero => cases toDigits_eq_zero_cons hzero
  · rw [fraction_bounds hrest, Option.bind_eq_bind, Option.bind_some, exponent_bounds hrest]
    simp only [Option.bind_eq_bind, Option.bind_some, numberOf_digits hn]
    rfl

theorem read_digit {c : Char} (hc : c.isDigit = true) (r : List Char) :
    read (c :: r) = readNumber (c :: r) := by
  have hne {d : Char} (hd : d.isDigit = false) (l : List Char) : c :: r ≠ d :: l := by
    rintro ⟨⟩
    cases hc.symm.trans hd
  rw [read]
  · exact nofun
  -- No other word starts with a digit.
  all_goals exact fun _ h => hne (by decide) _ h

end Token

section Written

variable {α : Type} {blanks : List Char}

open Token

def wordOf : Field → Token
  | .text s => .text s
  | .size n => .number (.nat n)
  | .flag b => .bool b

theorem escape_word {c : Char} (hc : isWordChar c = true) : escape c = c.toString := by
  have hplain : ¬ c.toNat < 0x20 := by
    have hle := (toNat_of_isWordChar hc).1
    omega
  unfold escape
  rw [if_neg (ne_of_isWordChar hc (by decide)), if_neg (ne_of_isWordChar hc (by decide)),
    if_neg (ne_of_isWordChar hc (by decide)), if_neg (ne_of_isWordChar hc (by decide)),
    if_neg (ne_of_isWordChar hc (by decide)), if_neg (ne_of_isWordChar hc (by decide)),
    if_neg (ne_of_isWordChar hc (by decide)), if_neg hplain]

theorem toList_quote {s : String} (h : Word s) : (quote s).toList = '"' :: (s.toList ++ ['"']) := by
  have hletters : ∀ l : List Char, (∀ c ∈ l, isWordChar c = true) →
      (String.join (l.map escape)).toList = l := by
    intro l hl
    rw [String.toList_join, List.flatMap_map]
    induction l with
    | nil => rfl
    | cons c l ih =>
      obtain ⟨hc, hl⟩ := List.forall_mem_cons.mp hl
      rw [List.flatMap_cons, ih hl, escape_word hc, Char.toString_eq_singleton,
        String.toList_singleton]
      rfl
  rw [quote, String.toList_append, String.toList_append, hletters _ h.mem_chars]
  rfl

theorem lexes_quote (hblanks : ∀ b ∈ blanks, isBlank b = true) {s : String} (h : Word s) :
    Lexes (blanks ++ (quote s).toList) [.text s] := by
  rw [toList_quote h]
  refine lexes_word _ hblanks rfl (.inr rfl) fun rest _ => ?_
  rw [List.cons_append, List.append_assoc]
  exact readString_word h rest

/-- What is written of a field behind the colon. -/
theorem lexes_field {f : Field} (h : f.Fits) :
    Lexes (' ' :: (scalar f.toScalar).toList) [wordOf f] := by
  have hblank : ∀ b ∈ [' '], isBlank b = true := List.forall_mem_singleton.mpr rfl
  cases f with
  | text s => exact lexes_quote hblank h
  | size n =>
    have hdigits : (scalar (Field.size n).toScalar).toList = Nat.toDigits 10 n := Nat.toList_repr
    have hlimit : n < wordLimit := Nat.lt_trans h (by decide)
    obtain ⟨c, l, hl, hc⟩ := exists_cons_toDigits n
    have hsolid : isBlank c = false := by
      rw [← Bool.not_eq_true]
      intro hblank
      have hbounds := (bounds_eq (bounds_of_isBlank hblank)).1
      cases hbounds.symm.trans hc
    rw [hdigits, hl]
    refine lexes_word [' '] hblank hsolid (.inl (List.cons_ne_nil _ _)) fun rest hrest => ?_
    rw [List.cons_append, read_digit hc, ← List.cons_append, ← hl]
    exact readNumber_digits hlimit hrest
  | flag b =>
    cases b with
    | true => exact lexes_word [' '] hblank rfl (.inr rfl) fun rest _ => rfl
    | false => exact lexes_word [' '] hblank rfl (.inr rfl) fun rest _ => rfl

def listed (tokens : α → List Token) : List (String × α) → List Token
  | [] => []
  | [e] => .text e.1 :: .colon :: tokens e.2
  | e :: e' :: es => .text e.1 :: .colon :: (tokens e.2 ++ .comma :: listed tokens (e' :: es))

theorem isBlank_newLine (depth : Nat) : ∀ b ∈ (newLine depth).toList, isBlank b = true := by
  intro b hb
  have hline : (newLine depth).toList = '\n' :: List.replicate (2 * depth) ' ' := by
    simp only [newLine, String.toList_append, String.toList_ofList]
    rfl
  rw [hline] at hb
  obtain rfl | hb := List.mem_cons.mp hb
  · rfl
  · obtain rfl := List.eq_of_mem_replicate hb
    rfl

theorem lexes_colon : Lexes [':'] [.colon] :=
  lexes_word [] (List.forall_mem_nil _) rfl (.inr rfl) fun _ _ => rfl

theorem lexes_comma : Lexes [','] [.comma] :=
  lexes_word [] (List.forall_mem_nil _) rfl (.inr rfl) fun _ _ => rfl

section Entries

variable {depth : Nat} {toValue : α → Value} {tokens : α → List Token}

theorem toList_prettyEntries (depth : Nat) (k : String) (v : Value) (es : List (String × Value))
    (gap : String) :
    (prettyEntries depth ((k, v) :: es) gap).toList =
      gap.toList ++ ((newLine depth).toList ++ (quote k).toList ++
        ([':'] ++ ' ' :: (prettyAt depth v).toList) ++ (prettyEntries depth es ",").toList) := by
  have hcolon : ": ".toList = [':', ' '] := rfl
  simp only [prettyEntries, String.toList_append, hcolon, List.append_assoc, List.cons_append,
    List.nil_append]

/-- The entries of a table, from one on. -/
theorem lexes_entries {es : List (String × α)} (hsome : es ≠ [])
    (hwords : ∀ k ∈ es.map Prod.fst, Word k)
    (hvalues : ∀ e ∈ es, Lexes (' ' :: (prettyAt depth (toValue e.2)).toList) (tokens e.2)) :
    Lexes (prettyEntries depth (es.map fun e => (e.1, toValue e.2)) "").toList
      (listed tokens es) := by
  have hentry (e : String × α) (hword : Word e.1)
      (hvalue : Lexes (' ' :: (prettyAt depth (toValue e.2)).toList) (tokens e.2)) :
      Lexes ((newLine depth).toList ++ (quote e.1).toList ++
        ([':'] ++ ' ' :: (prettyAt depth (toValue e.2)).toList))
        (.text e.1 :: .colon :: tokens e.2) :=
    (lexes_quote (isBlank_newLine depth) hword).append (lexes_colon.append hvalue)
  induction es with
  | nil => exact absurd rfl hsome
  | cons e es ih =>
    obtain ⟨hword, hwords⟩ := List.forall_mem_cons.mp hwords
    obtain ⟨hvalue, hvalues⟩ := List.forall_mem_cons.mp hvalues
    have hfirst := hentry e hword hvalue
    rw [List.map_cons, toList_prettyEntries, String.toList_empty, List.nil_append]
    cases es with
    | nil =>
      have hnone : (prettyEntries depth [] ",").toList = [] := rfl
      rw [List.map_nil, hnone, List.append_nil]
      exact hfirst
    | cons e' es =>
      have hrest := hfirst.append (lexes_comma.append (ih (List.cons_ne_nil _ _) hwords hvalues))
      rw [List.map_cons, toList_prettyEntries] at hrest ⊢
      exact hrest

/-- A table that is written over lines. -/
theorem lexes_table (toValue : α → Value) (blanks : List Char)
    (hblanks : ∀ b ∈ blanks, isBlank b = true) {es : List (String × α)}
    (hsome : es ≠ []) (hwords : ∀ k ∈ es.map Prod.fst, Word k)
    (hvalues : ∀ e ∈ es,
      Lexes (' ' :: (prettyAt (depth + 1) (toValue e.2)).toList) (tokens e.2)) :
    Lexes (blanks ++ (prettyAt depth (.table (es.map fun e => (e.1, toValue e.2)))).toList)
      (.leftBrace :: (listed tokens es ++ [.rightBrace])) := by
  have hopen : Lexes (blanks ++ ['\x7b']) [.leftBrace] :=
    lexes_word _ hblanks rfl (.inr rfl) fun _ _ => rfl
  have hclose : Lexes ((newLine depth).toList ++ ['\x7d']) [.rightBrace] :=
    lexes_word _ (isBlank_newLine depth) rfl (.inr rfl) fun _ _ => rfl
  have hall := hopen.append ((lexes_entries hsome hwords hvalues).append hclose)
  have hbrace : "\x7b".toList = ['\x7b'] := rfl
  have hbrace' : "\x7d".toList = ['\x7d'] := rfl
  obtain ⟨e, es, rfl⟩ := List.exists_cons_of_ne_nil hsome
  rw [List.map_cons] at hall ⊢
  rw [prettyAt]
  · simp only [String.toList_append, hbrace, hbrace', List.append_assoc, List.cons_append,
      List.nil_append] at hall ⊢
    exact hall
  · exact nofun

end Entries

def draftOf : Field → Draft
  | .text s => .text s
  | .size n => .number (.nat n)
  | .flag b => .bool b

theorem value_field (f : Field) {fuel : Nat} (hfuel : [wordOf f].length ≤ fuel) (r : List Token) :
    Draft.value fuel ([wordOf f] ++ r) = (draftOf f, r) := by
  cases fuel with
  | zero => cases hfuel
  | succ fuel => cases f <;> rfl

section Trees

variable {tokens : α → List Token} {draft : α → Draft}

/-- The entries of a table are read as the entries of a tree. -/
theorem entries_listed {es : List (String × α)} (hsome : es ≠ [])
    (hvalues : ∀ e ∈ es, ∀ fuel r, (tokens e.2).length ≤ fuel →
      Draft.value fuel (tokens e.2 ++ r) = (draft e.2, r))
    (fuel : Nat) (hfuel : (listed tokens es).length < fuel) (r : List Token)
    (acc : List (String × Draft)) :
    Draft.entries fuel (listed tokens es ++ .rightBrace :: r) acc =
      (.object (acc.reverse ++ es.map fun e => (e.1, draft e.2)) none, r) := by
  induction es generalizing fuel acc with
  | nil => exact absurd rfl hsome
  | cons e es ih =>
    obtain ⟨hvalue, hvalues⟩ := List.forall_mem_cons.mp hvalues
    cases fuel with
    | zero => cases hfuel
    | succ fuel =>
      cases es with
      | nil =>
        rw [listed, List.length_cons, List.length_cons] at hfuel
        have hcall := hvalue fuel (.rightBrace :: r) (by omega)
        simp only [listed, List.cons_append, Draft.entries, hcall, List.map_cons, List.map_nil,
          List.reverse_cons]
      | cons e' es =>
        rw [listed, List.length_cons, List.length_cons, List.length_append,
          List.length_cons] at hfuel
        have hcall :=
          hvalue fuel (.comma :: (listed tokens (e' :: es) ++ .rightBrace :: r)) (by omega)
        have hrest := ih (List.cons_ne_nil _ _) hvalues fuel (by omega) ((e.1, draft e.2) :: acc)
        simp only [listed, List.cons_append, List.append_assoc, Draft.entries, hcall, hrest,
          List.map_cons, List.reverse_cons, List.nil_append]

/-- A table is read as a tree. -/
theorem value_table {es : List (String × α)} (hsome : es ≠ [])
    (hvalues : ∀ e ∈ es, ∀ fuel r, (tokens e.2).length ≤ fuel →
      Draft.value fuel (tokens e.2 ++ r) = (draft e.2, r))
    {fuel : Nat} (hfuel : (Token.leftBrace :: (listed tokens es ++ [.rightBrace])).length ≤ fuel)
    (r : List Token) :
    Draft.value fuel (.leftBrace :: (listed tokens es ++ [.rightBrace]) ++ r) =
      (.object (es.map fun e => (e.1, draft e.2)) none, r) := by
  rw [List.length_cons, List.length_append, List.length_singleton] at hfuel
  obtain ⟨fuel, rfl⟩ : ∃ n, fuel = n + 1 := ⟨fuel - 1, by omega⟩
  have hentries := entries_listed hsome hvalues fuel (by omega) r []
  obtain ⟨e, es, rfl⟩ := List.exists_cons_of_ne_nil hsome
  obtain ⟨ts, hts⟩ : ∃ ts, listed tokens (e :: es) = .text e.1 :: ts := by
    cases es with
    | nil => exact ⟨_, rfl⟩
    | cons e' es => exact ⟨_, rfl⟩
  rw [List.cons_append, List.append_assoc, List.singleton_append]
  rw [hts, List.cons_append] at hentries ⊢
  rw [Draft.value, hentries]
  · rfl
  · exact fun _ h => Token.noConfusion (List.cons.inj h).1

/-- The value of a tree, where no key stands twice. -/
theorem toEntries_map {depth : Nat} (value : α → Value) {es : List (String × α)}
    (hdistinct : (es.map Prod.fst).Nodup)
    (hvalues : ∀ e ∈ es, Draft.toValue? depth (draft e.2) = some (value e.2)) :
    Draft.toEntries? depth (es.map fun e => (e.1, draft e.2)) =
      some (es.map fun e => (e.1, value e.2)) := by
  induction es with
  | nil => rfl
  | cons e es ih =>
    rw [List.map_cons, List.nodup_cons] at hdistinct
    obtain ⟨hnew, hdistinct⟩ := hdistinct
    obtain ⟨hvalue, hvalues⟩ := List.forall_mem_cons.mp hvalues
    have hfresh : (es.map fun e => (e.1, value e.2)).any (fun e' => e'.1 = e.1) = false := by
      rw [List.any_map, List.any_eq_false]
      intro e' he' hkey
      exact hnew (List.mem_map.mpr ⟨e', he', of_decide_eq_true hkey⟩)
    simp only [List.map_cons, Draft.toEntries?, hvalue, ih hdistinct hvalues, hfresh,
      Option.bind_eq_bind, Option.bind_some]
    rfl

end Trees

theorem toValue_field {f : Field} (h : f.Fits) (depth : Nat) :
    Draft.toValue? depth (draftOf f) = some (.scalar f.toScalar) := by
  cases f with
  | text s => rw [draftOf, Draft.toValue?]; rfl
  | size n =>
    rw [draftOf, Draft.toValue?, if_pos (show n < 0x8000000000000000 from h)]
    rfl
  | flag b => rw [draftOf, Draft.toValue?]; rfl

def sectionWords (fields : List (String × Field)) : List Token :=
  .leftBrace :: (listed (fun f => [wordOf f]) fields ++ [.rightBrace])

def sectionDraft (fields : List (String × Field)) : Draft :=
  .object (fields.map fun e => (e.1, draftOf e.2)) none

theorem lexes_sections {sections : List Section} (h : Tidy sections) :
    Lexes (pretty (.table (sectionTable sections))).toList
      (.leftBrace :: (listed sectionWords sections ++ [.rightBrace])) := by
  have hfields : ∀ e ∈ sections,
      Lexes (' ' :: (prettyAt 1 (.table (fieldTable e.2))).toList) (sectionWords e.2) := fun e he =>
    lexes_table (fun f : Field => .scalar f.toScalar) [' '] (List.forall_mem_singleton.mpr rfl)
      (h.fits e he).some (h.fits e he).words fun e' he' => lexes_field ((h.fits e he).fits e' he')
  exact lexes_table (fun fields => .table (fieldTable fields)) [] (List.forall_mem_nil _)
    h.some h.words hfields

theorem value_sections {sections : List Section} (h : Tidy sections) {fuel : Nat}
    (hfuel : (Token.leftBrace :: (listed sectionWords sections ++ [.rightBrace])).length ≤ fuel) :
    Draft.value fuel (.leftBrace :: (listed sectionWords sections ++ [.rightBrace])) =
      (.object (sections.map fun e => (e.1, sectionDraft e.2)) none, []) := by
  have hsections : ∀ e ∈ sections, ∀ fuel r, (sectionWords e.2).length ≤ fuel →
      Draft.value fuel (sectionWords e.2 ++ r) = (sectionDraft e.2, r) := fun e he _ r hfuel =>
    value_table (h.fits e he).some (fun e' _ _ r hfuel => value_field e'.2 hfuel r) hfuel r
  have hvalue := value_table h.some hsections hfuel []
  rwa [List.append_nil] at hvalue

theorem toValue_sections {sections : List Section} (h : Tidy sections) (depth : Nat) :
    Draft.toValue? (depth + 2) (.object (sections.map fun e => (e.1, sectionDraft e.2)) none) =
      some (.table (sectionTable sections)) := by
  have hsections : ∀ e ∈ sections,
      Draft.toValue? (depth + 1) (sectionDraft e.2) = some (.table (fieldTable e.2)) := by
    intro e he
    have hfields := toEntries_map (fun f : Field => .scalar f.toScalar)
      (h.fits e he).distinct fun e' he' => toValue_field ((h.fits e he).fits e' he') depth
    rw [sectionDraft, Draft.toValue?, hfields]
    rfl
  rw [Draft.toValue?,
    toEntries_map (fun fields => .table (fieldTable fields)) h.distinct hsections]
  rfl

/-- A document without quotes is read back as it was written. -/
theorem parse_pretty {sections : List Section} (h : Tidy sections) :
    parse? (pretty (.table (sectionTable sections))) = some (.table (sectionTable sections)) := by
  have hlexes := lexes_sections h
  have hlength := hlexes.length_le
  have htokens : Token.ofText (pretty (.table (sectionTable sections))) =
      .leftBrace :: (listed sectionWords sections ++ [.rightBrace]) := by
    -- A word has a character at least, so the fuel lasts.
    obtain ⟨k, hk⟩ := Nat.exists_eq_add_of_le' hlength
    have hwords := hlexes.words (k + 1) [] fun c hc => nomatch hc
    rw [List.append_nil, Nat.add_right_comm, ← hk] at hwords
    rw [Token.ofText, ← String.length_toList, hwords]
    exact List.append_nil _
  have hdraft : Draft.ofText (pretty (.table (sectionTable sections))) =
      (.object (sections.map fun e => (e.1, sectionDraft e.2)) none, true) := by
    rw [Draft.ofText, htokens, value_sections h (by omega)]
    rfl
  rw [parse?, hdraft]
  exact toValue_sections h 125

end Written

end StreamCodec.Json
