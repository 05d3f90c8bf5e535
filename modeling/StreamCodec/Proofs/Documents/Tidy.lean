import Mathlib.Data.List.Basic
import StreamCodec.Config.Settings
import StreamCodec.Yaml.Scalar
import StreamCodec.Yaml.Writer

/-!
Documents that need no quotes: tables of fields under headings, with words for keys and for texts.
A word consists of small letters, digits and underscores, and nothing takes it for anything but a
text. Numbers stand in digits, without a zero in front.
-/

namespace StreamCodec.Config

section Spans

variable {p : Char → Bool} {l rest : List Char}

/-- The characters in front of one that stops the search. -/
theorem takeWhile_span (hl : ∀ c ∈ l, p c = true) (hrest : ∀ c ∈ rest.head?, p c = false) :
    (l ++ rest).takeWhile p = l := by
  rw [List.takeWhile_append_of_pos hl]
  cases rest with
  | nil => exact List.append_nil l
  | cons c rest =>
    rw [List.takeWhile_cons_of_neg (Bool.eq_false_iff.mp (hrest c rfl)), List.append_nil]

/-- And what follows them. -/
theorem dropWhile_span (hl : ∀ c ∈ l, p c = true) (hrest : ∀ c ∈ rest.head?, p c = false) :
    (l ++ rest).dropWhile p = rest := by
  rw [List.dropWhile_append_of_pos hl]
  cases rest with
  | nil => rfl
  | cons c rest => exact List.dropWhile_cons_of_neg (Bool.eq_false_iff.mp (hrest c rfl))

end Spans

section Digits

variable {n : Nat} {l : List Char}

theorem isDigit_of_mem (n : Nat) : ∀ c ∈ Nat.toDigits 10 n, c.isDigit = true :=
  fun _ hc => Nat.isDigit_of_mem_toDigits (by decide) (by decide) hc

/-- There is a first digit. -/
theorem exists_cons_toDigits (n : Nat) : ∃ c l, Nat.toDigits 10 n = c :: l ∧ c.isDigit = true := by
  obtain ⟨c, l, hl⟩ := List.exists_cons_of_ne_nil (Nat.toDigits_ne_nil (n := n) (b := 10))
  exact ⟨c, l, hl, isDigit_of_mem n c (by rw [hl]; exact List.mem_cons_self)⟩

theorem head_toDigits (h : 0 < n) : (Nat.toDigits 10 n).head? ≠ some '0' := by
  induction n using Nat.strongRecOn with
  | ind n ih =>
    by_cases hsmall : n < 10
    · rw [Nat.toDigits_of_lt_base hsmall, List.head?_cons, ne_eq, Option.some.injEq,
        Nat.digitChar_eq_zero]
      exact Nat.ne_of_gt h
    · have hfront := ih (n / 10) (by omega) (by omega)
      rw [Nat.toDigits_of_base_le (by decide) (Nat.not_lt.mp hsmall)]
      rwa [List.head?_append_of_ne_nil _ Nat.toDigits_ne_nil]

/-- Only zero starts with a zero. -/
theorem toDigits_eq_zero_cons (h : Nat.toDigits 10 n = '0' :: l) : l = [] := by
  cases n with
  | zero => exact (List.cons.inj (h.symm.trans (Nat.toDigits_zero 10))).2
  | succ n => exact absurd (congrArg List.head? h) (head_toDigits (Nat.succ_pos n))

/-- The digits read back, whatever function knows what a digit is worth. -/
theorem foldl_toDigits {value : Char → Nat} (h : ∀ c, c.isDigit = true → value c = c.toNat - 48)
    (n : Nat) : (Nat.toDigits 10 n).foldl (fun n c => 10 * n + value c) 0 = n := by
  have hvalue : (Nat.toDigits 10 n).foldl (fun n c => 10 * n + value c) 0 =
      Nat.ofDigitChars 10 (Nat.toDigits 10 n) 0 :=
    List.foldl_ext _ _ _ fun n c hc => by rw [h c (isDigit_of_mem _ c hc)]; rfl
  rw [hvalue, Nat.ofDigitChars_ten_toDigits]

/-- Digits have no sign. -/
theorem signed_toDigits (n : Nat) :
    Double.signed (Nat.toDigits 10 n) = (false, Nat.toDigits 10 n) := by
  obtain ⟨c, l, hl, hc⟩ := exists_cons_toDigits n
  rw [hl]
  unfold Double.signed
  split
  · next h =>
    cases h
    cases hc
  · next h =>
    cases h
    cases hc
  · rfl

end Digits

def isWordChar (c : Char) : Bool := c.isLower || c.isDigit || c = '_'

theorem ne_of_isWordChar {c d : Char} (hc : isWordChar c = true) (hd : isWordChar d = false) :
    c ≠ d := by
  rintro rfl
  cases hc.symm.trans hd

/-- Word characters stand between the digit zero and the letter z. -/
theorem toNat_of_isWordChar {c : Char} (hc : isWordChar c = true) :
    48 ≤ c.toNat ∧ c.toNat ≤ 122 := by
  rw [isWordChar, Bool.or_eq_true, Bool.or_eq_true, decide_eq_true_eq] at hc
  obtain (hlower | hdigit) | rfl := hc
  · obtain ⟨hfirst, hlast⟩ := Bool.and_eq_true_iff.mp hlower
    have hfirst : 97 ≤ c.toNat := of_decide_eq_true hfirst
    have hlast : c.toNat ≤ 122 := of_decide_eq_true hlast
    omega
  · have hle : 48 ≤ c.toNat ∧ c.toNat ≤ 57 := Char.isDigit_iff_toNat.mp hdigit
    omega
  · decide

theorem isWordChar_of_isDigit {c : Char} (hc : c.isDigit = true) : isWordChar c = true := by
  rw [isWordChar, hc, Bool.or_true, Bool.true_or]

def Solid (cs : List Char) : Prop := ∃ c r, cs = c :: r ∧ isWordChar c = true

namespace Solid

variable {cs : List Char}

theorem append (h : Solid cs) (r : List Char) : Solid (cs ++ r) := by
  obtain ⟨c, l, rfl, hc⟩ := h
  exact ⟨c, l ++ r, rfl, hc⟩

theorem ne_cons (h : Solid cs) {d : Char} (hd : isWordChar d = false) (r : List Char) :
    cs ≠ d :: r := by
  obtain ⟨c, l, rfl, hc⟩ := h
  exact fun heq => ne_of_isWordChar hc hd (List.cons.inj heq).1

theorem head_ne (h : Solid cs) {d : Char} (hd : isWordChar d = false) : cs.head? ≠ some d := by
  obtain ⟨c, l, rfl, hc⟩ := h
  exact fun heq => ne_of_isWordChar hc hd (Option.some.inj heq)

theorem dropWhile (h : Solid cs) {p : Char → Bool} (hp : ∀ c, isWordChar c = true → p c = false) :
    cs.dropWhile p = cs := by
  obtain ⟨c, l, rfl, hc⟩ := h
  exact List.dropWhile_cons_of_neg (Bool.eq_false_iff.mp (hp c hc))

end Solid

theorem solid_toDigits (n : Nat) : Solid (Nat.toDigits 10 n) := by
  obtain ⟨c, l, hl, hc⟩ := exists_cons_toDigits n
  exact ⟨c, l, hl, isWordChar_of_isDigit hc⟩

/-- A text that stands for itself, with and without quotes. -/
structure Word (s : String) : Prop where
  start : s.toList.head?.any Char.isLower = true
  chars : s.toList.all isWordChar = true
  quoted : Yaml.quote 4 s = s
  plain : Yaml.plain? s = some (.text s)

instance : DecidablePred Word := fun _ =>
  decidable_of_iff (_ ∧ _ ∧ _ ∧ _)
    ⟨fun ⟨start, chars, quoted, plain⟩ => ⟨start, chars, quoted, plain⟩,
      fun h => ⟨h.start, h.chars, h.quoted, h.plain⟩⟩

namespace Word

variable {s : String}

theorem mem_chars (h : Word s) : ∀ c ∈ s.toList, isWordChar c = true := List.all_eq_true.mp h.chars

theorem solid (h : Word s) : Solid s.toList := by
  have hstart := h.start
  have hchars := h.mem_chars
  cases hs : s.toList with
  | nil =>
    rw [hs] at hstart
    cases hstart
  | cons c r =>
    rw [hs] at hchars
    exact ⟨c, r, rfl, hchars c List.mem_cons_self⟩

end Word

/-- A table whose keys are words, with no key twice. -/
structure Tidied {α : Type} (Fit : α → Prop) (es : List (String × α)) : Prop where
  some : es ≠ []
  words : ∀ k ∈ es.map Prod.fst, Word k
  distinct : (es.map Prod.fst).Nodup
  fits : ∀ e ∈ es, Fit e.2

/-- A field that needs no quotes, and no more than 63 bits. -/
def Field.Fits : Field → Prop
  | text s => Word s
  | size n => n < 0x8000000000000000
  | flag _ => True

def Tidy (sections : List Section) : Prop := Tidied (Tidied Field.Fits) sections

def fieldTable (fields : List (String × Field)) : List (String × Value) :=
  fields.map fun e => (e.1, .scalar e.2.toScalar)

def sectionTable (sections : List Section) : List (String × Value) :=
  sections.map fun e => (e.1, .table (fieldTable e.2))

theorem Settings.toValue_eq (s : Settings) : s.toValue = .table (sectionTable s.sections) := rfl

section Words

theorem word_codec (c : Codec) : Word c.name := by
  cases c <;> decide +kernel

theorem word_level (l : Level) : Word l.name := by
  cases l <;> decide +kernel

theorem word_logLevel : ∀ level ∈ logLevels, Word level := by
  decide +kernel

end Words

theorem tidied_codec {s : CodecSettings} (h : Word s.codec) : Tidied Field.Fits s.fields := by
  have hwords : ∀ k ∈ ["default_codec", "level", "chunk_size", "output_chunk_size"], Word k := by
    decide +kernel
  have hsize (c : ChunkSize) : c.size < 0x8000000000000000 := by
    have hmax := c.le_max
    omega
  have hdistinct : ["default_codec", "level", "chunk_size", "output_chunk_size"].Nodup := by decide
  refine ⟨List.cons_ne_nil _ _, hwords, hdistinct, ?_⟩
  simp only [CodecSettings.fields, List.forall_mem_cons]
  exact ⟨h, word_level _, hsize _, hsize _, List.forall_mem_nil _⟩

theorem tidied_logging {s : LoggingSettings} (h : Word s.level) : Tidied Field.Fits s.fields := by
  have hwords : ∀ k ∈ ["level", "colored_output"], Word k := by decide +kernel
  have hdistinct : ["level", "colored_output"].Nodup := by decide
  refine ⟨List.cons_ne_nil _ _, hwords, hdistinct, ?_⟩
  simp only [LoggingSettings.fields, List.forall_mem_cons]
  exact ⟨h, trivial, List.forall_mem_nil _⟩

/-- Settings that name words make a document that needs no quotes. -/
theorem Settings.tidy_sections {s : Settings} (hcodec : Word s.codec.codec)
    (hlevel : Word s.logging.level) : Tidy s.sections := by
  have hwords : ∀ k ∈ ["codec", "logging"], Word k := by decide +kernel
  have hdistinct : ["codec", "logging"].Nodup := by decide
  refine ⟨List.cons_ne_nil _ _, hwords, hdistinct, ?_⟩
  simp only [Settings.sections, List.forall_mem_cons]
  exact ⟨tidied_codec hcodec, tidied_logging hlevel, List.forall_mem_nil _⟩

end StreamCodec.Config
