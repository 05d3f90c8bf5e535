import Mathlib.Tactic.ByContra
import StreamCodec.Gzip.Header

/-!
What a header comes to does not change with the bytes behind it: a fault stays a fault, a
length stays that length, and the bytes of a header alone already tell its length.
-/

namespace StreamCodec.Gzip.Header

variable {a b r : ByteArray}

theorem behindZero_bounds {i n j : Nat} (h : behindZero b i n = some j) : i < j ∧ j ≤ i + n := by
  induction n generalizing i with
  | zero => cases h
  | succ n ih =>
    rw [behindZero] at h
    split at h
    · cases h
      omega
    · have hj := ih h
      omega

theorem behindZero_append (a r : ByteArray) {i n : Nat} (h : i + n ≤ a.size) :
    behindZero (a ++ r) i n = behindZero a i n := by
  induction n generalizing i with
  | zero => rfl
  | succ n ih =>
    rw [behindZero, behindZero, Bytes.getElem?_append_left a r (by omega), ih (by omega)]

theorem behindZero_mono {i n m j : Nat} (h : behindZero b i n = some j) (hnm : n ≤ m) :
    behindZero b i m = some j := by
  induction n generalizing i m with
  | zero => cases h
  | succ n ih =>
    obtain ⟨m, rfl⟩ : ∃ k, m = k + 1 := ⟨m - 1, by omega⟩
    rw [behindZero] at h ⊢
    split at h
    · next hzero => rw [if_pos hzero, h]
    · next hzero => rw [if_neg hzero, ih h (by omega)]

theorem behindZero_of_le {i n m j : Nat} (h : behindZero b i m = some j) (hj : j ≤ i + n) :
    behindZero b i n = some j := by
  induction m generalizing i n with
  | zero => cases h
  | succ m ih =>
    have hij := (behindZero_bounds h).1
    obtain ⟨n, rfl⟩ : ∃ k, n = k + 1 := ⟨n - 1, by omega⟩
    rw [behindZero] at h ⊢
    split at h
    · next hzero => rw [if_pos hzero, h]
    · next hzero => rw [if_neg hzero, ih h (by omega)]

/-- A field whose end is the same whatever comes behind it, and which its own bytes already tell. -/
structure Settles (skip : ByteArray → Nat → Option Nat) : Prop where
  le : ∀ {b i j}, skip b i = some j → i ≤ j
  append : ∀ {a i j}, skip a i = some j → ∀ r, skip (a ++ r) i = some j
  of_append : ∀ {a r i j}, skip (a ++ r) i = some j → j ≤ a.size → skip a i = some j

theorem settles_skipText (present : Bool) : Settles (skipText · present) where
  le := by
    intro b i j h
    simp only [skipText] at h
    split at h
    · have hij := behindZero_bounds h
      omega
    · cases h
      exact Nat.le_refl i
  append := by
    intro a i j h r
    simp only [skipText] at h ⊢
    split at h
    · next hpresent =>
      have hij := behindZero_bounds h
      rw [if_pos hpresent]
      rw [← behindZero_append a r (by omega)] at h
      exact behindZero_mono h (by rw [ByteArray.size_append]; omega)
    · next hpresent => rw [if_neg hpresent, h]
  of_append := by
    intro a r i j h hj
    simp only [skipText] at h ⊢
    split at h
    · next hpresent =>
      have hij := behindZero_bounds h
      rw [if_pos hpresent, ← behindZero_append a r (by omega)]
      exact behindZero_of_le h (by omega)
    · next hpresent => rw [if_neg hpresent, h]

theorem settles_skipExtra (present : Bool) : Settles (skipExtra · present) where
  le := by
    intro b i j h
    simp only [skipExtra] at h
    split at h
    · split at h
      · cases h
        omega
      · cases h
    · cases h
      exact Nat.le_refl i
  append := by
    intro a i j h r
    simp only [skipExtra] at h ⊢
    split at h
    · next hpresent =>
      split at h
      · next hsize =>
        rw [if_pos hpresent, if_pos (by rw [ByteArray.size_append]; omega),
          Bytes.le_append a r hsize, h]
      · cases h
    · next hpresent => rw [if_neg hpresent, h]
  of_append := by
    intro a r i j h hj
    simp only [skipExtra] at h ⊢
    split at h
    · next hpresent =>
      split at h
      · have hsize : i + 2 ≤ a.size := by
          cases h
          omega
        rw [if_pos hpresent, if_pos hsize, ← Bytes.le_append a r hsize, h]
      · cases h
    · next hpresent => rw [if_neg hpresent, h]

/-- One field behind the other. -/
theorem Settles.bind {skip skip' : ByteArray → Nat → Option Nat} (h : Settles skip)
    (h' : Settles skip') :
    Settles fun b i => (skip b i).bind (skip' b) where
  le := by
    intro b i k hk
    obtain ⟨j, hj, hk⟩ := Option.bind_eq_some_iff.mp hk
    exact Nat.le_trans (h.le hj) (h'.le hk)
  append := by
    intro a i k hk r
    obtain ⟨j, hj, hk⟩ := Option.bind_eq_some_iff.mp hk
    exact Option.bind_eq_some_iff.mpr ⟨j, h.append hj r, h'.append hk r⟩
  of_append := by
    intro a r i k hk hle
    obtain ⟨j, hj, hk⟩ := Option.bind_eq_some_iff.mp hk
    have hjk := h'.le hk
    exact Option.bind_eq_some_iff.mpr
      ⟨j, h.of_append hj (Nat.le_trans hjk hle), h'.of_append hk hle⟩

def behindFields (f : Flags) (b : ByteArray) (i : Nat) : Option Nat :=
  (skipExtra b f.extra i).bind fun j => (skipText b f.name j).bind (skipText b f.comment)

theorem settles_behindFields (f : Flags) : Settles (behindFields f) :=
  (settles_skipExtra f.extra).bind ((settles_skipText f.name).bind (settles_skipText f.comment))

theorem skipFields_eq (b : ByteArray) (f : Flags) : skipFields b f = behindFields f b 10 := rfl

theorem skipChecksum_le {present : Bool} {i n : Nat} (h : skipChecksum b present i = .ok (some n)) :
    i ≤ n := by
  unfold skipChecksum at h
  split at h
  · split at h
    · split at h
      · cases h
        omega
      · cases h
    · cases h
  · cases h
    exact Nat.le_refl i

theorem skipChecksum_append {present : Bool} {i : Nat} (h : skipChecksum a present i ≠ .ok none)
    (r : ByteArray) : skipChecksum (a ++ r) present i = skipChecksum a present i := by
  unfold skipChecksum at h ⊢
  by_cases hpresent : present = true
  · rw [if_pos hpresent] at h ⊢
    rw [if_pos hpresent]
    by_cases hsize : i + 2 ≤ a.size
    · rw [if_pos hsize, if_pos (by rw [ByteArray.size_append]; omega), Bytes.le_append a r hsize,
        Bytes.extract_append_left a r (by omega)]
    · rw [if_neg hsize] at h
      exact absurd rfl h
  · rw [if_neg hpresent, if_neg hpresent]

theorem skipChecksum_of_append {present : Bool} {i n : Nat}
    (h : skipChecksum (a ++ r) present i = .ok (some n)) (hn : n ≤ a.size) :
    skipChecksum a present i = .ok (some n) := by
  have hle := skipChecksum_le h
  rw [← h]
  refine (skipChecksum_append ?_ r).symm
  intro hnone
  unfold skipChecksum at h hnone
  by_cases hpresent : present = true
  · rw [if_pos hpresent] at h hnone
    by_cases hsize : i + 2 ≤ a.size
    · rw [if_pos hsize] at hnone
      split at hnone <;> cases hnone
    · split at h
      · split at h
        · cases h
          omega
        · cases h
      · cases h
  · rw [if_neg hpresent] at hnone
    cases hnone

def flags (b : ByteArray) : Flags := Flags.ofByte (b[3]?.getD 0)

def badMagic (b : ByteArray) : Bool := b[0]?.any (· != 0x1f) || b[1]?.any (· != 0x8b)

def badMethod (b : ByteArray) : Bool := b[2]?.any (· != 8)

/-- The first ten bytes are there, and they announce a header. -/
structure Opens (b : ByteArray) : Prop where
  magic : badMagic b = false
  method : badMethod b = false
  size_le : 10 ≤ b.size
  reserved : (flags b).reserved = false

theorem any_append {p : UInt8 → Bool} {i : Nat} (h : (a[i]?).any p = true) (r : ByteArray) :
    ((a ++ r)[i]?).any p = true := by
  by_cases hi : i < a.size
  · rw [Bytes.getElem?_append_left a r hi, h]
  · rw [getElem?_neg a i hi] at h
    cases h

theorem badMagic_append (r : ByteArray) (h : badMagic a = true) : badMagic (a ++ r) = true := by
  simp only [badMagic, Bool.or_eq_true] at h ⊢
  exact h.imp (any_append · r) (any_append · r)

theorem badMethod_append (r : ByteArray) (h : badMethod a = true) : badMethod (a ++ r) = true :=
  any_append h r

theorem badMagic_append_eq (r : ByteArray) (h : 2 ≤ a.size) : badMagic (a ++ r) = badMagic a := by
  simp only [badMagic, Bytes.getElem?_append_left a r (show 0 < a.size by omega),
    Bytes.getElem?_append_left a r (show 1 < a.size by omega)]

theorem badMethod_append_eq (r : ByteArray) (h : 3 ≤ a.size) :
    badMethod (a ++ r) = badMethod a := by
  simp only [badMethod, Bytes.getElem?_append_left a r (show 2 < a.size by omega)]

theorem flags_append (r : ByteArray) (h : 4 ≤ a.size) : flags (a ++ r) = flags a := by
  simp only [flags, Bytes.getElem?_append_left a r (show 3 < a.size by omega)]

theorem opens_append_iff (r : ByteArray) (h : 10 ≤ a.size) : Opens (a ++ r) ↔ Opens a := by
  have hmagic := badMagic_append_eq r (show 2 ≤ a.size by omega)
  have hmethod := badMethod_append_eq r (show 3 ≤ a.size by omega)
  have hflags := flags_append r (show 4 ≤ a.size by omega)
  constructor
  · intro ho
    exact ⟨hmagic ▸ ho.magic, hmethod ▸ ho.method, h, hflags ▸ ho.reserved⟩
  · intro ho
    refine ⟨hmagic ▸ ho.magic, hmethod ▸ ho.method, ?_, hflags ▸ ho.reserved⟩
    rw [ByteArray.size_append]
    omega

def rest (b : ByteArray) : Except Fault (Option Nat) :=
  match skipFields b (flags b) with
  | none => .ok none
  | some i =>
    match skipChecksum b (flags b).checksum i with
    | .error e => .error e
    | .ok none => .ok none
    | .ok (some n) => .ok (if n ≤ b.size then some n else none)

theorem parse_eq (b : ByteArray) :
    parse b =
      if badMagic b then .error .magic
      else if badMethod b then .error .method
      else if b.size < 10 then .ok none
      else if (flags b).reserved then .error .reservedFlags
      else rest b := rfl

theorem parse_of_opens (h : Opens b) : parse b = rest b := by
  have hsize := h.size_le
  rw [parse_eq, h.magic, h.method, h.reserved, if_neg Bool.false_ne_true, if_neg Bool.false_ne_true,
    if_neg (by omega), if_neg Bool.false_ne_true]

theorem rest_eq_some {n : Nat} :
    rest b = .ok (some n) ↔ ∃ i, behindFields (flags b) b 10 = some i ∧
      skipChecksum b (flags b).checksum i = .ok (some n) ∧ n ≤ b.size := by
  unfold rest
  rw [skipFields_eq]
  constructor
  · intro h
    split at h
    · cases h
    · next i hi =>
      split at h
      · cases h
      · cases h
      · next m hm =>
        split at h
        · next hle =>
          cases h
          exact ⟨i, hi, hm, hle⟩
        · cases h
  · rintro ⟨i, hi, hn, hle⟩
    simp only [hi, hn, if_pos hle]

theorem parse_eq_some {n : Nat} : parse b = .ok (some n) ↔ Opens b ∧ rest b = .ok (some n) := by
  constructor
  · intro h
    rw [parse_eq] at h
    split at h
    · cases h
    · next hmagic =>
      split at h
      · cases h
      · next hmethod =>
        split at h
        · cases h
        · next hsize =>
          split at h
          · cases h
          · next hreserved =>
            exact ⟨⟨Bool.not_eq_true _ ▸ hmagic, Bool.not_eq_true _ ▸ hmethod, by omega,
              Bool.not_eq_true _ ▸ hreserved⟩, h⟩
  · rintro ⟨hopens, hrest⟩
    rw [parse_of_opens hopens, hrest]

/-- The length of a header that was found. -/
theorem parse_bounds {n : Nat} (h : parse b = .ok (some n)) : 10 ≤ n ∧ n ≤ b.size := by
  obtain ⟨i, hi, hn, hle⟩ := rest_eq_some.mp (parse_eq_some.mp h).2
  have h₁ := (settles_behindFields _).le hi
  have h₂ := skipChecksum_le hn
  exact ⟨by omega, hle⟩

/-- A header is found whatever comes behind the bytes that hold it. -/
theorem parse_append {n : Nat} (h : parse a = .ok (some n)) (r : ByteArray) :
    parse (a ++ r) = .ok (some n) := by
  obtain ⟨hopens, hrest⟩ := parse_eq_some.mp h
  obtain ⟨i, hi, hn, hle⟩ := rest_eq_some.mp hrest
  have hsize := hopens.size_le
  refine parse_eq_some.mpr ⟨(opens_append_iff r hsize).mpr hopens, rest_eq_some.mpr ⟨i, ?_, ?_, ?_⟩⟩
  · rw [flags_append r (by omega)]
    exact (settles_behindFields _).append hi r
  · rw [flags_append r (by omega), skipChecksum_append (by rw [hn]; exact fun h => by cases h), hn]
  · rw [ByteArray.size_append]
    omega

/-- A header is found in any front that holds it. -/
theorem parse_of_append {n : Nat} (h : parse (a ++ r) = .ok (some n)) (hn : n ≤ a.size) :
    parse a = .ok (some n) := by
  obtain ⟨hopens, hrest⟩ := parse_eq_some.mp h
  obtain ⟨i, hi, hsum, _⟩ := rest_eq_some.mp hrest
  have h₁ := (settles_behindFields _).le hi
  have h₂ := skipChecksum_le hsum
  rw [flags_append r (by omega)] at hi hsum
  exact parse_eq_some.mpr ⟨(opens_append_iff r (by omega)).mp hopens,
    rest_eq_some.mpr ⟨i, (settles_behindFields _).of_append hi (by omega),
      skipChecksum_of_append hsum hn, hn⟩⟩

theorem rest_error_append {f : Fault} (h : rest a = .error f) (hsize : 4 ≤ a.size) (r : ByteArray) :
    rest (a ++ r) = .error f := by
  unfold rest at h ⊢
  rw [skipFields_eq] at h
  rw [flags_append r hsize, skipFields_eq]
  split at h
  · cases h
  · next i hi =>
    split at h
    · next e he =>
      cases h
      have hchecksum := skipChecksum_append (by rw [he]; exact fun h => by cases h) r
      simp only [(settles_behindFields _).append hi r, hchecksum, he]
    · cases h
    · cases h

/-- A fault stays whatever comes behind. -/
theorem parse_error_append {f : Fault} (h : parse a = .error f) (r : ByteArray) :
    parse (a ++ r) = .error f := by
  rw [parse_eq] at h
  split at h
  · next hmagic => rw [parse_eq, if_pos (badMagic_append r hmagic), h]
  · next hmagic =>
    split at h
    · next hmethod =>
      have hsize : 3 ≤ a.size := by
        by_contra hlt
        simp only [badMethod, getElem?_neg a 2 (by omega), Option.any_none] at hmethod
        cases hmethod
      rw [parse_eq, badMagic_append_eq r (by omega), if_neg hmagic,
        if_pos (badMethod_append r hmethod), h]
    · next hmethod =>
      split at h
      · cases h
      · next hsize =>
        rw [parse_eq, badMagic_append_eq r (by omega), if_neg hmagic,
          badMethod_append_eq r (by omega),
          if_neg hmethod, if_neg (by rw [ByteArray.size_append]; omega), flags_append r (by omega)]
        split at h
        · next hreserved => rw [if_pos hreserved, h]
        · next hreserved =>
          rw [if_neg hreserved, rest_error_append h (by omega) r]

/-- What was said once stays true of more bytes. -/
theorem parse_append_of_settled (h : parse a ≠ .ok none) (r : ByteArray) :
    parse (a ++ r) = parse a := by
  rcases hparse : parse a with f | _ | n
  · exact parse_error_append hparse r
  · exact absurd hparse h
  · exact parse_append hparse r

/-- A front that ends before the header leaves its length open. -/
theorem parse_front_open {n m : Nat} (h : parse b = .ok (some n)) (hm : m < n) :
    parse (b.extract 0 m) = .ok none := by
  by_contra hsettled
  have hwhole := parse_append_of_settled hsettled (b.extract m b.size)
  rw [Bytes.front_append_rest, h] at hwhole
  have hle := (parse_bounds hwhole.symm).2
  rw [ByteArray.size_extract] at hle
  omega

end StreamCodec.Gzip.Header
