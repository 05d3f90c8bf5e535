/-!
Byte strings: blank windows, little-endian numbers, and a slice that is read from
its front. A slice names the rest of a byte string without copying it.
-/

namespace StreamCodec

namespace Bytes

/-- Doubles a byte string until it has at least `n` bytes; `rounds` bounds the doublings. -/
def grow (n : Nat) (b : ByteArray) : Nat → ByteArray
  | 0 => b
  | rounds + 1 => if n ≤ b.size then b else grow n (b ++ b) rounds

def replicate (n : Nat) (x : UInt8) : ByteArray :=
  if n = 0 then ByteArray.empty
  else
    let b := grow n (ByteArray.empty.push x) n.log2.succ
    b.extract 0 n

def blank (n : Nat) : ByteArray := replicate n 0

theorem size_grow (n : Nat) (b : ByteArray) (rounds : Nat) :
    min n (b.size * Nat.pow 2 rounds) ≤ (grow n b rounds).size := by
  induction rounds generalizing b with
  | zero =>
    simp only [grow, Nat.pow_eq, Nat.pow_zero, Nat.mul_one]
    omega
  | succ rounds ih =>
    rw [grow]
    by_cases h : n ≤ b.size
    · rw [if_pos h]
      omega
    · rw [if_neg h]
      have hdouble : (b ++ b).size * Nat.pow 2 rounds = b.size * Nat.pow 2 (rounds + 1) := by
        simp only [ByteArray.size_append, Nat.pow_eq, Nat.pow_succ,
          Nat.mul_comm (2 ^ rounds), ← Nat.mul_assoc]
        rw [← Nat.two_mul, Nat.mul_comm 2]
      have hsize := ih (b ++ b)
      rw [hdouble] at hsize
      exact hsize

@[simp] theorem size_replicate (n : Nat) (x : UInt8) : (replicate n x).size = n := by
  unfold replicate
  by_cases h : n = 0
  · rw [if_pos h, h]
    rfl
  · rw [if_neg h]
    have hsize := size_grow n (ByteArray.empty.push x) n.log2.succ
    have hlog : n < Nat.pow 2 n.log2.succ := Nat.lt_log2_self
    have hone : (ByteArray.empty.push x).size = 1 := rfl
    rw [hone, Nat.one_mul] at hsize
    simp only [ByteArray.size_extract]
    omega

@[simp] theorem size_blank (n : Nat) : (blank n).size = n := size_replicate n 0

def zeros (n : Nat) : ByteArray := ⟨Array.replicate n 0⟩

@[simp] theorem size_zeros (n : Nat) : (zeros n).size = n := Array.size_replicate

theorem zeros_append (m n : Nat) : zeros m ++ zeros n = zeros (m + n) := by
  apply ByteArray.ext
  rw [ByteArray.data_append]
  exact Array.replicate_append_replicate

theorem grow_zeros (n m rounds : Nat) : ∃ k, grow n (zeros m) rounds = zeros k := by
  induction rounds generalizing m with
  | zero => exact ⟨m, rfl⟩
  | succ rounds ih =>
    rw [grow]
    split
    · exact ⟨m, rfl⟩
    · rw [zeros_append]
      exact ih (m + m)

/-- A blank window holds zero bytes and nothing else. -/
theorem blank_eq_zeros (n : Nat) : blank n = zeros n := by
  have hsize := size_blank n
  have hzero : ∃ k, blank n = (zeros k).extract 0 n := by
    rw [blank, replicate]
    split
    · next hn =>
      subst hn
      exact ⟨0, rfl⟩
    · obtain ⟨k, hk⟩ := grow_zeros n 1 n.log2.succ
      exact ⟨k, congrArg (·.extract 0 n) hk⟩
  obtain ⟨k, hk⟩ := hzero
  rw [hk, ByteArray.size_extract, size_zeros] at hsize
  rw [hk]
  apply ByteArray.ext
  rw [ByteArray.data_extract, zeros, zeros, Array.extract_replicate, hsize]

def ofList (l : List UInt8) : ByteArray := ⟨l.toArray⟩

def littleEndian : Nat → Nat → List UInt8
  | 0, _ => []
  | n + 1, x => x.toUInt8 :: littleEndian n (x / 256)

def ofLittleEndian : List UInt8 → Nat
  | [] => 0
  | b :: bs => b.toNat + 256 * ofLittleEndian bs

def bigEndian (n x : Nat) : List UInt8 := (littleEndian n x).reverse

theorem ofLittleEndian_littleEndian (n x : Nat) :
    ofLittleEndian (littleEndian n x) = x % Nat.pow 256 n := by
  induction n generalizing x with
  | zero => simp [littleEndian, ofLittleEndian, Nat.mod_one]
  | succ n ih =>
    simp only [littleEndian, ofLittleEndian, ih]
    have pow : Nat.pow 256 (n + 1) = 256 * Nat.pow 256 n := Nat.mul_comm _ _
    rw [pow, Nat.mod_mul]
    simp

/-- The `n`-byte little-endian number at position `i`; bytes beyond the end count as zero. -/
def le (b : ByteArray) (i n : Nat) : Nat :=
  match n with
  | 0 => 0
  | n + 1 => (b[i]?.getD 0).toNat + 256 * le b (i + 1) n

def startsWith (b : ByteArray) (l : List UInt8) : Bool :=
  (b.extract 0 l.length).data.toList == l

theorem extract_of_size_le (b : ByteArray) {i j : Nat} (h : b.size ≤ j) :
    b.extract i j = b.extract i b.size := by
  apply ByteArray.ext
  rw [ByteArray.data_extract, ByteArray.data_extract, Array.extract_eq_extract_right]
  simp only [ByteArray.size_data]
  omega

theorem extract_append_left (a b : ByteArray) {i j : Nat} (h : j ≤ a.size) :
    (a ++ b).extract i j = a.extract i j := by
  have hnone : b.extract (i - a.size) (j - a.size) = ByteArray.empty := by
    rw [ByteArray.extract_eq_empty_iff]
    omega
  rw [ByteArray.extract_append, hnone, ByteArray.append_empty]

theorem extract_append_right (a b : ByteArray) (i j : Nat) :
    (a ++ b).extract (a.size + i) (a.size + j) = b.extract i j := by
  have hnone : a.extract (a.size + i) (a.size + j) = ByteArray.empty := by
    rw [ByteArray.extract_eq_empty_iff]
    omega
  rw [ByteArray.extract_append, hnone, ByteArray.empty_append, Nat.add_sub_cancel_left,
    Nat.add_sub_cancel_left]

theorem extract_min_size (b : ByteArray) (i j : Nat) :
    b.extract i (min j b.size) = b.extract i j := by
  by_cases h : b.size ≤ j
  · rw [Nat.min_eq_right h, extract_of_size_le b h]
  · rw [Nat.min_eq_left (by omega)]

/-- A front that holds all of `a`. -/
theorem extract_append_of_le (a b : ByteArray) {n : Nat} (h : a.size ≤ n) :
    (a ++ b).extract 0 n = a ++ b.extract 0 (n - a.size) := by
  rw [ByteArray.extract_append, extract_of_size_le a h, ByteArray.extract_zero_size, Nat.zero_sub]

theorem extract_rest_append (a b : ByteArray) {n : Nat} (h : n ≤ a.size) :
    (a ++ b).extract n (a ++ b).size = a.extract n a.size ++ b := by
  have hnone : n - a.size = 0 := by omega
  rw [ByteArray.extract_append, hnone, extract_of_size_le a (by simp), ByteArray.size_append,
    Nat.add_sub_cancel_left, ByteArray.extract_zero_size]

theorem front_append_rest (b : ByteArray) (n : Nat) :
    b.extract 0 n ++ b.extract n b.size = b := by
  rw [ByteArray.extract_append_extract, Nat.zero_min, extract_of_size_le b (Nat.le_max_right _ _),
    ByteArray.extract_zero_size]

theorem getElem?_append_left (a b : ByteArray) {i : Nat} (h : i < a.size) :
    (a ++ b)[i]? = a[i]? := by
  have hi : i < (a ++ b).size := by
    rw [ByteArray.size_append]
    omega
  rw [getElem?_pos (a ++ b) i hi, getElem?_pos a i h, ByteArray.getElem_append_left h]

theorem getElem?_extract (b : ByteArray) {i j x : Nat} (h : i + x < j) :
    (b.extract i j)[x]? = b[i + x]? := by
  by_cases hb : i + x < b.size
  · have hx : x < (b.extract i j).size := by
      rw [ByteArray.size_extract]
      omega
    rw [getElem?_pos (b.extract i j) x hx, getElem?_pos b (i + x) hb, ByteArray.getElem_extract]
  · have hx : ¬ x < (b.extract i j).size := by
      rw [ByteArray.size_extract]
      omega
    rw [getElem?_neg (b.extract i j) x hx, getElem?_neg b (i + x) hb]

theorem le_append (a b : ByteArray) {i n : Nat} (h : i + n ≤ a.size) :
    le (a ++ b) i n = le a i n := by
  induction n generalizing i with
  | zero => rfl
  | succ n ih => rw [le, le, getElem?_append_left a b (by omega), ih (by omega)]

theorem le_extract (b : ByteArray) {i j x n : Nat} (h : i + x + n ≤ j) :
    le (b.extract i j) x n = le b (i + x) n := by
  induction n generalizing x with
  | zero => rfl
  | succ n ih => rw [le, le, getElem?_extract b (by omega), ih (by omega), Nat.add_assoc]

@[simp] theorem size_ofList (l : List UInt8) : (ofList l).size = l.length := by
  rw [← ByteArray.size_data]
  exact List.size_toArray

theorem getElem?_ofList (l : List UInt8) (i : Nat) : (ofList l)[i]? = l[i]? := by
  by_cases h : i < l.length
  · rw [getElem?_pos (ofList l) i (by rw [size_ofList]; exact h), getElem?_pos l i h]
    rfl
  · rw [getElem?_neg (ofList l) i (by rw [size_ofList]; exact h), getElem?_neg l i h]

theorem ofList_append (l m : List UInt8) : ofList (l ++ m) = ofList l ++ ofList m := by
  apply ByteArray.ext
  simp only [ofList, ByteArray.data_append, List.append_toArray]

theorem le_ofList (l : List UInt8) (i n : Nat) :
    le (ofList l) i n = ofLittleEndian ((l.drop i).take n) := by
  induction n generalizing i with
  | zero => rfl
  | succ n ih =>
    rw [le, ih, getElem?_ofList]
    by_cases h : i < l.length
    · rw [List.drop_eq_getElem_cons h, List.take_succ_cons, ofLittleEndian,
        List.getElem?_eq_getElem h,
        Option.getD_some]
    · rw [List.drop_eq_nil_of_le (by omega), List.drop_eq_nil_of_le (by omega),
        List.getElem?_eq_none (by omega), List.take_nil, List.take_nil]
      rfl

theorem startsWith_iff {b : ByteArray} {l : List UInt8} :
    startsWith b l = true ↔ ∃ rest, b = ofList l ++ rest := by
  rw [startsWith, beq_iff_eq]
  constructor
  · intro h
    refine ⟨b.extract l.length b.size, ?_⟩
    have hfront : b.extract 0 l.length = ofList l := ByteArray.ext (Array.ext' h)
    rw [← hfront, front_append_rest]
  · rintro ⟨rest, rfl⟩
    rw [← size_ofList l, extract_append_left _ _ (Nat.le_refl _), ByteArray.extract_zero_size]
    rfl

theorem startsWith_append {b : ByteArray} {l : List UInt8} (h : startsWith b l = true)
    (r : ByteArray) :
    startsWith (b ++ r) l = true := by
  obtain ⟨rest, rfl⟩ := startsWith_iff.mp h
  exact startsWith_iff.mpr ⟨rest ++ r, ByteArray.append_assoc⟩

theorem startsWith_of_append {b : ByteArray} {l m : List UInt8} (h : startsWith b (l ++ m) = true) :
    startsWith b l = true := by
  obtain ⟨rest, rfl⟩ := startsWith_iff.mp h
  exact startsWith_iff.mpr ⟨ofList m ++ rest, by rw [ofList_append, ByteArray.append_assoc]⟩

theorem getElem?_of_startsWith {b : ByteArray} {l : List UInt8} (h : startsWith b l = true)
    {i : Nat} (hi : i < l.length) : b[i]? = l[i]? := by
  obtain ⟨rest, rfl⟩ := startsWith_iff.mp h
  rw [getElem?_append_left _ _ (by rw [size_ofList]; exact hi), getElem?_ofList]

theorem getElem?_toList (b : ByteArray) (i : Nat) : b.data.toList[i]? = b[i]? := by
  rw [Array.getElem?_toList]
  by_cases h : i < b.size
  · rw [getElem?_pos b i h, getElem?_pos b.data i (by rw [ByteArray.size_data]; exact h)]
    rfl
  · rw [getElem?_neg b i h, getElem?_neg b.data i (by rw [ByteArray.size_data]; exact h)]

theorem startsWith_of_getElem? {b : ByteArray} {l : List UInt8}
    (h : ∀ i < l.length, b[i]? = l[i]?) :
    startsWith b l = true := by
  rw [startsWith, beq_iff_eq]
  apply List.ext_getElem?
  intro i
  rw [getElem?_toList]
  by_cases hi : i < l.length
  · rw [getElem?_extract b (by omega), Nat.zero_add, h i hi]
  · have hsize : ¬ i < (b.extract 0 l.length).size := by
      rw [ByteArray.size_extract]
      omega
    rw [getElem?_neg _ i hsize, getElem?_neg l i hi]

/-- A byte string that starts with two lists has one of them at the start of the other. -/
theorem isPrefixOf_of_startsWith {b : ByteArray} {l m : List UInt8} (hl : startsWith b l = true)
    (hm : startsWith b m = true) (hle : l.length ≤ m.length) : l.isPrefixOf m = true := by
  rw [List.isPrefixOf_iff_prefix, List.prefix_iff_getElem?]
  intro i hi
  rw [← List.getElem?_eq_getElem hi, ← getElem?_of_startsWith hm (by omega),
    getElem?_of_startsWith hl hi]

@[simp] theorem length_littleEndian (n x : Nat) : (littleEndian n x).length = n := by
  induction n generalizing x with
  | zero => rfl
  | succ n ih => rw [littleEndian, List.length_cons, ih]

/-- Two pieces of a byte string with nothing between them. -/
theorem extract_glue (b : ByteArray) {i j k : Nat} (hij : i ≤ j) (hjk : j ≤ k) :
    b.extract i j ++ b.extract j k = b.extract i k := by
  rw [ByteArray.extract_append_extract, Nat.min_eq_left hij, Nat.max_eq_right hjk]

theorem ofList_cons (x : UInt8) (l : List UInt8) : ofList (x :: l) = ofList [x] ++ ofList l :=
  ofList_append [x] l

theorem push_eq_append (b : ByteArray) (x : UInt8) : b.push x = b ++ ofList [x] := by
  apply ByteArray.ext
  rw [ByteArray.data_append, ByteArray.data_push, Array.push_eq_append]
  rfl

theorem extract_one {b : ByteArray} {i : Nat} {x : UInt8} (h : b[i]? = some x) :
    b.extract i (i + 1) = ofList [x] := by
  have hi : i < b.size := by
    apply Nat.lt_of_not_le
    intro hge
    rw [getElem?_neg b i (Nat.not_lt.mpr hge)] at h
    cases h
  have hstarts : startsWith (b.extract i (i + 1)) [x] = true := by
    apply startsWith_of_getElem?
    intro k hk
    have hzero : k = 0 := by simpa using hk
    subst hzero
    rw [getElem?_extract b (by omega), Nat.add_zero, h]
    rfl
  obtain ⟨rest, hrest⟩ := startsWith_iff.mp hstarts
  have hsize := congrArg ByteArray.size hrest
  rw [ByteArray.size_extract, ByteArray.size_append, size_ofList, List.length_singleton] at hsize
  have hnone : rest = ByteArray.empty := ByteArray.size_eq_zero_iff.mp (by omega)
  rw [hrest, hnone, ByteArray.append_empty]

theorem getElem?_append_right (a b : ByteArray) (i : Nat) : (a ++ b)[a.size + i]? = b[i]? := by
  have hrest : (a ++ b).extract a.size (a.size + (i + 1)) = b.extract 0 (i + 1) := by
    have happend := extract_append_right a b 0 (i + 1)
    rw [Nat.add_zero] at happend
    exact happend
  have hleft := getElem?_extract (a ++ b) (show a.size + i < a.size + (i + 1) by omega)
  have hright := getElem?_extract b (show 0 + i < i + 1 by omega)
  rw [hrest, hright, Nat.zero_add] at hleft
  exact hleft.symm

theorem le_lt (b : ByteArray) (i n : Nat) : le b i n < Nat.pow 256 n := by
  induction n generalizing i with
  | zero => exact Nat.one_pos
  | succ n ih =>
    have hlater := ih (i + 1)
    have hbyte := (b[i]?.getD 0).toNat_lt
    have hpow : Nat.pow 256 (n + 1) = 256 * Nat.pow 256 n := Nat.mul_comm _ _
    rw [le, hpow]
    omega

/-- The bytes that a little-endian number was read from. -/
theorem ofList_le (b : ByteArray) {i n : Nat} (h : i + n ≤ b.size) :
    ofList (littleEndian n (le b i n)) = b.extract i (i + n) := by
  induction n generalizing i with
  | zero =>
    rw [Nat.add_zero, ByteArray.extract_same]
    rfl
  | succ n ih =>
    have hi : b[i]? = some b[i] := getElem?_pos b i (by omega)
    have hlow : (le b i (n + 1)).toUInt8 = b[i] := by
      rw [le, hi, Option.getD_some]
      apply UInt8.toNat_inj.mp
      rw [UInt8.toNat_ofNat']
      have hbyte := b[i].toNat_lt
      omega
    have hhigh : le b i (n + 1) / 256 = le b (i + 1) n := by
      have hbyte := (b[i]?.getD 0).toNat_lt
      rw [le]
      omega
    rw [littleEndian, hlow, hhigh, ofList_cons, ih (by omega), ← extract_one hi,
      extract_glue b (by omega) (by omega), Nat.add_assoc, Nat.add_comm 1]

theorem le_of_extract {b : ByteArray} {i n x : Nat}
    (h : b.extract i (i + n) = ofList (littleEndian n x)) (hx : x < Nat.pow 256 n) :
    le b i n = x := by
  have hread := le_extract b (show i + 0 + n ≤ i + n by omega)
  have htake : ((littleEndian n x).drop 0).take n = littleEndian n x := by
    rw [List.drop_zero, List.take_of_length_le (Nat.le_of_eq (length_littleEndian n x))]
  rw [Nat.add_zero] at hread
  rw [← hread, h, le_ofList, htake, ofLittleEndian_littleEndian, Nat.mod_eq_of_lt hx]

/-- Appends `n` bytes, each one `distance` behind the end. Before the start there are zeros. -/
def copyBack (out : ByteArray) (distance : Nat) : Nat → ByteArray
  | 0 => out
  | n + 1 =>
    let x := if distance ≤ out.size then out[out.size - distance]?.getD 0 else 0
    copyBack (out.push x) distance n

end Bytes

/-- The rest of `bytes` from position `start` on. -/
structure Slice where
  bytes : ByteArray
  start : Nat := 0

namespace Slice

def size (s : Slice) : Nat := s.bytes.size - s.start

def toBytes (s : Slice) : ByteArray := s.bytes.extract s.start s.bytes.size

def isEmpty (s : Slice) : Bool := s.bytes.size ≤ s.start

def take (s : Slice) (n : Nat) : ByteArray := s.bytes.extract s.start (s.start + n)

def drop (s : Slice) (n : Nat) : Slice := { s with start := s.start + n }

@[simp] theorem size_toBytes (s : Slice) : s.toBytes.size = s.size := by
  simp [toBytes, size]

@[simp] theorem toBytes_mk (b : ByteArray) : toBytes { bytes := b } = b :=
  ByteArray.extract_zero_size

theorem size_take (s : Slice) (n : Nat) : (s.take n).size = min n s.size := by
  simp only [take, size, ByteArray.size_extract]
  omega

theorem size_take_le (s : Slice) (n : Nat) : (s.take n).size ≤ n := by
  rw [size_take]
  exact Nat.min_le_left n s.size

@[simp] theorem size_drop (s : Slice) (n : Nat) : (s.drop n).size = s.size - n := by
  simp only [drop, size]
  omega

@[simp] theorem drop_zero (s : Slice) : s.drop 0 = s := rfl

theorem isEmpty_iff {s : Slice} : s.isEmpty = true ↔ s.size = 0 := by
  simp only [isEmpty, size, decide_eq_true_eq]
  omega

theorem isEmpty_eq_false_iff {s : Slice} : s.isEmpty = false ↔ 0 < s.size := by
  rw [← Bool.not_eq_true, isEmpty_iff, Nat.pos_iff_ne_zero]

theorem isEmpty_iff_toBytes {s : Slice} : s.isEmpty = true ↔ s.toBytes.size = 0 := by
  rw [isEmpty_iff, size_toBytes]

/-- Where `n` bytes leave something behind, there are `n` of them. -/
theorem size_take_of_rest {s : Slice} {n : Nat} (h : (s.drop (s.take n).size).isEmpty = false) :
    (s.take n).size = n := by
  rw [isEmpty_eq_false_iff, size_drop] at h
  rw [size_take] at h ⊢
  omega

theorem isEmpty_of_take {s : Slice} {n : Nat} (hn : 0 < n) (h : (s.take n).size = 0) :
    s.isEmpty = true := by
  rw [size_take] at h
  exact isEmpty_iff.mpr (by omega)

theorem toBytes_of_size_eq_zero {s : Slice} (h : s.size = 0) : s.toBytes = ByteArray.empty := by
  rw [← ByteArray.size_eq_zero_iff, size_toBytes, h]

theorem take_append_drop (s : Slice) (n : Nat) : s.take n ++ (s.drop n).toBytes = s.toBytes := by
  simp only [take, drop, toBytes, ByteArray.extract_append_extract]
  rw [Nat.min_eq_left (by omega), Bytes.extract_of_size_le s.bytes (Nat.le_max_right _ _)]

theorem take_of_size_le {s : Slice} {n : Nat} (h : s.size ≤ n) : s.take n = s.toBytes := by
  have hend : s.bytes.size ≤ s.start + n := by
    simp only [size] at h
    omega
  exact Bytes.extract_of_size_le s.bytes hend

theorem take_eq_extract (s : Slice) (n : Nat) : s.take n = s.toBytes.extract 0 n := by
  simp only [take, toBytes, ByteArray.extract_extract, Nat.add_zero]
  by_cases h : s.start + n ≤ s.bytes.size
  · rw [Nat.min_eq_left h]
  · rw [Nat.min_eq_right (by omega), Bytes.extract_of_size_le s.bytes (by omega)]

@[simp] theorem take_zero (s : Slice) : s.take 0 = ByteArray.empty := ByteArray.extract_same

theorem take_of_size_eq_zero {s : Slice} (h : s.size = 0) (n : Nat) :
    s.take n = ByteArray.empty := by
  rw [← ByteArray.size_eq_zero_iff, size_take, h, Nat.min_zero]

/-- What was handed out and what is left are the slice, however short it was. -/
theorem take_append_rest (s : Slice) (n : Nat) :
    s.take n ++ (s.drop (s.take n).size).toBytes = s.toBytes := by
  by_cases h : n ≤ s.size
  · rw [size_take, Nat.min_eq_left h, take_append_drop]
  · rw [size_take, Nat.min_eq_right (by omega), take_of_size_le (by omega)]
    have hnone : (s.drop s.size).toBytes = ByteArray.empty :=
      toBytes_of_size_eq_zero (by rw [size_drop, Nat.sub_self])
    rw [hnone, ByteArray.append_empty]

theorem take_min_size (s : Slice) (n : Nat) : s.take (min s.size n) = s.take n := by
  by_cases h : s.size ≤ n
  · rw [Nat.min_eq_left h, take_of_size_le h, take_of_size_le (Nat.le_refl _)]
  · rw [Nat.min_eq_right (by omega)]

end Slice

end StreamCodec
