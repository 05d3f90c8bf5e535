import Mathlib.Logic.Function.Iterate
import StreamCodec.SampleData

/-!
Sample data byte by byte. Byte `i` of a sample is the same whatever the size of the sample is. A
mixed sample steps its generator at random bytes only, and so the state behind byte `i` counts the
random bytes up to there. Exclusive or with a shift of itself leaves no state zero but zero, so
that no generator ever gets to zero.
-/

namespace StreamCodec.SampleData

variable {s : UInt64}

section Shifts

variable {w n : Nat}

/-- Exclusive or with a shift to the left can be undone, from the low end on. -/
theorem xor_shiftLeft_injective (hn : 0 < n) :
    Function.Injective fun x : BitVec w => x ^^^ x <<< n := by
  intro x y h
  apply BitVec.eq_of_getLsbD_eq
  intro i hi
  induction i using Nat.strongRecOn with
  | ind i ih =>
    have hbit := congrArg (BitVec.getLsbD · i) h
    simp only [BitVec.getLsbD_xor, BitVec.getLsbD_shiftLeft] at hbit
    by_cases hlow : i < n
    · rw [decide_eq_true hlow, Bool.not_true, Bool.and_false, Bool.false_and,
        Bool.false_and] at hbit
      exact Bool.xor_left_inj.mp hbit
    · rw [ih (i - n) (by omega) (by omega)] at hbit
      exact Bool.xor_left_inj.mp hbit

/-- With a shift to the right it can be undone from the high end on. -/
theorem xor_shiftRight_injective (hn : 0 < n) :
    Function.Injective fun x : BitVec w => x ^^^ x >>> n := by
  intro x y h
  have hhigh : ∀ k i, w ≤ i + k → x.getLsbD i = y.getLsbD i := by
    intro k
    induction k with
    | zero =>
      intro i hi
      rw [BitVec.getLsbD_of_ge x i hi, BitVec.getLsbD_of_ge y i hi]
    | succ k ih =>
      intro i hi
      have hbit := congrArg (BitVec.getLsbD · i) h
      simp only [BitVec.getLsbD_xor, BitVec.getLsbD_ushiftRight] at hbit
      rw [ih (n + i) (by omega)] at hbit
      exact Bool.xor_left_inj.mp hbit
  exact BitVec.eq_of_getLsbD_eq fun i _ => hhigh w i (by omega)

end Shifts

theorem xorshift_injective : Function.Injective xorshift := by
  have hleft (k : UInt64) (hk : 0 < k.toNat % 64) : Function.Injective fun s => s ^^^ s <<< k := by
    intro s t h
    have hbits := congrArg UInt64.toBitVec h
    simp only [UInt64.toBitVec_xor, UInt64.toBitVec_shiftLeft, BitVec.shiftLeft_eq'] at hbits
    exact UInt64.toBitVec_inj.mp (xor_shiftLeft_injective hk hbits)
  have hright (k : UInt64) (hk : 0 < k.toNat % 64) : Function.Injective fun s => s ^^^ s >>> k := by
    intro s t h
    have hbits := congrArg UInt64.toBitVec h
    simp only [UInt64.toBitVec_xor, UInt64.toBitVec_shiftRight, BitVec.ushiftRight_eq'] at hbits
    exact UInt64.toBitVec_inj.mp (xor_shiftRight_injective hk hbits)
  exact (hleft 17 (by decide)).comp ((hright 7 (by decide)).comp (hleft 13 (by decide)))

/-- Zero is a state of its own, and no other state leads there. -/
theorem iterate_xorshift_ne_zero (hs : s ≠ 0) (k : Nat) : xorshift^[k] s ≠ 0 := by
  have hzero : xorshift^[k] 0 = 0 := Function.iterate_fixed rfl k
  rw [← hzero]
  exact (xorshift_injective.iterate k).ne hs

theorem toNat_yielded (s : UInt64) : (yielded s).toNat = s.toNat >>> 24 % 256 := by
  rw [yielded, UInt64.toNat_toUInt8, UInt64.toNat_shiftRight]
  rfl

/-- How many of the first `i` bytes of a mixed sample are random. -/
def drawn (i : Nat) : Nat := (period - zeroSpan) * (i / period) + (i % period - zeroSpan)

theorem drawn_succ (i : Nat) :
    drawn (i + 1) = if i % period < zeroSpan then drawn i else drawn i + 1 := by
  unfold drawn period zeroSpan
  split <;> omega

/-- Byte `i` of every sample of a kind. -/
def byteAt : Pattern → Nat → UInt8
  | .zeros, _ => 0
  | .text, i => sentence[i % sentence.size]?.getD 0
  | .random, i => yielded (xorshift^[i + 1] randomSeed)
  | .mixed, i => if i % period < zeroSpan then 0 else yielded (xorshift^[drawn i + 1] mixedSeed)

def span (p : Pattern) (i n : Nat) : ByteArray := Bytes.ofList ((List.range' i n).map (byteAt p))

section Span

variable {p : Pattern}

theorem push_append_span (p : Pattern) (i n : Nat) (out : ByteArray) :
    out.push (byteAt p i) ++ span p (i + 1) n = out ++ span p i (n + 1) := by
  rw [span, span, List.range'_succ, List.map_cons, Bytes.ofList_cons, Bytes.push_eq_append,
    ByteArray.append_assoc]

theorem append_span_zero (p : Pattern) (i : Nat) (out : ByteArray) : out ++ span p i 0 = out :=
  ByteArray.append_empty

theorem span_append (p : Pattern) (i m n : Nat) :
    span p i m ++ span p (i + m) n = span p i (m + n) := by
  rw [span, span, span, ← Bytes.ofList_append, ← List.map_append, List.range'_append_1]

theorem size_span (p : Pattern) (i n : Nat) : (span p i n).size = n := by
  rw [span, Bytes.size_ofList, List.length_map, List.length_range']

theorem getElem?_span {i n : Nat} (h : i < n) : (span p 0 n)[i]? = some (byteAt p i) := by
  rw [span, Bytes.getElem?_ofList, List.getElem?_map, List.getElem?_range' h, Option.map_some,
    Nat.one_mul, Nat.zero_add]

end Span

theorem textFrom_eq (n i : Nat) (out : ByteArray) : textFrom n i out = out ++ span .text i n := by
  induction n generalizing i out with
  | zero => exact (append_span_zero .text i out).symm
  | succ n ih => rw [textFrom, ih, ← push_append_span, byteAt]

theorem randomFrom_eq (n i : Nat) (out : ByteArray) :
    randomFrom n (xorshift^[i] randomSeed) out = out ++ span .random i n := by
  induction n generalizing i out with
  | zero => exact (append_span_zero .random i out).symm
  | succ n ih =>
    rw [randomFrom, ← Function.iterate_succ_apply' xorshift, ih, ← push_append_span, byteAt]

/-- The state in front of byte `i` has been stepped once for each random byte before it. -/
theorem mixedFrom_eq (n i : Nat) (out : ByteArray) :
    mixedFrom n i (xorshift^[drawn i] mixedSeed) out = out ++ span .mixed i n := by
  induction n generalizing i out with
  | zero => exact (append_span_zero .mixed i out).symm
  | succ n ih =>
    have hnext := drawn_succ i
    rw [mixedFrom, ← push_append_span, byteAt]
    split
    · next hzero =>
      rw [if_pos hzero] at hnext
      rw [← hnext, ih]
    · next hrandom =>
      rw [if_neg hrandom] at hnext
      have hstate :
          xorshift (xorshift^[drawn i] mixedSeed) = xorshift^[drawn (i + 1)] mixedSeed := by
        rw [hnext, Function.iterate_succ_apply']
      rw [hstate, ih, hnext]

theorem zeros_eq_span (n : Nat) : Bytes.zeros n = span .zeros 0 n := by
  have hbytes : (List.range' 0 n).map (byteAt .zeros) = List.replicate n 0 := by
    rw [List.eq_replicate_iff, List.length_map, List.length_range']
    refine ⟨rfl, fun b hb => ?_⟩
    obtain ⟨i, -, rfl⟩ := List.mem_map.mp hb
    rfl
  apply ByteArray.ext
  rw [span, hbytes, Bytes.ofList, List.toArray_replicate]
  rfl

theorem generate_eq (p : Pattern) (n : Nat) : generate p n = span p 0 n := by
  cases p with
  | zeros => exact (Bytes.blank_eq_zeros n).trans (zeros_eq_span n)
  | text => exact (textFrom_eq n 0 ByteArray.empty).trans ByteArray.empty_append
  | random => exact (randomFrom_eq n 0 ByteArray.empty).trans ByteArray.empty_append
  | mixed => exact (mixedFrom_eq n 0 ByteArray.empty).trans ByteArray.empty_append

/-- Samples of a kind are fronts of one another, each byte of a sample has its closed form, and no
number of steps takes the generator from its seed, or from any other state but zero, to zero. -/
theorem generate_closed :
    (∀ p n m, n ≤ m → (generate p n).size = n ∧ ∃ rest, generate p m = generate p n ++ rest) ∧
    (∀ n i, i < n →
      (generate .zeros n)[i]? = some 0 ∧
      (generate .text n)[i]? = sentence[i % 45]? ∧
      (generate .random n)[i]? = some (yielded (xorshift^[i + 1] randomSeed)) ∧
      (generate .mixed n)[i]? = some (if i % 1000 < 300 then 0
        else yielded (xorshift^[700 * (i / 1000) + (i % 1000 - 300) + 1] mixedSeed))) ∧
    sentence.size = 45 ∧ (∀ s, (yielded s).toNat = s.toNat >>> 24 % 256) ∧
    (∀ s k, s ≠ 0 → xorshift^[k] s ≠ 0) ∧ randomSeed ≠ 0 ∧ mixedSeed ≠ 0 := by
  have hsentence : sentence.size = 45 := by decide +kernel
  refine ⟨?_, ?_, hsentence, toNat_yielded, fun s k hs => iterate_xorshift_ne_zero hs k, by decide,
    by decide⟩
  · intro p n m h
    obtain ⟨more, rfl⟩ := Nat.exists_eq_add_of_le h
    rw [generate_eq, generate_eq]
    exact ⟨size_span p 0 n, span p (0 + n) more, (span_append p 0 n more).symm⟩
  · intro n i hi
    have hmod : i % 45 < sentence.size := by
      rw [hsentence]
      exact Nat.mod_lt i (by decide)
    have htext : some (byteAt .text i) = sentence[i % 45]? := by
      rw [byteAt, hsentence, getElem?_pos sentence (i % 45) hmod, Option.getD_some]
    simp only [generate_eq, getElem?_span hi]
    exact ⟨rfl, htext, rfl, rfl⟩

/-- Two random bytes behind the zeros. -/
theorem generate_closed_mixed :
    302 ≤ 400 ∧ 301 < 302 ∧ (generate .mixed 302).size = 302 ∧
      (∃ rest, generate .mixed 400 = generate .mixed 302 ++ rest) ∧
      (generate .mixed 302)[301]? = some 0x02 ∧ xorshift^[2] mixedSeed ≠ 0 := by
  obtain ⟨hfront, hbyte, -, -, hstate, -, hseed⟩ := generate_closed
  have hmixed := (hbyte 302 301 (by decide)).2.2.2
  obtain ⟨hsize, hrest⟩ := hfront .mixed 302 400 (by decide)
  exact ⟨by decide, by decide, hsize, hrest, hmixed.trans (by decide +kernel), hstate _ 2 hseed⟩

end StreamCodec.SampleData
