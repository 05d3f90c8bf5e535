import StreamCodec.Huffman
import StreamCodec.Stream.Held

/-!
Where scanners stop. A value is read from bytes that are there, and what reads a symbol through a
code reads a bit at least. Of the bytes that are there an engine holds those that it has taken and
not used up.
-/

namespace StreamCodec

namespace Bits

theorem low?_eq_some {b : ByteArray} {p x : Nat} (h : low? b p = some x) :
    p + 1 ≤ 8 * b.size := by
  unfold low? at h
  split at h
  · omega
  · cases h

theorem takeLow?_eq_some {b : ByteArray} {p n x : Nat} (h : takeLow? b p n = some x) :
    p + n ≤ 8 * b.size ∧ x ≤ (mask n).toNat := by
  unfold takeLow? at h
  split at h
  · next hle =>
    cases h
    refine ⟨hle, ?_⟩
    rw [UInt64.toNat_and]
    exact Nat.and_le_right
  · cases h

theorem high?_eq_some {b : ByteArray} {p x : Nat} (h : high? b p = some x) :
    p + 1 ≤ 8 * b.size := by
  unfold high? at h
  split at h
  · omega
  · cases h

theorem takeHigh?_eq_some {b : ByteArray} {p n x : Nat} (h : takeHigh? b p n = some x) :
    p + n ≤ 8 * b.size := by
  unfold takeHigh? at h
  split at h
  · assumption
  · cases h

theorem le_align (p : Nat) : p ≤ align p := by
  unfold align
  omega

theorem align_mod (p : Nat) : align p % 8 = 0 := by
  unfold align
  omega

/-- The boundary behind a bit that is there is not behind the last byte. -/
theorem align_le {p n : Nat} (h : p ≤ 8 * n) : align p ≤ 8 * n := by
  unfold align
  omega

end Bits

namespace Scan

variable {ε α β : Type} {x : Scan ε α} {f : α → Scan ε β} {least : Nat}

/-- Where there is a value, `least` bits have been read for it, and all that were read are there. -/
def Reads (least : Nat) (x : Scan ε α) : Prop :=
  ∀ b p a q, p ≤ 8 * b.size → x b p = .value a q → p + least ≤ q ∧ q ≤ 8 * b.size

theorem bind_eq_value {b : ByteArray} {p q : Nat} {c : β} (h : (x >>= f) b p = .value c q) :
    ∃ a m, x b p = .value a m ∧ f a b m = .value c q := by
  change Scan.bind x f b p = .value c q at h
  unfold Scan.bind at h
  split at h
  · next a m hx => exact ⟨a, m, hx, h⟩
  · cases h
  · cases h

theorem reads_pure (a : α) : Reads 0 (Pure.pure a : Scan ε α) := by
  intro b p c q hp h
  cases h
  exact ⟨Nat.le_refl _, hp⟩

theorem reads_fail (e : ε) : Reads least (fail e : Scan ε α) := by
  intro b p a q _ h
  cases h

theorem Reads.bind (hx : x.Reads least) (hf : ∀ a, (f a).Reads 0) : (x >>= f).Reads least := by
  intro b p c q hp h
  obtain ⟨a, m, ha, hc⟩ := bind_eq_value h
  obtain ⟨hread, hm⟩ := hx b p a m hp ha
  obtain ⟨hle, hq⟩ := hf a b m c q hm hc
  exact ⟨by omega, hq⟩

theorem Reads.any (hx : x.Reads least) : x.Reads 0 := by
  intro b p a q hp h
  obtain ⟨hread, hq⟩ := hx b p a q hp h
  exact ⟨by omega, hq⟩

theorem reads_guard (c : Bool) (e : ε) : Reads 0 (guard c e) := by
  unfold guard
  split
  · exact reads_pure ()
  · exact reads_fail e

theorem bits_eq_value {b : ByteArray} {p n a q : Nat}
    (h : (bits n : Scan ε Nat) b p = .value a q) :
    q = p + n ∧ q ≤ 8 * b.size ∧ a ≤ (Bits.mask n).toNat := by
  unfold bits at h
  split at h
  · next x hx =>
    cases h
    exact ⟨rfl, Bits.takeLow?_eq_some hx⟩
  · cases h

theorem reads_bits (n : Nat) : Reads 0 (bits n : Scan ε Nat) := by
  intro b p a q _ h
  obtain ⟨rfl, hq, -⟩ := bits_eq_value h
  exact ⟨Nat.le_add_right p n, hq⟩

theorem reads_bit : Reads 1 (bit : Scan ε Nat) := by
  intro b p a q _ h
  unfold bit at h
  split at h
  · next x hx =>
    cases h
    exact ⟨Nat.le_refl _, Bits.low?_eq_some hx⟩
  · cases h

theorem reads_highBit : Reads 1 (highBit : Scan ε Nat) := by
  intro b p a q _ h
  unfold highBit at h
  split at h
  · next x hx =>
    cases h
    exact ⟨Nat.le_refl _, Bits.high?_eq_some hx⟩
  · cases h

theorem reads_highBits (n : Nat) : Reads 0 (highBits n : Scan ε Nat) := by
  intro b p a q _ h
  unfold highBits at h
  split at h
  · next x hx =>
    cases h
    exact ⟨Nat.le_add_right p n, Bits.takeHigh?_eq_some hx⟩
  · cases h

theorem reads_align : Reads 0 (align : Scan ε Nat) :=
  fun b p => reads_bits (Bits.align p - p) b p

/-- What is said of every value that is read, and of the place behind it. -/
def Ends (P : α → Nat → Prop) (x : Scan ε α) : Prop := ∀ b p a q, x b p = .value a q → P a q

theorem Ends.bind {P : β → Nat → Prop} (hf : ∀ a, Ends P (f a)) : Ends P (x >>= f) := by
  intro b p c q h
  obtain ⟨a, m, -, hc⟩ := bind_eq_value h
  exact hf a b m c q hc

theorem Ends.map {Q : α → Nat → Prop} {P : β → Nat → Prop} {g : α → β} (hx : Ends Q x)
    (h : ∀ a q, Q a q → P (g a) q) : Ends P (x >>= fun a => Pure.pure (g a)) := by
  intro b p c q hc
  obtain ⟨a, m, ha, hc⟩ := bind_eq_value hc
  cases hc
  exact h a _ (hx b p a _ ha)

theorem ends_pure {P : α → Nat → Prop} {a : α} (h : ∀ q, P a q) :
    Ends P (Pure.pure a : Scan ε α) := by
  intro b p c q hc
  cases hc
  exact h p

theorem ends_fail {P : α → Nat → Prop} (e : ε) : Ends P (fail e : Scan ε α) := by
  intro b p a q h
  cases h

theorem reads_times (hx : x.Reads 0) (n : Nat) (acc : Array α) : Reads 0 (times x n acc) := by
  induction n generalizing acc with
  | zero => exact reads_pure acc
  | succ n ih => exact hx.bind fun a => ih (acc.push a)

/-- Begun at a byte, the scanner ends at a byte, and reads only bytes that are there. -/
def Bytewise (x : Scan ε α) : Prop :=
  ∀ b i a q, i ≤ b.size → x b (8 * i) = .value a q → ∃ j, q = 8 * j ∧ j ≤ b.size

theorem bytewise_pure (a : α) : Bytewise (Pure.pure a : Scan ε α) := by
  intro b i c q hi h
  cases h
  exact ⟨i, rfl, hi⟩

theorem bytewise_fail (e : ε) : Bytewise (fail e : Scan ε α) := by
  intro b i a q _ h
  cases h

theorem Bytewise.bind (hx : x.Bytewise) (hf : ∀ a, (f a).Bytewise) : (x >>= f).Bytewise := by
  intro b i c q hi h
  obtain ⟨a, m, ha, hc⟩ := bind_eq_value h
  obtain ⟨j, rfl, hj⟩ := hx b i a m hi ha
  exact hf a b j c q hj hc

theorem bytewise_guard (c : Bool) (e : ε) : Bytewise (guard c e) := by
  unfold guard
  split
  · exact bytewise_pure ()
  · exact bytewise_fail e

theorem bytewise_position : Bytewise (position : Scan ε Nat) := by
  intro b i a q hi h
  cases h
  exact ⟨i, rfl, hi⟩

theorem bytewise_bytes (n : Nat) : Bytewise (bytes n : Scan ε ByteArray) := by
  intro b i a q _ h
  unfold bytes at h
  split at h
  · cases h
    exact ⟨i + n, by omega, by omega⟩
  · cases h

theorem bytewise_ahead : Bytewise (ahead : Scan ε Unit) := by
  intro b i a q hi h
  unfold ahead at h
  split at h
  · cases h
    exact ⟨i, rfl, hi⟩
  · cases h

/-- Where reading has come to, up to `most`, and what has been handed out, up to `room`. -/
structure Fair (most room pos : Nat) (out : ByteArray) : Prop where
  within : pos ≤ most
  fits : out.size ≤ room

theorem Fair.nothing {most room pos : Nat} {out : ByteArray} (h : Fair most room pos out) :
    Fair most room pos ByteArray.empty :=
  ⟨h.within, Nat.zero_le room⟩

theorem Fair.reads {b out : ByteArray} {room p q : Nat} {a : α} (h : Fair (8 * b.size) room p out)
    (hx : x.Reads 0) (hread : x b p = .value a q) : Fair (8 * b.size) room q out :=
  ⟨(hx b p a q h.within hread).2, h.fits⟩

theorem Fair.bytewise {b out : ByteArray} {room i q : Nat} {a : α} (h : Fair b.size room i out)
    (hx : x.Bytewise) (hread : x b (8 * i) = .value a q) : Fair b.size room (q / 8) out := by
  obtain ⟨j, rfl, hj⟩ := hx b i a q h.within hread
  exact ⟨by omega, h.fits⟩

end Scan

theorem Bytes.size_append_extract_le (out b : ByteArray) (i n : Nat) :
    (out ++ b.extract i (i + n)).size ≤ out.size + n := by
  rw [ByteArray.size_append, ByteArray.size_extract]
  omega

namespace Held

theorem size_join (h : Held) (offered : Slice) :
    (h.join offered).1.size = h.bytes.size + offered.size ∧ (h.join offered).2 = h.bit := by
  unfold join
  split
  · next hnone =>
    obtain ⟨hsize, hstart⟩ := hnone
    refine ⟨?_, rfl⟩
    simp only [Slice.size, hsize, hstart]
    omega
  · refine ⟨?_, rfl⟩
    rw [ByteArray.size_append, Slice.size_toBytes]

/-- Reading starts within the joined bytes. -/
theorem bit_join_le {h : Held} (hbit : h.bit ≤ 8 * h.bytes.size) (offered : Slice) :
    (h.join offered).2 ≤ 8 * (h.join offered).1.size := by
  obtain ⟨hsize, hstart⟩ := h.size_join offered
  omega

theorem size_keepAll (joined : ByteArray) (pos : Nat) :
    (keepAll joined pos).bytes.size = joined.size - pos / 8 := by
  simp only [keepAll, ByteArray.size_extract, Nat.min_self]

theorem size_keepPart {joined : ByteArray} {pos : Nat} (hpos : pos ≤ 8 * joined.size) :
    (keepPart joined pos).bytes.size = (pos + 7) / 8 - pos / 8 := by
  simp only [keepPart, ByteArray.size_extract]
  omega

/-- What is held is no more than a byte, or ends where the bytes do. -/
theorem bit_keepAll_le {joined : ByteArray} {pos : Nat} (hpos : pos ≤ 8 * joined.size) :
    (keepAll joined pos).bit ≤ 8 * (keepAll joined pos).bytes.size := by
  rw [size_keepAll]
  show pos % 8 ≤ _
  omega

theorem bit_keepPart_le {joined : ByteArray} {pos : Nat} (hpos : pos ≤ 8 * joined.size) :
    (keepPart joined pos).bit ≤ 8 * (keepPart joined pos).bytes.size := by
  rw [size_keepPart hpos]
  show pos % 8 ≤ _
  omega

theorem bit_keepTo_le (h : Held) {joined : ByteArray} {pos : Nat}
    (hpos : pos ≤ 8 * joined.size) :
    (h.keepTo joined pos).bit ≤ 8 * (h.keepTo joined pos).bytes.size := by
  simp only [keepTo, ByteArray.size_extract]
  omega

/-- The bytes that are taken are among those that were offered. -/
theorem takenTo_le {h : Held} {offered : Slice} {pos : Nat}
    (hpos : pos ≤ 8 * (h.join offered).1.size) : h.takenTo pos ≤ offered.size := by
  rw [(h.size_join offered).1] at hpos
  show (pos + 7) / 8 - h.bytes.size ≤ offered.size
  omega

end Held

open Scan

theorem Huffman.reads_walk {ε : Type} (h : Huffman) {next : Scan ε Nat} (hnext : next.Reads 1)
    (e : ε) (left len code first index : Nat) :
    (h.walk next e left len code first index).Reads 1 := by
  induction left generalizing len code first index with
  | zero => exact reads_fail e
  | succ left ih =>
    intro b p a q hp hwalk
    unfold walk at hwalk
    split at hwalk
    · cases hwalk
    · cases hwalk
    · next x m hx =>
      obtain ⟨hread, hm⟩ := hnext b p x m hp hx
      simp only at hwalk
      split at hwalk
      · cases hwalk
        exact ⟨hread, hm⟩
      · split at hwalk
        · cases hwalk
        · obtain ⟨hlater, hq⟩ := ih _ _ _ _ b m a q hm hwalk
          exact ⟨by omega, hq⟩

theorem Huffman.reads_decode {ε : Type} (h : Huffman) (e : ε) : (h.decode bit e).Reads 1 :=
  h.reads_walk reads_bit e _ _ _ _ _

end StreamCodec
