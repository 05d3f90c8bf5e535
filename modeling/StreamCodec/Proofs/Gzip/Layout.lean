import StreamCodec.Proofs.Gzip.Header

/-!
The layout of a gzip header, part by part: magic, method and flags, six bytes more, and the fields
that the flags announce, the last of them a checksum of all before it. A header is found exactly
where the bytes are laid out like this, and bytes are rejected exactly for what speaks against
every header that they could become.
-/

namespace StreamCodec.Gzip.Header

/-- The bits of a flag byte, counted from the lowest. -/
theorem Flags.ofByte_eq (x : UInt8) :
    Flags.ofByte x =
      { checksum := x.toNat.testBit 1, extra := x.toNat.testBit 2, name := x.toNat.testBit 3,
        comment := x.toNat.testBit 4,
        reserved := x.toNat.testBit 5 || x.toNat.testBit 6 || x.toNat.testBit 7 } := by
  have hall : ∀ n : Fin 256, Flags.ofByte n.val.toUInt8 =
      { checksum := n.val.testBit 1, extra := n.val.testBit 2, name := n.val.testBit 3,
        comment := n.val.testBit 4,
        reserved := n.val.testBit 5 || n.val.testBit 6 || n.val.testBit 7 } := by decide +kernel
  have hx := hall ⟨x.toNat, x.toNat_lt⟩
  rw [show x.toNat.toUInt8 = x from UInt8.ofNat_toNat] at hx
  exact hx

/-- A field that is empty where it is not announced. -/
def Optional (present : Bool) (form : ByteArray → Prop) (b : ByteArray) : Prop :=
  if present then form b else b = ByteArray.empty

def IsExtra (b : ByteArray) : Prop :=
  ∃ data, data.size < 65536 ∧ b = Bytes.ofList (Bytes.littleEndian 2 data.size) ++ data

def IsText (b : ByteArray) : Prop :=
  ∃ text : ByteArray, (∀ i : Nat, text[i]? ≠ some 0) ∧ b = text ++ Bytes.ofList [0]

/-- The checksum of the bytes before it: the low half of their CRC-32. -/
def sum (front : ByteArray) : ByteArray :=
  Bytes.ofList (Bytes.littleEndian 2 ((Crc32.ofBytes front).toNat % 65536))

def reservedBits (flag : UInt8) : Bool :=
  flag.toNat.testBit 5 || flag.toNat.testBit 6 || flag.toNat.testBit 7

inductive Front (flag : UInt8) : ByteArray → Prop
  | mk {six extra name comment : ByteArray} (hreserved : reservedBits flag = false)
      (hsix : six.size = 6) (hextra : Optional (flag.toNat.testBit 2) IsExtra extra)
      (hname : Optional (flag.toNat.testBit 3) IsText name)
      (hcomment : Optional (flag.toNat.testBit 4) IsText comment) :
      Front flag (Bytes.ofList [0x1f, 0x8b, 8, flag] ++ six ++ (extra ++ (name ++ comment)))

/-- A complete header. -/
inductive Laid : ByteArray → Prop
  | mk {flag : UInt8} {front checksum : ByteArray} (hfront : Front flag front)
      (hchecksum : Optional (flag.toNat.testBit 1) (· = sum front) checksum) :
      Laid (front ++ checksum)

/-- What speaks against a header at the start of `b`. -/
inductive Spoiled (b : ByteArray) : Fault → Prop
  | magic (h : (∃ x, b[0]? = some x ∧ x ≠ 0x1f) ∨ ∃ x, b[1]? = some x ∧ x ≠ 0x8b) : Spoiled b .magic
  | method (h : ∃ x, b[2]? = some x ∧ x ≠ 8) : Spoiled b .method
  | reservedFlags (hsize : 10 ≤ b.size) (h : ∃ flag, b[3]? = some flag ∧ reservedBits flag = true) :
      Spoiled b .reservedFlags
  | headerChecksum (h : ∃ flag front checksum rest, b = front ++ checksum ++ rest ∧
      Front flag front ∧ flag.toNat.testBit 1 = true ∧ checksum.size = 2 ∧ checksum ≠ sum front) :
      Spoiled b .headerChecksum

/-- A field that is read where it stands, and read as nothing else. -/
structure Reads (form : ByteArray → Prop) (skip : ByteArray → Nat → Option Nat) : Prop where
  found : ∀ front {e : ByteArray}, form e → ∀ r,
    skip (front ++ (e ++ r)) front.size = some (front.size + e.size)
  form : ∀ {b i j}, skip b i = some j → j ≤ b.size → form (b.extract i j)

theorem Reads.optional {form : ByteArray → Prop} {skip : ByteArray → Bool → Nat → Option Nat}
    (h : Reads form (skip · true)) (habsent : ∀ b i, skip b false i = some i) (present : Bool) :
    Reads (Optional present form) (skip · present) := by
  cases present with
  | true => exact h
  | false =>
    constructor
    · rintro front e rfl r
      exact habsent _ _
    · intro b i j hskip hj
      cases (habsent b i).symm.trans hskip
      exact ByteArray.extract_same

theorem reads_extra : Reads IsExtra (skipExtra · true) := by
  constructor
  · rintro front e ⟨data, hdata, rfl⟩ r
    have htwo : (Bytes.ofList (Bytes.littleEndian 2 data.size)).size = 2 := by
      rw [Bytes.size_ofList, Bytes.length_littleEndian]
    generalize hlen : Bytes.ofList (Bytes.littleEndian 2 data.size) = length at htwo
    have hfront := Bytes.extract_append_right front (length ++ data ++ r) 0 2
    have hlength :
        (length ++ data ++ r).extract 0 2 = Bytes.ofList (Bytes.littleEndian 2 data.size) := by
      rw [hlen, ByteArray.append_assoc, Bytes.extract_append_left _ _ (Nat.le_of_eq htwo.symm),
        ← htwo, ByteArray.extract_zero_size]
    have hread := Bytes.le_of_extract (hfront.trans hlength) hdata
    have hsize : front.size + 2 ≤ (front ++ (length ++ data ++ r)).size := by
      simp only [ByteArray.size_append]
      omega
    rw [Nat.add_zero] at hread
    rw [skipExtra, if_pos rfl, if_pos hsize, hread, ByteArray.size_append, htwo, Nat.add_assoc]
  · intro b i j hskip hj
    rw [skipExtra, if_pos rfl] at hskip
    split at hskip
    · next hsize =>
      cases hskip
      have hdata : (b.extract (i + 2) (i + 2 + Bytes.le b i 2)).size = Bytes.le b i 2 := by
        rw [ByteArray.size_extract]
        omega
      refine ⟨b.extract (i + 2) (i + 2 + Bytes.le b i 2), ?_, ?_⟩
      · rw [hdata]
        exact Bytes.le_lt b i 2
      · rw [hdata, Bytes.ofList_le b hsize, Bytes.extract_glue b (by omega) (by omega)]
    · cases hskip

theorem behindZero_found {b : ByteArray} {i k n : Nat} (hbefore : ∀ j < k, b[i + j]? ≠ some 0)
    (hzero : b[i + k]? = some 0) (hn : k < n) : behindZero b i n = some (i + k + 1) := by
  induction k generalizing i n with
  | zero =>
    obtain ⟨n, rfl⟩ : ∃ m, n = m + 1 := ⟨n - 1, by omega⟩
    rw [Nat.add_zero] at hzero
    rw [behindZero, if_pos hzero, Nat.add_zero]
  | succ k ih =>
    obtain ⟨n, rfl⟩ : ∃ m, n = m + 1 := ⟨n - 1, by omega⟩
    have hfirst : b[i]? ≠ some 0 := hbefore 0 (by omega)
    have hlater : ∀ j < k, b[i + 1 + j]? ≠ some 0 := by
      intro j hj
      rw [Nat.add_right_comm]
      exact hbefore (j + 1) (by omega)
    have hzero' : b[i + 1 + k]? = some 0 := by
      rw [Nat.add_right_comm]
      exact hzero
    rw [behindZero, if_neg hfirst, ih hlater hzero' (by omega)]
    congr 1
    omega

theorem behindZero_spec {b : ByteArray} {i n j : Nat} (h : behindZero b i n = some j) :
    ∃ k, j = i + k + 1 ∧ (∀ x < k, b[i + x]? ≠ some 0) ∧ b[i + k]? = some 0 := by
  induction n generalizing i with
  | zero => cases h
  | succ n ih =>
    rw [behindZero] at h
    split at h
    · next hzero =>
      cases h
      exact ⟨0, rfl, fun x hx => absurd hx (Nat.not_lt_zero x), hzero⟩
    · next hzero =>
      obtain ⟨k, rfl, hbefore, hlast⟩ := ih h
      refine ⟨k + 1, by omega, ?_, ?_⟩
      · intro x hx
        cases x with
        | zero => exact hzero
        | succ x =>
          have hx' := hbefore x (by omega)
          rw [Nat.add_right_comm] at hx'
          exact hx'
      · rw [Nat.add_right_comm] at hlast
        exact hlast

theorem reads_text : Reads IsText (skipText · true) := by
  constructor
  · rintro front e ⟨text, htext, rfl⟩ r
    have hzero : (front ++ (text ++ Bytes.ofList [0] ++ r))[front.size + text.size]? = some 0 := by
      have hend := Bytes.getElem?_append_right text (Bytes.ofList [0] ++ r) 0
      rw [Bytes.getElem?_append_right, ByteArray.append_assoc]
      exact hend
    have hbefore : ∀ j < text.size,
        (front ++ (text ++ Bytes.ofList [0] ++ r))[front.size + j]? ≠ some 0 := by
      intro j hj
      rw [Bytes.getElem?_append_right, ByteArray.append_assoc, Bytes.getElem?_append_left _ _ hj]
      exact htext j
    have hroom : text.size < (front ++ (text ++ Bytes.ofList [0] ++ r)).size - front.size := by
      simp only [ByteArray.size_append, Bytes.size_ofList, List.length_singleton]
      omega
    rw [skipText, if_pos rfl, behindZero_found hbefore hzero hroom, ByteArray.size_append,
      Bytes.size_ofList, List.length_singleton, Nat.add_assoc]
  · intro b i j hskip hj
    rw [skipText, if_pos rfl] at hskip
    obtain ⟨k, rfl, hbefore, hzero⟩ := behindZero_spec hskip
    refine ⟨b.extract i (i + k), ?_, ?_⟩
    · intro x hx
      by_cases hk : x < k
      · rw [Bytes.getElem?_extract b (by omega)] at hx
        exact hbefore x hk hx
      · rw [getElem?_neg _ x (by rw [ByteArray.size_extract]; omega)] at hx
        cases hx
    · rw [← Bytes.extract_one hzero, Bytes.extract_glue b (by omega) (by omega)]

/-- One field behind the other. -/
theorem Reads.bind {form form' : ByteArray → Prop} {skip skip' : ByteArray → Nat → Option Nat}
    (h : Reads form skip) (h' : Reads form' skip') (hs : Settles skip) (hs' : Settles skip') :
    Reads (fun e => ∃ a c, e = a ++ c ∧ form a ∧ form' c) fun b i => (skip b i).bind (skip' b) := by
  constructor
  · rintro front e ⟨a, c, rfl, ha, hc⟩ r
    have hfirst := h.found front ha (c ++ r)
    have hsecond := h'.found (front ++ a) hc r
    rw [ByteArray.append_assoc, ByteArray.size_append] at hsecond
    rw [ByteArray.append_assoc (a := a), hfirst, Option.bind_some, hsecond, ByteArray.size_append,
      Nat.add_assoc]
  · intro b i k hk hle
    obtain ⟨j, hj, hk⟩ := Option.bind_eq_some_iff.mp hk
    have hij := hs.le hj
    have hjk := hs'.le hk
    refine ⟨b.extract i j, b.extract j k, ?_, h.form hj (by omega), h'.form hk hle⟩
    exact (Bytes.extract_glue b hij hjk).symm

def AreFields (flag : UInt8) (e : ByteArray) : Prop :=
  ∃ extra rest, e = extra ++ rest ∧ Optional (flag.toNat.testBit 2) IsExtra extra ∧
    ∃ name comment, rest = name ++ comment ∧ Optional (flag.toNat.testBit 3) IsText name ∧
      Optional (flag.toNat.testBit 4) IsText comment

theorem reads_fields (flag : UInt8) :
    Reads (AreFields flag) (behindFields (Flags.ofByte flag)) := by
  have hextra := reads_extra.optional (fun _ _ => rfl) (flag.toNat.testBit 2)
  have hname := reads_text.optional (fun _ _ => rfl) (flag.toNat.testBit 3)
  have hcomment := reads_text.optional (fun _ _ => rfl) (flag.toNat.testBit 4)
  have htexts := hname.bind hcomment (settles_skipText _) (settles_skipText _)
  have hall :=
    hextra.bind htexts (settles_skipExtra _) ((settles_skipText _).bind (settles_skipText _))
  rw [Flags.ofByte_eq]
  exact hall

theorem flags_eq {b : ByteArray} {flag : UInt8} (h : b[3]? = some flag) :
    flags b = Flags.ofByte flag := by
  rw [flags, h, Option.getD_some]

theorem reserved_eq (flag : UInt8) : (Flags.ofByte flag).reserved = reservedBits flag := by
  rw [Flags.ofByte_eq]
  rfl

theorem checksum_eq (flag : UInt8) : (Flags.ofByte flag).checksum = flag.toNat.testBit 1 := by
  rw [Flags.ofByte_eq]

/-- The part of a header in front of its checksum is read to its end, whatever comes behind. -/
theorem Front.read {flag : UInt8} {front : ByteArray} (h : Front flag front) (r : ByteArray) :
    Opens (front ++ r) ∧ (front ++ r)[3]? = some flag ∧
      behindFields (Flags.ofByte flag) (front ++ r) 10 = some front.size := by
  obtain ⟨hreserved, hsix, hextra, hname, hcomment⟩ := h
  rename_i six extra name comment
  generalize hopening : Bytes.ofList [0x1f, 0x8b, 8, flag] = opening
  have hfour : opening.size = 4 := by
    rw [← hopening, Bytes.size_ofList]
    rfl
  have hten : (opening ++ six).size = 10 := by
    rw [ByteArray.size_append, hfour, hsix]
  have hbytes : ∀ i < 4, ∀ t, (opening ++ six ++ t)[i]? = [0x1f, 0x8b, 8, flag][i]? := by
    intro i hi t
    rw [ByteArray.append_assoc, Bytes.getElem?_append_left _ _ (by omega), ← hopening,
      Bytes.getElem?_ofList]
  have hfields : AreFields flag (extra ++ (name ++ comment)) :=
    ⟨extra, name ++ comment, rfl, hextra, name, comment, rfl, hname, hcomment⟩
  have hfound := (reads_fields flag).found (opening ++ six) hfields r
  rw [hten] at hfound
  rw [ByteArray.append_assoc (a := opening ++ six)]
  have hflag := hbytes 3 (by omega) (extra ++ (name ++ comment) ++ r)
  refine ⟨⟨?_, ?_, ?_, ?_⟩, hflag, ?_⟩
  · rw [badMagic, hbytes 0 (by omega), hbytes 1 (by omega)]
    rfl
  · rw [badMethod, hbytes 2 (by omega)]
    rfl
  · rw [ByteArray.size_append, hten]
    omega
  · rw [flags_eq hflag, reserved_eq, hreserved]
  · rw [hfound, ByteArray.size_append (a := opening ++ six), hten]

theorem front_of_fields {b : ByteArray} {i : Nat} (hopens : Opens b)
    (hi : behindFields (flags b) b 10 = some i) (hle : i ≤ b.size) :
    ∃ flag, b[3]? = some flag ∧ Front flag (b.extract 0 i) := by
  have hten := hopens.size_le
  have h10 := (settles_behindFields _).le hi
  obtain ⟨flag, hflag⟩ : ∃ flag, b[3]? = some flag := ⟨b[3], getElem?_pos b 3 (by omega)⟩
  have hreserved := hopens.reserved
  rw [flags_eq hflag] at hi hreserved
  have hmagic := hopens.magic
  have hmethod := hopens.method
  simp only [badMagic, badMethod, Bool.or_eq_false_iff, getElem?_pos b 0 (by omega),
    getElem?_pos b 1 (by omega), getElem?_pos b 2 (by omega), Option.any_some, bne_eq_false_iff_eq]
    at hmagic hmethod
  have hopening : b.extract 0 4 = Bytes.ofList [0x1f, 0x8b, 8, flag] := by
    have hstarts : Bytes.startsWith b [0x1f, 0x8b, 8, flag] = true := by
      apply Bytes.startsWith_of_getElem?
      intro k hk
      rcases k with _ | _ | _ | _ | k
      · rw [getElem?_pos b 0 (by omega), hmagic.1]
        rfl
      · rw [getElem?_pos b 1 (by omega), hmagic.2]
        rfl
      · rw [getElem?_pos b 2 (by omega), hmethod]
        rfl
      · exact hflag
      · simp at hk
        omega
    obtain ⟨rest, hrest⟩ := Bytes.startsWith_iff.mp hstarts
    have hfour : (Bytes.ofList [0x1f, 0x8b, 8, flag]).size = 4 := Bytes.size_ofList _
    rw [hrest, Bytes.extract_append_left _ _ (Nat.le_of_eq hfour.symm), ← hfour,
      ByteArray.extract_zero_size]
  obtain ⟨extra, rest, hsplit, hextra, name, comment, rfl, hname, hcomment⟩ :=
    (reads_fields flag).form hi hle
  have hsix : (b.extract 4 10).size = 6 := by
    rw [ByteArray.size_extract]
    omega
  have hfront : b.extract 0 i =
      Bytes.ofList [0x1f, 0x8b, 8, flag] ++ b.extract 4 10 ++ (extra ++ (name ++ comment)) := by
    rw [← hsplit, ← hopening, Bytes.extract_glue b (by omega) (by omega),
      Bytes.extract_glue b (by omega) h10]
  rw [reserved_eq] at hreserved
  refine ⟨flag, hflag, ?_⟩
  rw [hfront]
  exact .mk hreserved hsix hextra hname hcomment

theorem size_sum (front : ByteArray) : (sum front).size = 2 := by
  rw [sum, Bytes.size_ofList, Bytes.length_littleEndian]

theorem skipChecksum_eq (front r : ByteArray) {checksum : ByteArray} (hsize : checksum.size = 2) :
    (checksum = sum front →
      skipChecksum (front ++ (checksum ++ r)) true front.size = .ok (some (front.size + 2))) ∧
    (checksum ≠ sum front →
      skipChecksum (front ++ (checksum ++ r)) true front.size = .error .headerChecksum) := by
  have htwo : front.size + 2 ≤ (front ++ (checksum ++ r)).size := by
    simp only [ByteArray.size_append]
    omega
  have hread : (front ++ (checksum ++ r)).extract front.size (front.size + 2) = checksum := by
    have happend := Bytes.extract_append_right front (checksum ++ r) 0 2
    rw [Nat.add_zero, ← hsize, Bytes.extract_append_left _ _ (Nat.le_refl _),
      ByteArray.extract_zero_size, hsize] at happend
    exact happend
  have hbefore : (front ++ (checksum ++ r)).extract 0 front.size = front := by
    rw [Bytes.extract_append_left _ _ (Nat.le_refl _), ByteArray.extract_zero_size]
  have hiff :
      Bytes.le (front ++ (checksum ++ r)) front.size 2 = (Crc32.ofBytes front).toNat % 65536 ↔
      checksum = sum front := by
    constructor
    · intro h
      rw [sum, ← h, Bytes.ofList_le _ htwo, hread]
    · intro h
      exact Bytes.le_of_extract (hread.trans h) (Nat.mod_lt _ (by decide))
  rw [skipChecksum, if_pos rfl, if_pos htwo, hbefore]
  exact ⟨fun h => if_pos (hiff.mpr h), fun h => if_neg (mt hiff.mp h)⟩

theorem Laid.parse_eq {h : ByteArray} (hlaid : Laid h) : parse h = .ok (some h.size) := by
  obtain ⟨hfront, hchecksum⟩ := hlaid
  rename_i flag front checksum
  obtain ⟨hopens, hflag, hfields⟩ := hfront.read checksum
  refine parse_eq_some.mpr ⟨hopens, rest_eq_some.mpr ⟨front.size, ?_, ?_, Nat.le_refl _⟩⟩
  · rw [flags_eq hflag, hfields]
  · rw [flags_eq hflag, checksum_eq, ByteArray.size_append]
    cases hpresent : flag.toNat.testBit 1 with
    | false =>
      rw [Optional, hpresent, if_neg Bool.false_ne_true] at hchecksum
      rw [hchecksum, ByteArray.size_empty]
      rfl
    | true =>
      rw [Optional, hpresent, if_pos rfl] at hchecksum
      have htwo : checksum.size = 2 := by rw [hchecksum, size_sum]
      have hskip := (skipChecksum_eq front ByteArray.empty htwo).1 hchecksum
      rw [ByteArray.append_empty] at hskip
      rw [hskip, hchecksum, size_sum]

/-- The bytes from a position on, two of them first. -/
theorem split_at {b : ByteArray} {i : Nat} (h : i + 2 ≤ b.size) :
    b.extract 0 i ++ (b.extract i (i + 2) ++ b.extract (i + 2) b.size) = b := by
  rw [Bytes.extract_glue b (by omega) h, Bytes.extract_glue b (Nat.zero_le i) (by omega),
    ByteArray.extract_zero_size]

/-- What becomes of the checksum behind the fields. -/
theorem skipChecksum_at {b : ByteArray} {i : Nat} (h : i + 2 ≤ b.size) :
    (b.extract i (i + 2) = sum (b.extract 0 i) → skipChecksum b true i = .ok (some (i + 2))) ∧
    (b.extract i (i + 2) ≠ sum (b.extract 0 i) →
      skipChecksum b true i = .error .headerChecksum) := by
  have hfront : (b.extract 0 i).size = i := by
    rw [ByteArray.size_extract]
    omega
  have htwo : (b.extract i (i + 2)).size = 2 := by
    rw [ByteArray.size_extract]
    omega
  have hskip := skipChecksum_eq (b.extract 0 i) (b.extract (i + 2) b.size) htwo
  rw [split_at h, hfront] at hskip
  exact hskip

theorem laid_of_parse {b : ByteArray} {n : Nat} (h : parse b = .ok (some n)) :
    Laid (b.extract 0 n) := by
  obtain ⟨hopens, hrest⟩ := parse_eq_some.mp h
  obtain ⟨i, hi, hn, hle⟩ := rest_eq_some.mp hrest
  have hin := skipChecksum_le hn
  obtain ⟨flag, hflag, hfront⟩ := front_of_fields hopens hi (by omega)
  rw [flags_eq hflag, checksum_eq] at hn
  cases hpresent : flag.toNat.testBit 1 with
  | false =>
    rw [hpresent] at hn
    cases hn
    have hnone : Optional (flag.toNat.testBit 1) (· = sum (b.extract 0 n)) ByteArray.empty := by
      rw [hpresent]
      rfl
    have hlaid := Laid.mk hfront hnone
    rw [ByteArray.append_empty] at hlaid
    exact hlaid
  | true =>
    rw [hpresent] at hn
    have hsize : i + 2 ≤ b.size := by
      by_contra hlt
      rw [skipChecksum, if_pos rfl, if_neg hlt] at hn
      cases hn
    by_cases hsum : b.extract i (i + 2) = sum (b.extract 0 i)
    · rw [(skipChecksum_at hsize).1 hsum] at hn
      cases hn
      have hchecksum :
          Optional (flag.toNat.testBit 1) (· = sum (b.extract 0 i)) (b.extract i (i + 2)) := by
        rw [hpresent]
        exact hsum
      have hlaid := Laid.mk hfront hchecksum
      rw [Bytes.extract_glue b (Nat.zero_le i) (by omega)] at hlaid
      exact hlaid
    · rw [(skipChecksum_at hsize).2 hsum] at hn
      cases hn

theorem badMagic_iff {b : ByteArray} : badMagic b = true ↔
    (∃ x, b[0]? = some x ∧ x ≠ 0x1f) ∨ ∃ x, b[1]? = some x ∧ x ≠ 0x8b := by
  simp only [badMagic, Bool.or_eq_true, Option.any_eq_true, bne_iff_ne]

theorem badMethod_iff {b : ByteArray} : badMethod b = true ↔ ∃ x, b[2]? = some x ∧ x ≠ 8 := by
  simp only [badMethod, Option.any_eq_true, bne_iff_ne]

theorem spoiled_of_rest {b : ByteArray} {f : Fault} (hopens : Opens b) (h : rest b = .error f) :
    Spoiled b f := by
  unfold rest at h
  rw [skipFields_eq] at h
  split at h
  · cases h
  · next i hi =>
    split at h
    · next e he =>
      cases h
      have hpresent : (flags b).checksum = true := by
        by_contra habsent
        rw [skipChecksum, if_neg habsent] at he
        cases he
      have hsize : i + 2 ≤ b.size := by
        by_contra hlt
        rw [skipChecksum, if_pos hpresent, if_neg hlt] at he
        cases he
      obtain ⟨flag, hflag, hfront⟩ := front_of_fields hopens hi (by omega)
      rw [hpresent] at he
      rw [flags_eq hflag, checksum_eq] at hpresent
      by_cases hsum : b.extract i (i + 2) = sum (b.extract 0 i)
      · rw [(skipChecksum_at hsize).1 hsum] at he
        cases he
      · rw [(skipChecksum_at hsize).2 hsum] at he
        cases he
        have hsplit : b = b.extract 0 i ++ b.extract i (i + 2) ++ b.extract (i + 2) b.size := by
          rw [ByteArray.append_assoc, split_at hsize]
        have htwo : (b.extract i (i + 2)).size = 2 := by
          rw [ByteArray.size_extract]
          omega
        exact .headerChecksum ⟨flag, _, _, _, hsplit, hfront, hpresent, htwo, hsum⟩
    · cases h
    · cases h

/-- What is rejected is rejected for a reason. -/
theorem spoiled_of_parse {b : ByteArray} {f : Fault} (h : parse b = .error f) : Spoiled b f := by
  rw [Header.parse_eq] at h
  split at h
  · next hmagic =>
    cases h
    exact .magic (badMagic_iff.mp hmagic)
  · next hmagic =>
    split at h
    · next hmethod =>
      cases h
      exact .method (badMethod_iff.mp hmethod)
    · next hmethod =>
      split at h
      · cases h
      · next hsize =>
        split at h
        · next hreserved =>
          cases h
          have hflag : b[3]? = some b[3] := getElem?_pos b 3 (by omega)
          rw [flags_eq hflag, reserved_eq] at hreserved
          exact .reservedFlags (by omega) ⟨_, hflag, hreserved⟩
        · next hreserved =>
          have hopens : Opens b :=
            ⟨Bool.not_eq_true _ ▸ hmagic, Bool.not_eq_true _ ▸ hmethod, by omega,
            Bool.not_eq_true _ ▸ hreserved⟩
          exact spoiled_of_rest hopens h

/-- Whatever has a reason to be rejected is rejected. -/
theorem parse_of_spoiled {b : ByteArray} {f : Fault} (h : Spoiled b f) :
    ∃ g, parse b = .error g := by
  by_cases hmagic : badMagic b = true
  · exact ⟨_, by rw [Header.parse_eq, if_pos hmagic]⟩
  by_cases hmethod : badMethod b = true
  · exact ⟨_, by rw [Header.parse_eq, if_neg hmagic, if_pos hmethod]⟩
  cases h with
  | magic h => exact absurd (badMagic_iff.mpr h) hmagic
  | method h => exact absurd (badMethod_iff.mpr h) hmethod
  | reservedFlags hsize h =>
    obtain ⟨flag, hflag, hreserved⟩ := h
    refine ⟨.reservedFlags, ?_⟩
    rw [Header.parse_eq, if_neg hmagic, if_neg hmethod, if_neg (by omega), flags_eq hflag,
      reserved_eq, if_pos hreserved]
  | headerChecksum h =>
    obtain ⟨flag, front, checksum, r, rfl, hfront, hpresent, htwo, hsum⟩ := h
    rw [ByteArray.append_assoc] at hmagic hmethod ⊢
    obtain ⟨hopens, hflag, hfields⟩ := hfront.read (checksum ++ r)
    have hskip := (skipChecksum_eq front r htwo).2 hsum
    refine ⟨.headerChecksum, ?_⟩
    rw [parse_of_opens hopens, rest, skipFields_eq, flags_eq hflag, hfields]
    simp only [checksum_eq, hpresent, hskip]

/-- A header is found exactly where the bytes are laid out as one, and bytes are rejected exactly
for what speaks against a header. All else is left open, and what was said once stays true of more
bytes: only fronts that end before the header leave its length open. -/
theorem parse_recognizes (b : ByteArray) :
    (∀ n, parse b = .ok (some n) ↔ n ≤ b.size ∧ Laid (b.extract 0 n)) ∧
      ((∃ f, parse b = .error f) ↔ ∃ f, Spoiled b f) ∧ (∀ f, parse b = .error f → Spoiled b f) ∧
      (parse b = .ok none ↔
        (∀ n, n ≤ b.size → ¬ Laid (b.extract 0 n)) ∧ ∀ f, ¬ Spoiled b f) ∧
      (∀ r, parse b ≠ .ok none → parse (b ++ r) = parse b) ∧
      ∀ n m, parse b = .ok (some n) → m < n → parse (b.extract 0 m) = .ok none := by
  have hfound : ∀ n, parse b = .ok (some n) ↔ n ≤ b.size ∧ Laid (b.extract 0 n) := by
    intro n
    constructor
    · intro h
      exact ⟨(parse_bounds h).2, laid_of_parse h⟩
    · rintro ⟨hle, hlaid⟩
      have hfront := parse_append hlaid.parse_eq (b.extract n b.size)
      rw [Bytes.front_append_rest, ByteArray.size_extract, Nat.min_eq_left hle,
        Nat.sub_zero] at hfront
      exact hfront
  have hspoiled : (∃ f, parse b = .error f) ↔ ∃ f, Spoiled b f :=
    ⟨fun ⟨f, h⟩ => ⟨f, spoiled_of_parse h⟩, fun ⟨_, h⟩ => parse_of_spoiled h⟩
  refine ⟨hfound, hspoiled, fun f => spoiled_of_parse, ?_, fun r h => parse_append_of_settled h r,
    fun n m => parse_front_open⟩
  constructor
  · intro hopen
    constructor
    · intro n hle hlaid
      rw [(hfound n).mpr ⟨hle, hlaid⟩] at hopen
      cases hopen
    · intro f hf
      obtain ⟨g, hg⟩ := parse_of_spoiled hf
      rw [hg] at hopen
      cases hopen
  · rintro ⟨hnone, hsound⟩
    rcases hparse : parse b with f | _ | n
    · exact absurd (spoiled_of_parse hparse) (hsound f)
    · rfl
    · obtain ⟨hle, hlaid⟩ := (hfound n).mp hparse
      exact absurd hlaid (hnone n hle)

/-- A header with an extra field, a name and a checksum, with a byte behind it, and the same header
with another checksum. -/
theorem parse_recognizes_named :
    let b :=
      Bytes.ofList [0x1f, 0x8b, 8, 0x0e, 0, 0, 0, 0, 0, 3, 2, 0, 7, 9, 0x61, 0, 0x74, 0xb4, 5]
    let c :=
      Bytes.ofList [0x1f, 0x8b, 8, 0x0e, 0, 0, 0, 0, 0, 3, 2, 0, 7, 9, 0x61, 0, 0x74, 0xb5, 5]
    parse b = .ok (some 18) ∧ Laid (b.extract 0 18) ∧ parse (b ++ c) = .ok (some 18) ∧
      parse (b.extract 0 17) = .ok none ∧ Spoiled c .headerChecksum ∧ ∃ f, parse c = .error f := by
  intro b c
  have hb : parse b = .ok (some 18) := by
    have hread : (parse b).toOption = some (some 18) := by decide +kernel
    rcases hparse : parse b with f | n <;> rw [hparse] at hread <;> cases hread
    rfl
  have hc : parse c = .error .headerChecksum := by
    have hread :
        (match parse c with | .error f => some f | .ok _ => none) = some Fault.headerChecksum := by
      decide +kernel
    rcases hparse : parse c with f | n <;> rw [hparse] at hread <;> cases hread
    rfl
  obtain ⟨hfound, hrejected, hreason, -, hstays, hfront⟩ := parse_recognizes b
  have hsettled : parse b ≠ .ok none := by
    rw [hb]
    exact fun h => by cases h
  exact ⟨hb, ((hfound 18).mp hb).2, (hstays c hsettled).trans hb, hfront 18 17 hb (by decide),
    (parse_recognizes c).2.2.1 _ hc, _, hc⟩

end StreamCodec.Gzip.Header
