import StreamCodec.Proofs.Gzip.Header
import StreamCodec.Proofs.Grammar

/-!
The grammar of a gzip member over the grammar of its body: a header, a body, and a trailer
that matches what the body decodes to.
-/

namespace StreamCodec.Gzip

namespace Tally

def ofBytes (b : ByteArray) : Tally := ({} : Tally).add b

theorem add_append (t : Tally) (a b : ByteArray) : t.add (a ++ b) = (t.add a).add b := by
  simp only [add, Crc32.update_append, ByteArray.size_append, Nat.add_assoc]

theorem ofBytes_append (a b : ByteArray) : ofBytes (a ++ b) = (ofBytes a).add b := add_append {} a b

@[simp] theorem length_ofBytes (b : ByteArray) : (ofBytes b).length = b.size := Nat.zero_add _

@[simp] theorem size_trailer (t : Tally) : t.trailer.size = trailerSize := by
  simp only [trailer, Bytes.size_ofList, List.length_append, Bytes.length_littleEndian, trailerSize]

theorem trailer_ofBytes (b : ByteArray) :
    (ofBytes b).trailer =
      Bytes.ofList (Bytes.littleEndian 4 (Crc32.ofBytes b).toNat ++ Bytes.littleEndian 4
        (b.size % 0x100000000)) := by
  rw [trailer, lengthValue, length_ofBytes]
  rfl

/-- The trailer that is written is the one that is looked for. -/
theorem check_trailer (t : Tally) : t.check t.trailer = .ok () := by
  have hcrc : Bytes.le t.trailer 0 4 = t.crcValue := by
    have hlt : t.crcValue < 4294967296 := UInt32.toNat_lt _
    have htake : (Bytes.littleEndian 4 t.crcValue ++ Bytes.littleEndian 4 t.lengthValue).take 4 =
        Bytes.littleEndian 4 t.crcValue := List.take_left' (Bytes.length_littleEndian 4 _)
    rw [trailer, Bytes.le_ofList, List.drop_zero, htake, Bytes.ofLittleEndian_littleEndian]
    exact Nat.mod_eq_of_lt hlt
  have hlength : Bytes.le t.trailer 4 4 = t.lengthValue := by
    have hlt : t.lengthValue < 4294967296 := Nat.mod_lt _ (by decide)
    have hdrop : (Bytes.littleEndian 4 t.crcValue ++ Bytes.littleEndian 4 t.lengthValue).drop 4 =
        Bytes.littleEndian 4 t.lengthValue := List.drop_left' (Bytes.length_littleEndian 4 _)
    rw [trailer, Bytes.le_ofList, hdrop, List.take_of_length_le
      (Nat.le_of_eq (Bytes.length_littleEndian 4 _)),
      Bytes.ofLittleEndian_littleEndian]
    exact Nat.mod_eq_of_lt hlt
  rw [check, if_neg (not_not_intro hcrc), if_neg (not_not_intro hlength)]

end Tally

namespace Header

/-- A header and no more. -/
structure Whole (h : ByteArray) : Prop where
  parse_eq : parse h = .ok (some h.size)
  size_le : h.size ≤ maxSize

@[simp] theorem size_written (level : Level) : (written level).size = 10 := Bytes.size_ofList _

theorem whole_written (level : Level) : Whole (written level) := by
  cases level <;> exact ⟨rfl, by decide⟩

theorem Whole.parse_front {h : ByteArray} (hh : Whole h) (body : ByteArray) :
    parse ((h ++ body).extract 0 maxSize) = .ok (some h.size) := by
  rw [Bytes.extract_append_of_le h body hh.size_le]
  exact parse_append hh.parse_eq _

/-- Bytes open with one header at most. -/
theorem Whole.unique {h h' body body' : ByteArray} (hh : Whole h) (hh' : Whole h')
    (hsame : h ++ body = h' ++ body') : h = h' ∧ body = body' := by
  have hparse := hh.parse_front body
  rw [hsame, hh'.parse_front body'] at hparse
  have hsize : h'.size = h.size := Option.some.inj (Except.ok.inj hparse)
  exact (ByteArray.append_eq_append_iff_of_size_eq_left hsize.symm).mp hsame

/-- A header that was found is the front of what is there. -/
theorem exists_whole {b : ByteArray} {n : Nat} (h : parse (b.extract 0 maxSize) = .ok (some n)) :
    Whole (b.extract 0 n) ∧ (b.extract 0 n).size = n := by
  have hn := (parse_bounds h).2
  rw [ByteArray.size_extract] at hn
  have hsize : (b.extract 0 n).size = n := by
    rw [ByteArray.size_extract]
    omega
  have hfront : (b.extract 0 maxSize).extract 0 n = b.extract 0 n := by
    rw [ByteArray.extract_extract, Nat.zero_add, Nat.zero_add, Nat.min_eq_left (by omega)]
  rw [← Bytes.front_append_rest (b.extract 0 maxSize) n, hfront] at h
  refine ⟨⟨?_, by omega⟩, hsize⟩
  rw [hsize]
  exact parse_of_append h (by omega)

end Header

namespace Member

/-- What the bytes behind a body of a member come to, where the body ends at `i`. -/
def closing (t : Tally) (i : Nat) (trailer : ByteArray) : Verdict :=
  if trailer.size < Tally.trailerSize then .unfinished
  else
    match t.check trailer with
    | .error f => .corrupt f.message
    | .ok () => .complete (i + Tally.trailerSize)

/-- What the bytes behind a header of `n` bytes come to. -/
def bodyVerdict (D : Grammar) (n : Nat) (b : ByteArray) : Verdict :=
  match D.verdict b with
  | .complete k => closing (Tally.ofBytes (D.plain b)) (n + k) (b.extract k (k + Tally.trailerSize))
  | .corrupt m => .corrupt m
  | .unfinished => .unfinished

def verdict (D : Grammar) (b : ByteArray) : Verdict :=
  match Header.parse (b.extract 0 Header.maxSize) with
  | .error f => .corrupt f.message
  | .ok none =>
    if Header.maxSize ≤ b.size then .corrupt Fault.headerTooLong.message else .unfinished
  | .ok (some n) => bodyVerdict D n (b.extract n b.size)

def plain (D : Grammar) (b : ByteArray) : ByteArray :=
  match Header.parse (b.extract 0 Header.maxSize) with
  | .ok (some n) => D.plain (b.extract n b.size)
  | _ => ByteArray.empty

variable {D : Grammar}

section Found

variable {b : ByteArray} {n : Nat}

theorem verdict_of_error {f : Fault} (h : Header.parse (b.extract 0 Header.maxSize) = .error f) :
    verdict D b = .corrupt f.message := by
  rw [verdict, h]

theorem verdict_of_none (h : Header.parse (b.extract 0 Header.maxSize) = .ok none) :
    verdict D b =
      if Header.maxSize ≤ b.size then .corrupt Fault.headerTooLong.message else .unfinished := by
  rw [verdict, h]

theorem verdict_of_some (h : Header.parse (b.extract 0 Header.maxSize) = .ok (some n)) :
    verdict D b = bodyVerdict D n (b.extract n b.size) := by
  rw [verdict, h]

theorem plain_of_some (h : Header.parse (b.extract 0 Header.maxSize) = .ok (some n)) :
    plain D b = D.plain (b.extract n b.size) := by
  rw [plain, h]

/-- Nothing is decoded before a header is found. -/
theorem plain_of_ne (h : ∀ n, Header.parse (b.extract 0 Header.maxSize) ≠ .ok (some n)) :
    plain D b = ByteArray.empty := by
  unfold plain
  split
  · next n hparse => exact absurd hparse (h n)
  · rfl

theorem bodyVerdict_of_corrupt {m : String} (h : D.verdict b = .corrupt m) :
    bodyVerdict D n b = .corrupt m := by
  rw [bodyVerdict, h]

theorem bodyVerdict_of_unfinished (h : D.verdict b = .unfinished) :
    bodyVerdict D n b = .unfinished := by
  rw [bodyVerdict, h]

theorem bodyVerdict_of_complete {k : Nat} (h : D.verdict b = .complete k) :
    bodyVerdict D n b =
      closing (Tally.ofBytes (D.plain b)) (n + k) (b.extract k (k + Tally.trailerSize)) := by
  rw [bodyVerdict, h]

end Found

theorem verdict_header {h : ByteArray} (hh : Header.Whole h) (body : ByteArray) :
    verdict D (h ++ body) = bodyVerdict D h.size body := by
  rw [verdict_of_some (hh.parse_front body),
    ByteArray.extract_append_eq_right rfl ByteArray.size_append]

theorem plain_header {h : ByteArray} (hh : Header.Whole h) (body : ByteArray) :
    plain D (h ++ body) = D.plain body := by
  rw [plain_of_some (hh.parse_front body),
    ByteArray.extract_append_eq_right rfl ByteArray.size_append]

/-- Behind a whole body it is the trailer that decides. -/
theorem verdict_trailer {h body : ByteArray} (hh : Header.Whole h)
    (hbody : D.verdict body = .complete body.size) (t : ByteArray) :
    verdict D (h ++ (body ++ t)) =
      closing (Tally.ofBytes (D.plain body)) (h.size + body.size)
        (t.extract 0 Tally.trailerSize) := by
  have htrailer := Bytes.extract_append_right body t 0 Tally.trailerSize
  rw [Nat.add_zero] at htrailer
  rw [verdict_header hh, bodyVerdict_of_complete (D.complete_append hbody t),
    D.plain_settled body t _ hbody, htrailer]

/-- Bytes that may still become a header leave everything open. -/
theorem verdict_open {b : ByteArray} (hopen : Header.parse b = .ok none)
    (hsize : b.size < Header.maxSize) :
    verdict D b = .unfinished ∧ plain D b = ByteArray.empty := by
  have hfront : b.extract 0 Header.maxSize = b := by
    rw [Bytes.extract_of_size_le b (Nat.le_of_lt hsize), ByteArray.extract_zero_size]
  rw [← hfront] at hopen
  refine ⟨(verdict_of_none hopen).trans (if_neg (Nat.not_le.mpr hsize)), plain_of_ne ?_⟩
  intro n hparse
  cases hopen.symm.trans hparse

/-- So does a trailer that is not complete. -/
theorem verdict_trailer_open {h body : ByteArray} (hh : Header.Whole h)
    (hbody : D.verdict body = .complete body.size) {t : ByteArray}
    (ht : t.size < Tally.trailerSize) :
    verdict D (h ++ (body ++ t)) = .unfinished ∧ plain D (h ++ (body ++ t)) = D.plain body := by
  have hfront : t.extract 0 Tally.trailerSize = t := by
    rw [Bytes.extract_of_size_le t (Nat.le_of_lt ht), ByteArray.extract_zero_size]
  rw [verdict_trailer hh hbody, plain_header hh, hfront, D.plain_settled body t _ hbody]
  exact ⟨if_pos ht, rfl⟩

theorem closing_of_ok {t : Tally} {trailer : ByteArray} (i : Nat)
    (hsize : Tally.trailerSize ≤ trailer.size)
    (h : t.check trailer = .ok ()) : closing t i trailer = .complete (i + Tally.trailerSize) := by
  rw [closing, if_neg (Nat.not_lt.mpr hsize), h]

theorem closing_of_error {t : Tally} {trailer : ByteArray} {f : Fault} (i : Nat)
    (hsize : Tally.trailerSize ≤ trailer.size) (h : t.check trailer = .error f) :
    closing t i trailer = .corrupt f.message := by
  rw [closing, if_neg (Nat.not_lt.mpr hsize), h]

theorem closing_complete {t : Tally} {i n : Nat} {trailer : ByteArray}
    (h : closing t i trailer = .complete n) :
    Tally.trailerSize ≤ trailer.size ∧ n = i + Tally.trailerSize := by
  unfold closing at h
  split at h
  · cases h
  · split at h
    · cases h
    · cases h
      exact ⟨by omega, rfl⟩

theorem bodyVerdict_complete {n m : Nat} {b : ByteArray} (h : bodyVerdict D n b = .complete m) :
    ∃ k, D.verdict b = .complete k ∧ m = n + k + Tally.trailerSize ∧
      k + Tally.trailerSize ≤ b.size := by
  unfold bodyVerdict at h
  split at h
  · next k hk =>
    obtain ⟨hsize, rfl⟩ := closing_complete h
    rw [ByteArray.size_extract] at hsize
    have hle := D.length_le b k hk
    exact ⟨k, hk, rfl, by omega⟩
  · cases h
  · cases h

theorem bodyVerdict_append {n : Nat} {b : ByteArray} (h : bodyVerdict D n b ≠ .unfinished)
    (r : ByteArray) : bodyVerdict D n (b ++ r) = bodyVerdict D n b := by
  cases hverdict : D.verdict b with
  | complete k =>
    rw [bodyVerdict_of_complete hverdict] at h
    have hsize : k + Tally.trailerSize ≤ b.size := by
      by_contra hlt
      have hle := D.length_le b k hverdict
      refine h (if_pos ?_)
      rw [ByteArray.size_extract]
      omega
    rw [bodyVerdict_of_complete hverdict, bodyVerdict_of_complete (D.complete_append hverdict r),
      D.plain_settled b r k hverdict, Bytes.extract_append_left b r hsize]
  | corrupt m =>
    rw [bodyVerdict_of_corrupt hverdict, bodyVerdict_of_corrupt (D.corrupt_append hverdict r)]
  | unfinished => exact absurd (bodyVerdict_of_unfinished hverdict) h

theorem bodyVerdict_front {n m : Nat} {b : ByteArray} (h : bodyVerdict D n b = .complete m) :
    bodyVerdict D n (b.extract 0 (m - n)) = .complete m := by
  obtain ⟨k, hverdict, rfl, hsize⟩ := bodyVerdict_complete h
  have hfront : b.extract 0 (n + k + Tally.trailerSize - n) =
      b.extract 0 k ++ b.extract k (k + Tally.trailerSize) := by
    rw [ByteArray.extract_append_extract, Nat.zero_min, Nat.max_eq_right (by omega),
      show n + k + Tally.trailerSize - n = k + Tally.trailerSize by omega]
  have hbody := D.verdict_front b k hverdict
  have hsizebody : (b.extract 0 k).size = k := by
    rw [ByteArray.size_extract]
    omega
  have hplain : D.plain (b.extract 0 k ++ b.extract k (k + Tally.trailerSize)) = D.plain b := by
    rw [D.plain_settled _ _ k hbody, D.plain_front hverdict]
  have htrailer : (b.extract 0 k ++ b.extract k (k + Tally.trailerSize)).extract k
      (k + Tally.trailerSize) =
      b.extract k (k + Tally.trailerSize) := by
    refine ByteArray.extract_append_eq_right hsizebody.symm ?_
    rw [hsizebody, ByteArray.size_extract]
    omega
  rw [bodyVerdict_of_complete hverdict] at h
  rw [hfront, bodyVerdict_of_complete (D.complete_append hbody _), hplain, htrailer]
  exact h

theorem verdict_append (b r : ByteArray) (h : verdict D b ≠ .unfinished) :
    verdict D (b ++ r) = verdict D b := by
  cases hparse : Header.parse (b.extract 0 Header.maxSize) with
  | error f =>
    have hlater := Header.parse_error_append hparse
      (r.extract (0 - b.size) (Header.maxSize - b.size))
    rw [← ByteArray.extract_append] at hlater
    rw [verdict_of_error hparse, verdict_of_error hlater]
  | ok found =>
    cases found with
    | none =>
      have hsize : Header.maxSize ≤ b.size := by
        by_contra hlt
        exact h ((verdict_of_none hparse).trans (if_neg hlt))
      have hsize' : Header.maxSize ≤ (b ++ r).size := by
        rw [ByteArray.size_append]
        omega
      have hparse' : Header.parse ((b ++ r).extract 0 Header.maxSize) = .ok none := by
        rw [Bytes.extract_append_left b r hsize, hparse]
      rw [verdict_of_none hparse, verdict_of_none hparse', if_pos hsize, if_pos hsize']
    | some n =>
      obtain ⟨hwhole, hn⟩ := Header.exists_whole hparse
      rw [← Bytes.front_append_rest b n] at h ⊢
      rw [verdict_header hwhole] at h
      rw [ByteArray.append_assoc, verdict_header hwhole, verdict_header hwhole,
        bodyVerdict_append h r]

theorem verdict_complete {b : ByteArray} {m : Nat} (h : verdict D b = .complete m) :
    ∃ n, Header.Whole (b.extract 0 n) ∧ (b.extract 0 n).size = n ∧
      bodyVerdict D n (b.extract n b.size) = .complete m := by
  unfold verdict at h
  split at h
  · cases h
  · split at h <;> cases h
  · next n hparse =>
    obtain ⟨hwhole, hn⟩ := Header.exists_whole hparse
    exact ⟨n, hwhole, hn, h⟩

theorem length_le (b : ByteArray) (m : Nat) (h : verdict D b = .complete m) : m ≤ b.size := by
  obtain ⟨n, _, hn, hbody⟩ := verdict_complete h
  obtain ⟨k, _, rfl, hsize⟩ := bodyVerdict_complete hbody
  rw [ByteArray.size_extract] at hn hsize
  omega

theorem verdict_front (b : ByteArray) (m : Nat) (h : verdict D b = .complete m) :
    verdict D (b.extract 0 m) = .complete m := by
  obtain ⟨n, hwhole, hn, hbody⟩ := verdict_complete h
  obtain ⟨k, _, hm, _⟩ := bodyVerdict_complete hbody
  rw [← Bytes.front_append_rest b n, Bytes.extract_append_of_le _ _ (by omega),
    verdict_header hwhole, hn]
  exact bodyVerdict_front hbody

theorem plain_append (b r : ByteArray) : ∃ more, plain D (b ++ r) = plain D b ++ more := by
  by_cases hfound : ∃ n, Header.parse (b.extract 0 Header.maxSize) = .ok (some n)
  · obtain ⟨n, hparse⟩ := hfound
    obtain ⟨hwhole, hn⟩ := Header.exists_whole hparse
    obtain ⟨more, hmore⟩ := D.plain_append (b.extract n b.size) r
    refine ⟨more, ?_⟩
    rw [← Bytes.front_append_rest b n, ByteArray.append_assoc, plain_header hwhole,
      plain_header hwhole, hmore]
  · refine ⟨plain D (b ++ r), ?_⟩
    rw [plain_of_ne (not_exists.mp hfound), ByteArray.empty_append]

theorem plain_settled (b r : ByteArray) (m : Nat) (h : verdict D b = .complete m) :
    plain D (b ++ r) = plain D b := by
  obtain ⟨n, hwhole, hn, hbody⟩ := verdict_complete h
  obtain ⟨k, hk, _, _⟩ := bodyVerdict_complete hbody
  rw [← Bytes.front_append_rest b n, ByteArray.append_assoc, plain_header hwhole,
    plain_header hwhole,
    D.plain_settled _ r k hk]

end Member

/-- The grammar of a member whose body has the grammar `D`. -/
def member (D : Grammar) : Grammar where
  verdict := Member.verdict D
  plain := Member.plain D
  verdict_empty := rfl
  plain_empty := rfl
  length_le := Member.length_le
  verdict_append := Member.verdict_append
  verdict_front := Member.verdict_front
  plain_append := Member.plain_append
  plain_settled := Member.plain_settled

-- Without this, comparing the fields above with their values unfolds the parser.
attribute [irreducible] Member.verdict Member.plain

end StreamCodec.Gzip
