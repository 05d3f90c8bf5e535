import StreamCodec.Proofs.Dialect
import StreamCodec.Proofs.Extracting

/-!
What decompressing comes to for gzip: exactly the members are accepted, and every other byte
string has its own error. Where a member is found, the bytes behind it do not matter.
-/

namespace StreamCodec

namespace Gzip

/-- A member at the start of `b`: a header of `n` bytes, a body of `k` bytes that decodes to `out`,
and the eight bytes of the trailer that belongs to it. -/
structure IsMember (D : Grammar) (b : ByteArray) (n k : Nat) (out : ByteArray) : Prop where
  header : Header.parse b = .ok (some n)
  header_le : n ≤ Header.maxSize
  body : D.verdict (b.extract n b.size) = .complete k
  plain : D.plain (b.extract n b.size) = out
  trailer_le : n + k + 8 ≤ b.size
  checksum : Bytes.le b (n + k) 4 = (Crc32.ofBytes out).toNat
  length : Bytes.le b (n + k + 4) 4 = out.size % 0x100000000

namespace Member

variable {D : Grammar} {b : ByteArray} {n k : Nat}

theorem parse_front_iff :
    Header.parse (b.extract 0 Header.maxSize) = .ok (some n) ↔
      Header.parse b = .ok (some n) ∧ n ≤ Header.maxSize := by
  constructor
  · intro h
    obtain ⟨hwhole, hn⟩ := Header.exists_whole h
    have hparse := Header.parse_append hwhole.parse_eq (b.extract n b.size)
    rw [Bytes.front_append_rest, hn] at hparse
    exact ⟨hparse, hn ▸ hwhole.size_le⟩
  · rintro ⟨h, hle⟩
    have hn := (Header.parse_bounds h).2
    rw [← Bytes.front_append_rest b Header.maxSize] at h
    refine Header.parse_of_append h ?_
    rw [ByteArray.size_extract]
    omega

theorem check_eq (b out : ByteArray) (i : Nat) :
    (Tally.ofBytes out).check (b.extract i (i + 8)) =
      if Bytes.le b i 4 ≠ (Crc32.ofBytes out).toNat then .error .checksum
      else if Bytes.le b (i + 4) 4 ≠ out.size % 0x100000000 then .error .length
      else .ok () := by
  have hcrc : (Tally.ofBytes out).crcValue = (Crc32.ofBytes out).toNat := rfl
  have hlength : (Tally.ofBytes out).lengthValue = out.size % 0x100000000 := by
    rw [Tally.lengthValue, Tally.length_ofBytes]
  rw [Tally.check, hcrc, hlength, Bytes.le_extract b (by omega),
    Bytes.le_extract b (by omega), Nat.add_zero]

/-- What is left to decide when header and body have been found. -/
theorem verdict_found (hheader : Header.parse (b.extract 0 Header.maxSize) = .ok (some n))
    (hbody : D.verdict (b.extract n b.size) = .complete k) :
    verdict D b =
      if b.size < n + k + 8 then .unfinished
      else if Bytes.le b (n + k) 4 ≠ (Crc32.ofBytes (D.plain (b.extract n b.size))).toNat then
        .corrupt Fault.checksum.message
      else if Bytes.le b (n + k + 4) 4 ≠ (D.plain (b.extract n b.size)).size % 0x100000000 then
        .corrupt Fault.length.message
      else .complete (n + k + 8) := by
  have hn := (Header.parse_bounds hheader).2
  have hk := D.length_le _ _ hbody
  rw [ByteArray.size_extract] at hn hk
  have htrailer : (b.extract n b.size).extract k (k + Tally.trailerSize) =
      b.extract (n + k) (n + k + 8) := by
    rw [ByteArray.extract_extract, Bytes.extract_min_size, ← Nat.add_assoc, Tally.trailerSize]
  rw [verdict_of_some hheader, bodyVerdict_of_complete hbody, htrailer, closing, check_eq,
    ByteArray.size_extract, Tally.trailerSize]
  by_cases hshort : b.size < n + k + 8
  · rw [if_pos hshort, if_pos (by omega)]
  · rw [if_neg hshort, if_neg (by omega)]
    by_cases hchecksum : Bytes.le b (n + k) 4 = (Crc32.ofBytes (D.plain (b.extract n b.size))).toNat
    · rw [if_neg (not_not_intro hchecksum), if_neg (not_not_intro hchecksum)]
      by_cases hlength : Bytes.le b (n + k + 4) 4 =
        (D.plain (b.extract n b.size)).size % 0x100000000
      · rw [if_neg (not_not_intro hlength), if_neg (not_not_intro hlength)]
      · rw [if_pos hlength, if_pos hlength]
    · rw [if_pos hchecksum, if_pos hchecksum]

theorem verdict_eq_complete_iff {m : Nat} {out : ByteArray} :
    (verdict D b = .complete m ∧ plain D b = out) ↔ ∃ n k, IsMember D b n k out ∧
    m = n + k + 8 := by
  constructor
  · rintro ⟨hverdict, hplain⟩
    cases hheader : Header.parse (b.extract 0 Header.maxSize) with
    | error f => cases (verdict_of_error hheader).symm.trans hverdict
    | ok found =>
      cases found with
      | none =>
        rw [verdict_of_none hheader] at hverdict
        split at hverdict <;> cases hverdict
      | some n =>
        rw [plain_of_some hheader] at hplain
        obtain ⟨k, hbody, -, -⟩ :=
          bodyVerdict_complete ((verdict_of_some hheader).symm.trans hverdict)
        rw [verdict_found hheader hbody, hplain] at hverdict
        split at hverdict
        · cases hverdict
        · next hsize =>
          split at hverdict
          · cases hverdict
          · next hchecksum =>
            split at hverdict
            · cases hverdict
            · next hlength =>
              cases hverdict
              obtain ⟨hparse, hle⟩ := parse_front_iff.mp hheader
              exact ⟨n, k, ⟨hparse, hle, hbody, hplain, by omega, not_not.mp hchecksum,
                not_not.mp hlength⟩, rfl⟩
  · rintro ⟨n, k, h, rfl⟩
    have hheader := parse_front_iff.mpr ⟨h.header, h.header_le⟩
    have hle := h.trailer_le
    rw [verdict_found hheader h.body, h.plain, if_neg (by omega), if_neg (not_not_intro h.checksum),
      if_neg (not_not_intro h.length)]
    exact ⟨rfl, (plain_of_some hheader).trans h.plain⟩

/-- Header and body are found in any front that holds them, whatever comes behind. -/
theorem found_append {front r : ByteArray}
    (hheader : Header.parse ((front ++ r).extract 0 Header.maxSize) = .ok (some n))
    (hbody : D.verdict ((front ++ r).extract n (front ++ r).size) = .complete k)
    (hle : n + k ≤ front.size) (r' : ByteArray) :
    Header.parse ((front ++ r').extract 0 Header.maxSize) = .ok (some n) ∧
      D.verdict ((front ++ r').extract n (front ++ r').size) = .complete k ∧
      D.plain ((front ++ r').extract n (front ++ r').size) =
        D.plain ((front ++ r).extract n (front ++ r).size) := by
  obtain ⟨hparse, hn⟩ := parse_front_iff.mp hheader
  have hparse' := Header.parse_append (Header.parse_of_append hparse (by omega)) r'
  have hn' : n ≤ front.size := by omega
  rw [Bytes.extract_rest_append front r hn'] at hbody ⊢
  rw [Bytes.extract_rest_append front r' hn']
  have hinner : D.verdict (front.extract n front.size) = .complete k := by
    refine D.complete_of_append hbody ?_
    rw [ByteArray.size_extract]
    omega
  exact ⟨parse_front_iff.mpr ⟨hparse', hn⟩, D.complete_append hinner r',
    by rw [D.plain_settled _ r' k hinner, D.plain_settled _ r k hinner]⟩

/-- Behind the trailer nothing matters. -/
theorem verdict_front_append {front r : ByteArray}
    (hheader : Header.parse ((front ++ r).extract 0 Header.maxSize) = .ok (some n))
    (hbody : D.verdict ((front ++ r).extract n (front ++ r).size) = .complete k)
    (hle : n + k + 8 ≤ front.size) (r' : ByteArray) :
    verdict D (front ++ r') = verdict D (front ++ r) ∧
    plain D (front ++ r') = plain D (front ++ r) := by
  obtain ⟨hheader', hbody', hplain⟩ := found_append hheader hbody (by omega) r'
  have hlong : ∀ x, ¬ (front ++ x).size < n + k + 8 := by
    intro x
    rw [ByteArray.size_append]
    omega
  have hchecksum : ∀ x, Bytes.le (front ++ x) (n + k) 4 = Bytes.le front (n + k) 4 :=
    fun x => Bytes.le_append front x (by omega)
  have hlength : ∀ x, Bytes.le (front ++ x) (n + k + 4) 4 = Bytes.le front (n + k + 4) 4 :=
    fun x => Bytes.le_append front x (by omega)
  constructor
  · rw [verdict_found hheader hbody, verdict_found hheader' hbody', hplain, if_neg (hlong r),
      if_neg (hlong r'),
      hchecksum, hchecksum, hlength, hlength]
  · rw [plain_of_some hheader, plain_of_some hheader', hplain]

theorem verdict_extract_append (hheader : Header.parse (b.extract 0 Header.maxSize) = .ok (some n))
    (hbody : D.verdict (b.extract n b.size) = .complete k) (hle : n + k + 8 ≤ b.size)
    (rest : ByteArray) :
    verdict D (b.extract 0 (n + k + 8) ++ rest) = verdict D b ∧
      plain D (b.extract 0 (n + k + 8) ++ rest) = plain D b := by
  have hb := Bytes.front_append_rest b (n + k + 8)
  have hsize : n + k + 8 ≤ (b.extract 0 (n + k + 8)).size := by
    rw [ByteArray.size_extract]
    omega
  generalize b.extract 0 (n + k + 8) = front at hb hsize ⊢
  generalize b.extract (n + k + 8) b.size = r at hb
  subst hb
  exact verdict_front_append hheader hbody hsize rest

end Member

end Gzip

namespace OneShot

/-- Decompressing gzip accepts exactly the members, and says of every other byte string what is
wrong with it. Bytes behind a member do not matter, nor does the chunk size. -/
theorem decompressWith_gzip [Engines] {D : Grammar} (hD : (Engines.decoder .gzip).Follows .gzip D)
    (chunk : ChunkSize) (b : ByteArray) :
    let r := decompressWith (Decompressor.new .gzip chunk) b
    let front := b.extract 0 (min b.size Gzip.Header.maxSize)
    (∀ out used, (r.1 = .ok out ∧ r.2.bytesUsed = used) ↔
      ∃ n k, Gzip.IsMember D b n k out ∧ used = n + k + 8) ∧
    (∀ f, Gzip.Header.parse front = .error f → r.1 = .error (.decode .gzip f.message)) ∧
    (Gzip.Header.parse front = .ok none →
      (b.size < Gzip.Header.maxSize → r.1 = .error (.truncated .gzip)) ∧
      (Gzip.Header.maxSize ≤ b.size → r.1 = .error (.decode .gzip "header too long"))) ∧
    (∀ n, Gzip.Header.parse front = .ok (some n) →
      let body := b.extract n b.size
      (∀ m, D.verdict body = .corrupt m → r.1 = .error (.decode .gzip m)) ∧
      (D.verdict body = .unfinished → r.1 = .error (.truncated .gzip)) ∧
      (∀ k, D.verdict body = .complete k →
        (b.size < n + k + 8 → r.1 = .error (.truncated .gzip)) ∧
        (n + k + 8 ≤ b.size →
          (Bytes.le b (n + k) 4 ≠ (Crc32.ofBytes (D.plain body)).toNat →
            r.1 = .error (.decode .gzip "CRC-32 mismatch")) ∧
          (Bytes.le b (n + k) 4 = (Crc32.ofBytes (D.plain body)).toNat →
            Bytes.le b (n + k + 4) 4 ≠ (D.plain body).size % 0x100000000 →
            r.1 = .error (.decode .gzip "length mismatch")) ∧
          (∀ (chunk' : ChunkSize) (rest : ByteArray),
            let r' := decompressWith (Decompressor.new .gzip chunk')
              (b.extract 0 (n + k + 8) ++ rest)
            r'.1 = r.1 ∧ ∀ out, r.1 = .ok out → r'.2.bytesUsed = r.2.bytesUsed)))) := by
  intro r front
  have hE : Decompressor.Follows .gzip (Codec.gzip.Hands fun _ => True) (Gzip.member D)
      (Gzip.Decoder.Late _ _ _) := gzip_followsOn hD
  have hall : ∀ b, Codec.gzip.Hands (fun _ => True) b := Codec.gzip.hands_of_forall fun _ => trivial
  have hjudged : Judged .gzip (Gzip.member D) b r := decompressWith_judged hE chunk (hall b)
  have hfront : front = b.extract 0 Gzip.Header.maxSize := by
    simp only [front, Nat.min_comm b.size, Bytes.extract_min_size]
  rw [hfront]
  refine ⟨?accepts, ?fault, ?short, ?found⟩
  case accepts =>
    intro out used
    rw [← Gzip.Member.verdict_eq_complete_iff]
    constructor
    · rintro ⟨hok, rfl⟩
      exact hjudged.of_ok hok
    · rintro ⟨hverdict, hplain⟩
      obtain ⟨hok, hused, -⟩ := hjudged.complete hverdict
      exact ⟨hok.trans (congrArg Outcome.ok hplain), hused⟩
  case fault =>
    intro f hparse
    exact hjudged.corrupt (Gzip.Member.verdict_of_error hparse)
  case short =>
    intro hparse
    constructor
    · intro hshort
      have hopen : (Gzip.member D).verdict b = .unfinished :=
        (Gzip.Member.verdict_of_none hparse).trans (if_neg (Nat.not_le.mpr hshort))
      exact (hjudged.unfinished hopen).1
    · intro hlong
      exact hjudged.corrupt ((Gzip.Member.verdict_of_none hparse).trans (if_pos hlong))
  case found =>
    intro n hparse body
    refine ⟨?_, ?_, fun k hbody => ⟨?_, fun hlong => ⟨?_, ?_, ?_⟩⟩⟩
    · intro m hbody
      exact hjudged.corrupt ((Gzip.Member.verdict_of_some hparse).trans
        (Gzip.Member.bodyVerdict_of_corrupt hbody))
    · intro hbody
      have hopen : (Gzip.member D).verdict b = .unfinished :=
        (Gzip.Member.verdict_of_some hparse).trans (Gzip.Member.bodyVerdict_of_unfinished hbody)
      exact (hjudged.unfinished hopen).1
    · intro hshort
      exact (hjudged.unfinished ((Gzip.Member.verdict_found hparse hbody).trans (if_pos hshort))).1
    · intro hchecksum
      refine hjudged.corrupt ((Gzip.Member.verdict_found hparse hbody).trans ?_)
      rw [if_neg (Nat.not_lt.mpr hlong), if_pos hchecksum]
      rfl
    · intro hchecksum hlength
      refine hjudged.corrupt ((Gzip.Member.verdict_found hparse hbody).trans ?_)
      rw [if_neg (Nat.not_lt.mpr hlong), if_neg (not_not_intro hchecksum), if_pos hlength]
      rfl
    · intro chunk' rest
      have hjudged' := decompressWith_judged hE chunk' (hall (b.extract 0 (n + k + 8) ++ rest))
      obtain ⟨hverdict, hplain⟩ := Gzip.Member.verdict_extract_append hparse hbody hlong rest
      exact hjudged.eq hjudged' hverdict hplain

theorem decompressWith_gzip_line :
    letI : Engines := Deflate.Dialect.engines
    let r := decompressWith (Decompressor.new .gzip .standard) Deflate.Dialect.member
    r.1 = .ok (Bytes.ofList Deflate.Dialect.line) ∧ r.2.bytesUsed = 26 := by
  let : Engines := Deflate.Dialect.engines
  have hall := decompressWith_gzip Deflate.Dialect.decoder_follows .standard Deflate.Dialect.member
  exact (hall.1 _ 26).mpr
    ⟨10, 8, ⟨rfl, by decide, rfl, rfl, by decide, by decide +kernel, by decide +kernel⟩, rfl⟩

end OneShot

end StreamCodec
