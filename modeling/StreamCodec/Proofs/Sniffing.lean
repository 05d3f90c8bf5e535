import StreamCodec.Proofs.Collecting
import StreamCodec.Proofs.Compressing
import StreamCodec.Proofs.Lookup
import StreamCodec.Proofs.Streams

/-!
What the first bytes of a stream say of its format. Each format has its own opening, no bytes
open two of the formats that can be told, and the sniffer names the format whose opening the bytes
have. So bytes that one decoder accepts are taken for its format, and for no other one.
-/

namespace StreamCodec

namespace Codec

/-- A skippable frame: sixteen magic numbers that differ in the low half of their first byte. -/
def Skippable (b : ByteArray) : Prop :=
  ∃ x : UInt8, x.toNat / 16 = 5 ∧ Bytes.startsWith b [x, 0x2a, 0x4d, 0x18] = true

/-- The first two bytes of a zlib stream: method 8, a window of at most 32 KiB, no dictionary, and a
check. -/
structure ZlibOpens (x y : UInt8) : Prop where
  method : x.toNat % 16 = 8
  window : x.toNat / 16 ≤ 7
  dictionary : y.toNat / 32 % 2 = 0
  check : (256 * x.toNat + y.toNat) % 31 = 0

/-- How the streams of a format open. Those of raw DEFLATE and of Brotli have no mark. -/
def Opens : Codec → ByteArray → Prop
  | gzip, b => Bytes.startsWith b [0x1f, 0x8b] = true
  | bzip2, b => ∃ level ∈ [0x31, 0x32, 0x33, 0x34, 0x35, 0x36, 0x37, 0x38, 0x39],
      Bytes.startsWith b [0x42, 0x5a, 0x68, level] = true
  | lzma, b => Bytes.startsWith b [0xfd, 0x37, 0x7a, 0x58, 0x5a, 0x00] = true
  | zlib, b => ∃ x y, ZlibOpens x y ∧ Bytes.startsWith b [x, y] = true
  | zstd, b => Bytes.startsWith b [0x28, 0xb5, 0x2f, 0xfd] = true ∨ Skippable b
  | deflate, _ | brotli, _ => True

variable {c c' : Codec} {b : ByteArray}

theorem Skippable.append (h : Skippable b) (r : ByteArray) : Skippable (b ++ r) := by
  obtain ⟨x, hx, hb⟩ := h
  exact ⟨x, hx, Bytes.startsWith_append hb r⟩

theorem not_skippable {u : UInt8} {m : List UInt8} (h : Bytes.startsWith b (u :: m) = true)
    (hu : u.toNat / 16 ≠ 5) : ¬ Skippable b := by
  rintro ⟨x, hx, hb⟩
  cases (Bytes.getElem?_of_startsWith hb (Nat.succ_pos _)).symm.trans
    (Bytes.getElem?_of_startsWith h (Nat.succ_pos _))
  exact hu hx

theorem Opens.append (h : c.Opens b) (r : ByteArray) : c.Opens (b ++ r) := by
  cases c with
  | gzip | lzma => exact Bytes.startsWith_append h r
  | bzip2 =>
    obtain ⟨level, hlevel, hb⟩ := h
    exact ⟨level, hlevel, Bytes.startsWith_append hb r⟩
  | zlib =>
    obtain ⟨x, y, hopens, hb⟩ := h
    exact ⟨x, y, hopens, Bytes.startsWith_append hb r⟩
  | zstd => exact h.imp (Bytes.startsWith_append · r) (·.append r)
  | deflate | brotli => trivial

end Codec

namespace Sniffer

open Codec

variable {c c' : Codec} {b : ByteArray} {l m : List UInt8}

/-- Of two marks that differ, a byte string has one at most. -/
theorem startsWith_eq_false (h : Bytes.startsWith b l = true) (hlm : l.isPrefixOf m = false)
    (hml : m.isPrefixOf l = false) : Bytes.startsWith b m = false := by
  by_contra hm
  rw [Bool.not_eq_false] at hm
  obtain hle | hle := Nat.le_total l.length m.length
  · rw [Bytes.isPrefixOf_of_startsWith h hm hle] at hlm
    cases hlm
  · rw [Bytes.isPrefixOf_of_startsWith hm h hle] at hml
    cases hml

/-- The signature of a format is tried before those that the bytes do not have. -/
theorem codec?_eq (b : ByteArray) : codec? b =
    if Bytes.startsWith b [0x1f, 0x8b] then some .gzip
    else if Bytes.startsWith b [0x42, 0x5a, 0x68] then some .bzip2
    else if Bytes.startsWith b [0xfd, 0x37, 0x7a, 0x58] then some .lzma
    else if Bytes.startsWith b [0x28, 0xb5, 0x2f, 0xfd] then some .zstd
    else if resemblesZlib b then some .zlib else none := by
  simp only [codec?, signatures, List.find?_cons, List.find?_nil]
  cases Bytes.startsWith b [0x1f, 0x8b] <;> cases Bytes.startsWith b [0x42, 0x5a, 0x68] <;>
    cases Bytes.startsWith b [0xfd, 0x37, 0x7a, 0x58] <;>
      cases Bytes.startsWith b [0x28, 0xb5, 0x2f, 0xfd] <;> rfl

theorem resemblesZlib_of_opens {x y : UInt8} (h : ZlibOpens x y)
    (hb : Bytes.startsWith b [x, y] = true) :
    resemblesZlib b = true := by
  obtain ⟨rest, rfl⟩ := Bytes.startsWith_iff.mp hb
  have hfirst : (Bytes.ofList [x, y] ++ rest)[0]? = some x :=
    Bytes.getElem?_of_startsWith (l := [x, y]) hb Nat.two_pos
  have hmethod : x &&& 0x0f = 8 := by
    apply UInt8.toNat_inj.mp
    rw [UInt8.toNat_and]
    exact (Nat.and_two_pow_sub_one_eq_mod x.toNat 4).trans h.method
  have hwindow : x >>> 4 ≤ 7 := by
    rw [UInt8.le_iff_toNat_le, UInt8.toNat_shiftRight]
    exact Nat.le_trans (Nat.le_of_eq (Nat.shiftRight_eq_div_pow x.toNat 4)) h.window
  rw [resemblesZlib, hfirst, Option.getD_some, hmethod, ByteArray.size_append, Bytes.size_ofList]
  simp [hwindow]

theorem startsWith_of_zlib {x y u v : UInt8} (h : ZlibOpens x y)
    (hb : Bytes.startsWith b [x, y] = true)
    (hother : ¬ ZlibOpens u v) (m : List UInt8) : Bytes.startsWith b (u :: v :: m) = false := by
  by_contra hm
  rw [Bool.not_eq_false] at hm
  have hlong : 1 < (u :: v :: m).length := Nat.succ_lt_succ (Nat.succ_pos _)
  have hfirst := (Bytes.getElem?_of_startsWith hb Nat.two_pos).symm.trans
    (Bytes.getElem?_of_startsWith hm (Nat.lt_of_succ_lt hlong))
  have hsecond := (Bytes.getElem?_of_startsWith hb Nat.one_lt_two).symm.trans
    (Bytes.getElem?_of_startsWith hm hlong)
  cases hfirst
  cases hsecond
  exact hother h

/-- The marks of the formats differ, so the sniffer names the format whose opening the bytes
have. -/
theorem codec?_of_opens (hc : c.sniffable = true) (h : c.Opens b)
    (hskip : c = .zstd → ¬ Skippable b) :
    codec? b = some c := by
  rw [codec?_eq]
  cases c with
  | gzip => exact if_pos h
  | bzip2 =>
    obtain ⟨level, -, hb⟩ := h
    have hmark : Bytes.startsWith b [0x42, 0x5a, 0x68] = true :=
      Bytes.startsWith_of_append (m := [level]) hb
    rw [startsWith_eq_false hmark rfl rfl, hmark]
    rfl
  | lzma =>
    have hmark : Bytes.startsWith b [0xfd, 0x37, 0x7a, 0x58] = true :=
      Bytes.startsWith_of_append (m := [0x5a, 0x00]) h
    rw [startsWith_eq_false hmark rfl rfl, startsWith_eq_false hmark rfl rfl, hmark]
    rfl
  | zlib =>
    obtain ⟨x, y, hopens, hb⟩ := h
    rw [startsWith_of_zlib hopens hb (fun h => absurd h.method (by decide)),
      startsWith_of_zlib hopens hb (fun h => absurd h.method (by decide)),
      startsWith_of_zlib hopens hb (fun h => absurd h.method (by decide)),
      startsWith_of_zlib hopens hb (fun h => absurd h.check (by decide)),
      resemblesZlib_of_opens hopens hb]
    rfl
  | zstd =>
    have hmark : Bytes.startsWith b [0x28, 0xb5, 0x2f, 0xfd] = true := h.resolve_right (hskip rfl)
    rw [startsWith_eq_false hmark rfl rfl, startsWith_eq_false hmark rfl rfl,
      startsWith_eq_false hmark rfl rfl, hmark]
    rfl
  | deflate | brotli => cases hc

/-- A skippable frame opens no other format that can be told. -/
theorem eq_zstd_of_skippable (hc : c.sniffable = true) (h : c.Opens b) (hskip : Skippable b) :
    c = .zstd := by
  cases c with
  | gzip | lzma => exact absurd hskip (not_skippable h (by decide))
  | bzip2 =>
    obtain ⟨level, -, hmark⟩ := h
    exact absurd hskip (not_skippable hmark (by decide))
  | zlib =>
    obtain ⟨x, hx, hb⟩ := hskip
    obtain ⟨y, z, hopens, hmark⟩ := h
    have hother : ¬ ZlibOpens x 0x2a := by
      intro h
      have hmethod := h.method
      have hcheck := h.check
      rw [show (0x2a : UInt8).toNat = 42 from rfl] at hcheck
      omega
    rw [startsWith_of_zlib hopens hmark hother] at hb
    cases hb
  | zstd => rfl
  | deflate | brotli => cases hc

/-- No bytes open two of the formats that can be told. -/
theorem opens_unique (hc : c.sniffable = true) (hc' : c'.sniffable = true) (h : c.Opens b)
    (h' : c'.Opens b) : c = c' := by
  by_cases hskip : Skippable b
  · rw [eq_zstd_of_skippable hc h hskip, eq_zstd_of_skippable hc' h' hskip]
  · have hnamed := codec?_of_opens hc h fun _ => hskip
    have hnamed' := codec?_of_opens hc' h' fun _ => hskip
    exact Option.some.inj (hnamed.symm.trans hnamed')

end Sniffer

/-- The native decoder of a format reports the end only of what opens as a stream of the format. -/
def NativeDecoder.Opens (N : NativeDecoder) (codec : Codec) : Prop :=
  ∀ {read written s}, (N.engine codec).Reached N.fresh (fun _ => codec.Fits) true read written s →
    codec.Opens read

/-- What the native encoder of a format has written at its end does not open as a skippable
frame. -/
def NativeEncoder.WritesFrames (N : NativeEncoder) (codec : Codec) : Prop :=
  ∀ {taken written s}, (N.engine codec.inner).Reached N.fresh codec.Permits .ended taken written s →
    ¬ Codec.Skippable written

theorem Gzip.Header.Whole.startsWith {h : ByteArray} (hh : Whole h) :
    Bytes.startsWith h [0x1f, 0x8b] = true := by
  obtain ⟨⟨hmagic, -, hsize, -⟩, -⟩ := parse_eq_some.mp hh.parse_eq
  rw [badMagic, Bool.or_eq_false_iff, getElem?_pos h 0 (by omega), getElem?_pos h 1 (by omega),
    Option.any_some, Option.any_some, bne_eq_false_iff_eq, bne_eq_false_iff_eq] at hmagic
  apply Bytes.startsWith_of_getElem?
  intro i hi
  have htwo : i < 2 := hi
  obtain rfl | rfl : i = 0 ∨ i = 1 := by omega
  · rw [getElem?_pos h 0 (by omega), hmagic.1]
    rfl
  · rw [getElem?_pos h 1 (by omega), hmagic.2]
    rfl

/-- So does the decoder of the format; for gzip it is the header that it reads itself. -/
theorem decodeEngine_opens {codec : Codec} {N : NativeDecoder} (hN : codec ≠ .gzip → N.Opens codec)
    {read written : ByteArray} {s : DecoderState codec N}
    (h : (decodeEngine codec N).Reached (newDecoder codec N)
      (fun _ _ => True) true read written s) :
    codec.Opens read := by
  cases codec with
  | gzip =>
    obtain ⟨header, body, trailer, rfl, hwhole⟩ := Gzip.Decoder.readWhole_of_reached h
    exact Bytes.startsWith_append hwhole.header.startsWith _
  | bzip2 => exact hN (by decide) (DecodeEngine.reached_of_sparing_any h)
  | deflate | zlib | lzma | brotli | zstd => exact hN (by decide) h

namespace OneShot

open Codec

variable [Engines] {c c' : Codec} {chunk : ChunkSize} {b out : ByteArray}

theorem opens_of_decompressWith (hD : c ≠ .gzip → (Engines.decoder c).Opens c)
    (h : (decompressWith (Decompressor.new c chunk) b).1 = .ok out) : c.Opens b := by
  obtain ⟨hfinished, session, read, hd, ht, rfl⟩ := decompressWith_eq_ok (Prod.ext h rfl)
  have hreach := ht.reached
  rw [hd] at hfinished
  rw [show session.finished = true from hfinished] at hreach
  exact (decodeEngine_opens hD hreach).append _

theorem decompressAuto_of_codec? (h : Sniffer.codec? b = some c) :
    decompressAuto b = (decompressWith (Decompressor.new c .standard) b).1 := by
  simp only [decompressAuto, Sniffer.decompressor?, h, Option.map_some]

/-- Bytes that a decoder accepts are taken for its format. -/
theorem codec?_of_decompressWith (hD : c ≠ .gzip → (Engines.decoder c).Opens c)
    (hc : c.sniffable = true) (hskip : c = .zstd → ¬ Skippable b)
    (h : (decompressWith (Decompressor.new c chunk) b).1 = .ok out) : Sniffer.codec? b = some c :=
  Sniffer.codec?_of_opens hc (opens_of_decompressWith hD h) hskip

/-- What is compressed is decompressed, and what stands behind it is left alone. The native decoder
only has to keep to the grammar along what the native encoder writes. -/
theorem decompressWith_of_compressWith {level : Level} {G : Grammar}
    (hE : (Engines.encoder c level).Follows c G)
    (hD : (Engines.decoder c).FollowsOn c (Along ((Engines.encoder c level).Writes c)) G)
    (chunk : ChunkSize) (data : ByteArray) :
    ∃ packed session, compressWith (Compressor.new c level chunk) data =
        (.ok packed, Compressor.mk c level chunk session) ∧
      (Compressor.engine c level).Reached (newEncoder c (Engines.encoder c level) level)
        EncodeEngine.Any .ended data packed session.engine ∧
      ∀ chunk' r, (decompressWith (Decompressor.new c chunk') (packed ++ r)).1 = .ok data := by
  obtain ⟨packed, session, hpack, -, hreach⟩ := compressWith_closes hE chunk data
  obtain ⟨hverdict, hplain⟩ := (encodeEngine_follows hE level).complete hreach
  obtain ⟨Late, hfollows⟩ := Decompressor.follows_framed hD
  refine ⟨packed, session, hpack, hreach, fun chunk' r => ?_⟩
  have hcomplete := (c.framed G).complete_append hverdict r
  have hoffered : c.Hands _ (packed ++ r) := hands_of_reached hreach ByteArray.append_empty
  obtain ⟨hok, -, -⟩ := (decompressWith_judged hfollows chunk' hoffered).complete hcomplete
  rw [hok, (c.framed G).plain_settled packed r packed.size hverdict, hplain]

omit [Engines] in
theorem not_skippable_of_reached {N : NativeEncoder} (hN : N.WritesFrames .zstd)
    {taken written : ByteArray} {s : N.State} {level : Level}
    (h : (encodeEngine .zstd N).Reached (newEncoder .zstd N level) EncodeEngine.Any .ended taken
      written s) : ¬ Skippable written := by
  obtain ⟨inner, rfl | ⟨-, rest, hrest⟩, hreach⟩ :=
    EncodeEngine.reached_of_inputFirst (fun _ => id) h
  · exact hN hreach.left
  · cases hrest

/-- The sniffer agrees with the decoders. Bytes that the decoder of a format accepts are taken for
that format, and no decoder of another format accepts them; bytes that are taken for none are of
unknown format; and what was compressed is recognised, with anything behind it. -/
theorem decompressAuto_of_decompressNamed
    (hD : ∀ c : Codec, c.sniffable = true → c ≠ .gzip → (Engines.decoder c).Opens c) :
    (∀ (b : ByteArray) (c : Codec) (out : ByteArray), c.sniffable = true →
      (c = .zstd → ¬ Skippable b) → decompressNamed c.name b = .ok out →
        Sniffer.codec? b = some c ∧
          (∀ chunk, Sniffer.decompressor? b chunk = some (Decompressor.new c chunk)) ∧
            decompressAuto b = .ok out) ∧
    (∀ (b : ByteArray) (c c' : Codec) (out out' : ByteArray), c.sniffable = true →
      c'.sniffable = true →
      decompressNamed c.name b = .ok out → decompressNamed c'.name b = .ok out' → c = c') ∧
    (∀ b, Sniffer.codec? b = none → decompressAuto b = .error .unrecognizedFormat) ∧
    (∀ (c : Codec) (level : Level) (G : Grammar), c.sniffable = true →
      (Engines.encoder c level).Follows c G →
        (Engines.decoder c).FollowsOn c (Along ((Engines.encoder c level).Writes c)) G →
        (c = .zstd → (Engines.encoder c level).WritesFrames c) →
          ∀ (chunk : ChunkSize) (data r : ByteArray), ∃ packed session,
            compressWith (Compressor.new c level chunk) data =
                (.ok packed, Compressor.mk c level chunk session) ∧
              decompressAuto (packed ++ r) = .ok data) := by
  refine ⟨?_, ?_, ?_, ?_⟩
  · intro b c out hc hskip hok
    rw [decompressNamed_name] at hok
    have hnamed := codec?_of_decompressWith (hD c hc) hc hskip hok
    refine ⟨hnamed, fun chunk => ?_, (decompressAuto_of_codec? hnamed).trans hok⟩
    rw [Sniffer.decompressor?, hnamed, Option.map_some]
  · intro b c c' out out' hc hc' hok hok'
    rw [decompressNamed_name] at hok hok'
    have hopens := opens_of_decompressWith (hD c hc) hok
    have hopens' := opens_of_decompressWith (hD c' hc') hok'
    exact Sniffer.opens_unique hc hc' hopens hopens'
  · intro b hnone
    simp only [decompressAuto, Sniffer.decompressor?, hnone, Option.map_none]
  · intro c level G hc hE hfollows hframes chunk data r
    obtain ⟨packed, session, hpack, hreach, hback⟩ :=
      decompressWith_of_compressWith hE hfollows chunk data
    refine ⟨packed, session, hpack, ?_⟩
    have hopens : c.Opens packed := by
      have hwhole := hback .standard ByteArray.empty
      rw [ByteArray.append_empty] at hwhole
      exact opens_of_decompressWith (hD c hc) hwhole
    have hskip : c = .zstd → ¬ Skippable (packed ++ r) := by
      rintro rfl
      have hframe := hopens.resolve_right (not_skippable_of_reached (hframes rfl) hreach)
      exact not_skippable (Bytes.startsWith_append hframe r) (by decide)
    rw [decompressAuto_of_codec? (Sniffer.codec?_of_opens hc (hopens.append r) hskip)]
    exact hback .standard r

/-- A call that ends the stream and leaves its window short is all that there is. -/
theorem decompressWith_of_call {d : Decompressor}
    (hcall : (Decompressor.new c chunk).decompressInto b chunk.size = (.ok out, d))
    (hshort : out.size < chunk.size) (hfinished : d.finished = true) :
    decompressWith (Decompressor.new c chunk) b = (.ok out, d) := by
  have hall : (Decompressor.new c chunk).decompress b = (.ok out, d) := by
    show Growth.all Decompressor.decompressInto chunk _ b = _
    rw [Growth.all, Growth.collect_step hcall (Nat.le_of_lt hshort), if_pos hshort,
      ByteArray.empty_append, Option.getD_some]
  have hdrain : d.drain out = some (.ok out, d) := by rw [Decompressor.drain, if_pos hfinished]
  rw [decompressWith, hall]
  simp only [hdrain, Option.getD_some, whole, if_pos hfinished]

end OneShot

/-- The decoder, made to heed the opening: of bytes that do not start with `mark` it reports no
end. -/
def NativeDecoder.heeding (N : NativeDecoder) (mark : List UInt8) : NativeDecoder where
  State := N.State × ByteArray
  fresh := (N.fresh, ByteArray.empty)
  run s input room :=
    match N.run s.1 input room with
    | (.ok step, t) =>
      let read := s.2 ++ input.take step.consumed
      if step.done && !Bytes.startsWith read mark then (.error (.data "unknown opening"), (t, read))
      else (.ok step, (t, read))
    | (.error r, t) => (.error r, (t, s.2))

theorem NativeDecoder.heeding_reads {N : NativeDecoder} {mark : List UInt8} {codec : Codec}
    {Fits : ByteArray → Nat → Prop} {ended : Bool} {read written : ByteArray}
    {s : N.State × ByteArray}
    (h : ((N.heeding mark).engine codec).Reached (N.heeding mark).fresh Fits ended read written s) :
    s.2 = read ∧ (ended = true → Bytes.startsWith read mark = true) := by
  induction h with
  | fresh => exact ⟨rfl, Bool.noConfusion⟩
  | @step read written s s' input room step before hfits call ih =>
    obtain ⟨rfl, -⟩ := ih
    have hrun := NativeDecoder.engine_eq_ok.mp call
    simp only [heeding] at hrun
    rcases hinner : N.run s.1 input room with ⟨answer, t⟩
    rw [hinner] at hrun
    cases answer with
    | error r => cases hrun
    | ok step' =>
      by_cases hrefused :
          (step'.done && !Bytes.startsWith (s.2 ++ input.take step'.consumed) mark) = true
      · simp only [if_pos hrefused] at hrun
        cases hrun
      · simp only [if_neg hrefused] at hrun
        cases hrun
        refine ⟨rfl, fun hdone => ?_⟩
        rw [hdone, Bool.true_and, Bool.not_eq_true', Bool.not_eq_false] at hrefused
        exact hrefused

namespace Sniffer

def usual : Codec → List UInt8
  | .gzip => [0x1f, 0x8b]
  | .bzip2 => [0x42, 0x5a, 0x68, 0x39]
  | .lzma => [0xfd, 0x37, 0x7a, 0x58, 0x5a, 0x00]
  | .zlib => [0x78, 0x01]
  | .zstd => [0x28, 0xb5, 0x2f, 0xfd]
  | .deflate | .brotli => []

theorem opens_of_usual {c : Codec} {b : ByteArray} (h : Bytes.startsWith b (usual c) = true) :
    c.Opens b := by
  cases c with
  | gzip | lzma => exact h
  | bzip2 => exact ⟨0x39, by decide, h⟩
  | zlib => exact ⟨0x78, 0x01, ⟨rfl, by decide, rfl, rfl⟩, h⟩
  | zstd => exact .inl h
  | deflate | brotli => trivial

abbrev engines : Engines where
  encoder
    | .gzip, _ => Deflate.Encoder.packing Deflate.Dialect.pack
    | c, level => Builtin.encoder c level
  decoder
    | .gzip => Deflate.Dialect.grammar.decoder
    | c => (Builtin.decoder c).heeding (usual c)

theorem engines_opens (c : Codec) (hc : c ≠ .gzip) : (engines.decoder c).Opens c := by
  intro read written s h
  cases c with
  | gzip => exact absurd rfl hc
  | _ => exact opens_of_usual ((NativeDecoder.heeding_reads h).2 rfl)

end Sniffer

namespace OneShot

/-- A line that was packed by zlib, and as a gzip member with bytes behind it. -/
theorem decompressAuto_of_decompressNamed_line :
    letI : Engines := Sniffer.engines
    let line := Bytes.ofList Deflate.Dialect.line
    let packed :=
      Bytes.ofList [0x78, 0x01, 0x01, 0x06, 0x00, 0xf9, 0xff, 0x68, 0x65, 0x6c, 0x6c, 0x6f,
      0x0a, 0x08, 0x4b, 0x02, 0x1f]
    decompressNamed "zlib" packed = .ok line ∧ Sniffer.codec? packed = some .zlib ∧
      decompressAuto packed = .ok line ∧
        ∃ member session, compressWith (Compressor.new .gzip .balanced .standard) line =
            (.ok member, Compressor.mk .gzip .balanced .standard session) ∧
          decompressAuto (member ++ packed) = .ok line := by
  let : Engines := Sniffer.engines
  intro line packed
  obtain ⟨hnamed, -, -, hround⟩ :=
    decompressAuto_of_decompressNamed fun c _ hc => Sniffer.engines_opens c hc
  let call := (Decompressor.new .zlib .standard).decompressInto packed ChunkSize.standard.size
  have hcall : (call.1, call.2.finished) = (.ok line, true) := by decide +kernel
  have hok : decompressNamed (Codec.zlib).name packed = .ok line := by
    obtain ⟨hline, hfinished⟩ := Prod.mk.inj hcall
    rw [decompressNamed_name, decompressWith_of_call (Prod.ext hline rfl) (by decide) hfinished]
  obtain ⟨hsniffed, -, hauto⟩ := hnamed packed .zlib line rfl (fun h => by cases h) hok
  have hmember := hround .gzip .balanced Deflate.Dialect.grammar rfl
    Deflate.Dialect.encoder_follows (Deflate.Dialect.decoder_follows.on _) (fun h => by cases h)
    .standard line packed
  exact ⟨hok, hsniffed, hauto, hmember⟩

end OneShot

end StreamCodec
