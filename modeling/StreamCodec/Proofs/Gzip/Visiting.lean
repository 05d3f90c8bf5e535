import StreamCodec.Proofs.Gzip.Failing
import StreamCodec.Proofs.Visiting

/-!
A gzip decoder whose caller may go on after errors. It never holds more of a header than a header
may have, nor a whole one, and never more than a trailer of the trailer. So the lengths that it
takes from one another come out right wherever its caller brings it, and it is as tame as its body
engine.
-/

namespace StreamCodec.Gzip

/-- The lengths that the next call takes from one another: what was held is never the longer. -/
def Part.InRange : Part → Prop
  | .header seen => seen.size ≤ Header.maxSize ∧
      ∀ more n, Header.parse (seen ++ more) = .ok (some n) → seen.size < n
  | .trailer seen => seen.size ≤ Tally.trailerSize
  | .body | .done => True

namespace Decoder

open DecodeEngine

variable {σ : Type} {E : DecodeEngine σ} {s₀ : σ} {Onward : Prop} {s s' : Decoder σ}
  {seen : ByteArray} {input : Slice} {room : Nat}

/-- What is held of a header: the front of one that may go on, or bytes that were rejected. -/
def Gathering (seen : ByteArray) : Prop :=
  (Header.parse seen = .ok none ∧ seen.size < Header.maxSize) ∨
    (seen.size ≤ Header.maxSize ∧ ∃ f, Header.Rejected seen f)

/-- How a decoder stands whose caller may have gone on after errors. -/
inductive Stands (E : DecodeEngine σ) (s₀ : σ) (Onward : Prop) : Decoder σ → Prop
  | header {seen : ByteArray} {tally : Tally} (hseen : Gathering seen) :
      Stands E s₀ Onward { part := .header seen, body := s₀, tally }
  | body {body : σ} {tally : Tally}
      (hbody : E.Visited s₀ (fun _ => True) Onward false body) :
      Stands E s₀ Onward { part := .body, body, tally }
  | trailer {seen : ByteArray} {body : σ} {tally : Tally} (hsize : seen.size ≤ Tally.trailerSize) :
      Stands E s₀ Onward { part := .trailer seen, body, tally }
  | done {body : σ} {tally : Tally} : Stands E s₀ Onward { part := .done, body, tally }

theorem size_gathered_le (hsize : seen.size ≤ Header.maxSize) (input : Slice) :
    (gathered seen input).size ≤ Header.maxSize := by
  rw [gathered, ByteArray.size_append, Slice.size_take]
  omega

/-- Bytes behind what is held do not make it longer than the header that they complete. -/
theorem Gathering.lt (h : Gathering seen) {more : ByteArray} {n : Nat}
    (hparse : Header.parse (seen ++ more) = .ok (some n)) : seen.size < n := by
  by_contra hle
  have hfront := Header.parse_of_append hparse (Nat.not_lt.mp hle)
  obtain ⟨hopen, -⟩ | ⟨-, f, hfault | ⟨hopen, -⟩⟩ := h
  · cases hopen.symm.trans hfront
  · cases hfault.symm.trans hfront
  · cases hopen.symm.trans hfront

theorem Stands.inRange (h : Stands E s₀ Onward s) : s.part.InRange := by
  cases h with
  | header hseen =>
    refine ⟨?_, fun more n => hseen.lt⟩
    obtain ⟨-, hsize⟩ | ⟨hsize, -⟩ := hseen
    · exact Nat.le_of_lt hsize
    · exact hsize
  | trailer hsize => exact hsize
  | body | done => trivial

structure Keeps (E : DecodeEngine σ) (s₀ : σ) (Onward : Prop) (input : Slice) (room : Nat)
    (r : Outcome Step × Decoder σ) : Prop where
  stands : Stands E s₀ Onward r.2
  graceful : r.1.Graceful .gzip (·.Within input.size room)

theorem readHeader_keeps (hseen : Gathering seen) (tally : Tally) (input : Slice) (room : Nat) :
    Keeps E s₀ Onward input room
      (readHeader { part := .header seen, body := s₀, tally } seen input) := by
  obtain ⟨hopen, hsize⟩ | ⟨hsize, f, hrejected⟩ := hseen
  · obtain ⟨-, hstep⟩ | ⟨k, -, hle, -, hstep⟩ | ⟨k, -, hle, hopen', hsize', hstep⟩ |
      ⟨f, s', -, hstep⟩ :=
      readHeader_cases { part := .header seen, body := s₀, tally } input hopen hsize
    · rw [hstep]
      exact ⟨.header (.inl ⟨hopen, hsize⟩), Nat.zero_le _, Nat.zero_le _⟩
    · rw [hstep]
      exact ⟨.body .fresh, hle, Nat.zero_le _⟩
    · rw [hstep]
      exact ⟨.header (.inl ⟨hopen', hsize'⟩), hle, Nat.zero_le _⟩
    · obtain ⟨-, f', -, rfl, hrejected⟩ := readHeader_error hstep
      rw [hstep]
      exact ⟨.header (.inr ⟨size_gathered_le (Nat.le_of_lt hsize) input, f', hrejected⟩), rfl, rfl⟩
  · by_cases hinput : input.size = 0
    · rw [readHeader, if_pos (Slice.isEmpty_iff.mpr hinput)]
      exact ⟨.header (.inr ⟨hsize, f, hrejected⟩), Nat.zero_le _, Nat.zero_le _⟩
    · rw [readHeader_of_rejected hrejected hinput]
      exact ⟨.header (.inr ⟨size_gathered_le hsize input, f, rejected_gathered hrejected input⟩),
        rfl, rfl⟩

theorem readTrailer_keeps (hsize : seen.size ≤ Tally.trailerSize) (body : σ) (tally : Tally)
    (input : Slice) (room : Nat) :
    Keeps E s₀ Onward input room
      (readTrailer { part := .trailer seen, body, tally } seen input) := by
  by_cases hfull : seen.size = Tally.trailerSize
  · rw [readTrailer, if_pos (by rw [hfull, Nat.sub_self, Nat.zero_min])]
    exact ⟨.trailer hsize, Nat.zero_le _, Nat.zero_le _⟩
  · obtain ⟨-, hstep⟩ | ⟨-, hsize', hstep⟩ |
      ⟨k, trailer, -, hle, -, -, ⟨f, s', -, hstep⟩ | ⟨-, hstep⟩⟩ :=
      readTrailer_cases { part := .trailer seen, body, tally } input
        (Nat.lt_of_le_of_ne hsize hfull)
    · rw [hstep]
      exact ⟨.trailer hsize, Nat.zero_le _, Nat.zero_le _⟩
    · rw [hstep]
      exact ⟨.trailer (Nat.le_of_lt hsize'), Nat.le_refl _, Nat.zero_le _⟩
    · obtain ⟨trailer', hfull', rfl⟩ := readTrailer_error hstep
      rw [hstep]
      exact ⟨.trailer (Nat.le_of_eq hfull'), rfl, rfl⟩
    · rw [hstep]
      exact ⟨.done, hle, Nat.zero_le _⟩

/-- Where the body engine is not called, the call is as good as the decoder is. -/
theorem Stands.keeps (h : Stands E s₀ Onward s) (hpart : s.part ≠ .body) (input : Slice)
    (room : Nat) : Keeps E s₀ Onward input room (decode E s input room) := by
  cases h with
  | header hseen => exact readHeader_keeps hseen _ input room
  | body => exact absurd rfl hpart
  | trailer hsize => exact readTrailer_keeps hsize _ _ input room
  | done => exact ⟨.done, Nat.zero_le _, Nat.zero_le _⟩

theorem Stands.visited (h : Stands E s₀ Onward s) (hpart : s.part = .body) :
    E.Visited s₀ (fun _ => True) Onward false s.body := by
  cases h with
  | body hbody => exact hbody
  | header | trailer | done => cases hpart

/-- A step leaves a decoder that stands. -/
theorem Stands.step {step : Step} (h : Stands E s₀ Onward s)
    (hcall : decode E s input room = (.ok step, s')) : Stands E s₀ Onward s' := by
  by_cases hpart : s.part = .body
  · rw [decode_body E s input room hpart] at hcall
    obtain ⟨inner, body, hinner, rfl, rfl⟩ := readBody_eq_ok hcall
    have hnext := Visited.step (h.visited hpart) trivial hinner
    cases hend : inner.done with
    | true => exact .trailer (Nat.zero_le _)
    | false =>
      rw [hend] at hnext
      exact .body hnext
  · have hkeeps := h.keeps hpart input room
    rw [hcall] at hkeeps
    exact hkeeps.stands

/-- So does an error, if the caller may go on after it. -/
theorem Stands.error {e : Error} (honward : Onward) (h : Stands E s₀ Onward s)
    (hcall : decode E s input room = (.error e, s')) : Stands E s₀ Onward s' := by
  by_cases hpart : s.part = .body
  · rw [decode_body E s input room hpart] at hcall
    obtain ⟨body, hinner, rfl⟩ := readBody_error hcall
    rw [hpart]
    exact .body (.error honward (h.visited hpart) trivial hinner)
  · have hkeeps := h.keeps hpart input room
    rw [hcall] at hkeeps
    exact hkeeps.stands

theorem stands_of_visited {ended : Bool}
    (h : (engine E).Visited (start s₀) (fun _ => True) Onward ended s) : Stands E s₀ Onward s := by
  induction h with
  | fresh => exact .header (.inl ⟨rfl, by decide⟩)
  | step _ _ call ih => exact ih.step call
  | error onward _ _ call ih => exact ih.error onward call

/-- What the body engine says of its data is said under its name, which is to be that of gzip. -/
theorem tame (hE : E.Tame s₀ (fun _ => True) Onward) (hcodec : E.codec = .gzip) :
    (engine E).Tame (start s₀) (fun _ => True) Onward := by
  intro s input room hs _
  have hstands := stands_of_visited hs
  show (decode E s input room).1.Graceful .gzip _
  by_cases hpart : s.part = .body
  · have hinner := hE s.body input room (hstands.visited hpart) trivial
    rw [hcodec] at hinner
    rw [decode_body E s input room hpart, readBody]
    rcases hcall : E.decode s.body input room with ⟨answer, body⟩
    rw [hcall] at hinner
    cases answer <;> exact hinner
  · exact (hstands.keeps hpart input room).graceful

/-- All that is written comes of the body. -/
theorem bounded (hE : E.Bounded s₀ fun _ => True) :
    (engine E).Bounded (start s₀) fun _ => True := by
  intro n
  obtain ⟨most, hmost⟩ := hE n
  refine ⟨most, fun ended read written s hs hread => ?_⟩
  cases ended with
  | true =>
    obtain ⟨header, body, trailer, rfl, hwhole⟩ := readWhole_of_reached hs
    obtain ⟨s', hbody⟩ := hwhole.body
    rw [ByteArray.size_append, ByteArray.size_append] at hread
    exact hmost _ _ _ _ hbody (by omega)
  | false =>
    cases holds_of_reached_any hs with
    | header => exact Nat.zero_le _
    | body _ hbody =>
      rw [ByteArray.size_append] at hread
      exact hmost _ _ _ _ hbody (by omega)
    | trailer _ hbody =>
      rw [ByteArray.size_append, ByteArray.size_append] at hread
      exact hmost _ _ _ _ hbody (by omega)

end Decoder

end StreamCodec.Gzip
