import StreamCodec.Stream.Ledger

/-!
A step that stays within what it was offered can be booked, and moves cursor and totals by
its counts. New input is accepted when nothing is left of the old.
-/

namespace StreamCodec

namespace Pending

theorem remaining_of_unread_eq_zero {p : Pending} (h : p.unread = 0) :
    p.remaining.toBytes = ByteArray.empty :=
  Slice.toBytes_of_size_eq_zero h

theorem accept_empty (p : Pending) (codec : Codec) : p.accept codec ByteArray.empty = .ok p := rfl

/-- Input that may be offered is behind what was left to read, which is nothing unless it
is empty. -/
theorem accept_ok {p : Pending} (codec : Codec) {input : ByteArray}
    (h : input.size = 0 ∨ p.unread = 0) :
    ∃ q, p.accept codec input = .ok q ∧ q.remaining.toBytes = p.remaining.toBytes ++ input := by
  unfold accept
  by_cases hempty : input.size = 0
  · refine ⟨p, by rw [if_pos hempty], ?_⟩
    rw [ByteArray.size_eq_zero_iff.mp hempty, ByteArray.append_empty]
  · have hunread : p.unread = 0 := h.resolve_left hempty
    have hused : p.used = p.bytes.size := by
      have hle := p.used_le
      simp only [unread] at hunread
      omega
    refine ⟨_, by rw [if_neg hempty, if_pos hused], ?_⟩
    rw [remaining_of_unread_eq_zero hunread, ByteArray.empty_append]
    exact ByteArray.extract_zero_size

theorem accept_early {p : Pending} (codec : Codec) {input : ByteArray} (hinput : input.size ≠ 0)
    (hunread : p.unread ≠ 0) : p.accept codec input = .trap (.inputPending codec p.unread) := by
  have hused : p.used ≠ p.bytes.size := by
    simp only [unread] at hunread
    omega
  rw [accept, if_neg hinput, if_neg hused]

/-- Input that is accepted becomes the span, and no input leaves the span as it is. -/
theorem accept_bytes {p q : Pending} {codec : Codec} {input : ByteArray}
    (h : p.accept codec input = .ok q) : q.bytes = if input.size = 0 then p.bytes else input := by
  unfold accept at h
  split at h
  · next hempty =>
    cases h
    rw [if_pos hempty]
  · next hempty =>
    split at h
    · cases h
      rw [if_neg hempty]
    · cases h

theorem accept_inv {p q : Pending} {codec : Codec} {input : ByteArray}
    (h : p.accept codec input = .ok q) :
    q.remaining.toBytes = p.remaining.toBytes ++ input := by
  unfold accept at h
  split at h
  · next hempty =>
    cases h
    rw [ByteArray.size_eq_zero_iff.mp hempty, ByteArray.append_empty]
  · split at h
    · next hused =>
      cases h
      have hunread : p.unread = 0 := by
        simp only [unread]
        omega
      rw [remaining_of_unread_eq_zero hunread, ByteArray.empty_append]
      exact ByteArray.extract_zero_size
    · cases h

end Pending

namespace Ledger

theorem book_inv {l l' : Ledger} {step : Step} {room : Nat} (h : l.book step room = .ok l') :
    step.Within l.pending.unread room ∧
      l'.pending.remaining = l.pending.remaining.drop step.consumed ∧
      l'.stats = l.stats.record step.consumed step.output.size := by
  unfold book at h
  split at h
  · cases h
  · next hroom =>
    split at h
    · next p hp =>
      cases h
      obtain ⟨hle, hbytes, hused⟩ := Pending.unread_advance hp
      refine ⟨⟨hle, by omega⟩, ?_, rfl⟩
      simp only [Pending.remaining, Slice.drop, hbytes, hused]
    · cases h
    · cases h

theorem book_ne_error (l : Ledger) (step : Step) (room : Nat) (e : Error) :
    l.book step room ≠ .error e := by
  intro h
  unfold book at h
  split at h
  · cases h
  · split at h
    · cases h
    · next hadvance =>
      unfold Pending.advance at hadvance
      split at hadvance <;> cases hadvance
    · cases h

/-- A step that cannot be booked has claimed too much. -/
theorem book_ne_pending {l : Ledger} {step : Step} {room : Nat} {t : Trap}
    (h : l.book step room = .trap t) (codec : Codec) (n : Nat) : t ≠ .inputPending codec n := by
  unfold book at h
  split at h
  · cases h
    exact Trap.noConfusion
  · split at h
    · cases h
    · cases h
    · next hadvance =>
      unfold Pending.advance at hadvance
      split at hadvance
      · cases hadvance
      · cases hadvance
        cases h
        exact Trap.noConfusion

/-- A step that takes all that it is offered leaves nothing. -/
theorem unread_of_book {l l' : Ledger} {step : Step} {room : Nat} (h : l.book step room = .ok l')
    (hall : step.consumed = l.pending.remaining.size) : l'.pending.unread = 0 := by
  have hrest := (book_eq_ok h).2.2
  rw [Pending.size_remaining] at hall
  omega

theorem book_bytes {l l' : Ledger} {step : Step} {room : Nat} (h : l.book step room = .ok l') :
    l'.pending.bytes = l.pending.bytes :=
  congrArg Slice.bytes (book_inv h).2.1

/-- What a step takes is in front of what it leaves. -/
theorem take_append_remaining {l l' : Ledger} {step : Step} {room : Nat}
    (h : l.book step room = .ok l') :
    l.pending.remaining.take step.consumed ++ l'.pending.remaining.toBytes =
      l.pending.remaining.toBytes := by
  rw [(book_inv h).2.1, Slice.take_append_drop]

/-- The totals stay the sizes of what has gone in and out. -/
theorem book_stats {l l' : Ledger} {step : Step} {room : Nat} {taken written : ByteArray}
    (h : l.book step room = .ok l')
    (hstats : l.stats = { bytesIn := taken.size, bytesOut := written.size }) :
    l'.stats = { bytesIn := (taken ++ l.pending.remaining.take step.consumed).size,
                 bytesOut := (written ++ step.output).size } := by
  obtain ⟨⟨hle, -⟩, -, htotals⟩ := book_inv h
  rw [← Pending.size_remaining] at hle
  rw [htotals, hstats, Stats.record]
  simp only [ByteArray.size_append, Slice.size_take, Nat.min_eq_left hle]

theorem book_ok {l : Ledger} {step : Step} {room : Nat} (h : step.Within l.pending.unread room) :
    ∃ l', l.book step room = .ok l' := by
  obtain ⟨hconsumed, hroom⟩ := h
  unfold book
  rw [if_neg (by omega)]
  simp only [Pending.advance, dif_pos hconsumed]
  exact ⟨_, rfl⟩

end Ledger

end StreamCodec
