import StreamCodec.Proofs.Encoding

/-!
Feeding a compression session piece by piece and then finishing it, in any windows that have
room. Each drain ends, since an engine owes only so much for what it has taken.
-/

namespace StreamCodec.Encoder

open BoundedCall EncodeEngine Schedule

variable {σ : Type} {E : EncodeEngine σ} {s₀ : σ} {G : Grammar} {windows : Nat → Nat}
  {s : Encoder σ} {stage : Stage} {taken written : ByteArray}

/-- What is written is no longer owed for what was taken. -/
theorem Tracks.lt {bound : ByteArray → Nat} {b : ByteArray}
    (hbound : ∀ {stage taken written s}, E.Reached s₀ Any stage taken written s →
      written.size ≤ bound taken)
    (ht : Tracks E s₀ (fun _ _ => True) s stage taken (written ++ b)) (hb : 0 < b.size) :
    bound taken - (written ++ b).size < bound taken - written.size := by
  have hle := hbound ht.reached
  rw [ByteArray.size_append] at hle ⊢
  omega

theorem drain_feeds (hE : E.Follows s₀ Any G) (hw : ∀ i, 0 < windows i)
    (ht : Tracks E s₀ (fun _ _ => True) s .feeding taken written) (input : ByteArray)
    (hinput : input.size = 0 ∨ s.ledger.pending.unread = 0) (i : Nat) (out : ByteArray) :
    ∃ tail s' j, drain (compressInto E) windows i s input out = some (.ok (out ++ tail), s', j) ∧
      Tracks E s₀ (fun _ _ => True) s' .feeding
        (taken ++ (s.ledger.pending.remaining.toBytes ++ input))
        (written ++ tail) ∧ s'.ledger.pending.unread = 0 := by
  obtain ⟨bound, hbound⟩ := hE.bounded
  -- A full window leaves less to take, or as much to take and less to write for what has been
  -- taken.
  induction hn : (s.ledger.pending.remaining.toBytes ++ input).size using Nat.strongRecOn
    generalizing s taken written input i out with
  | ind n ihtaken =>
  induction hm : bound taken - written.size using Nat.strongRecOn
    generalizing s taken written input i out with
  | ind m ihwritten =>
  obtain ⟨b, s', hcall, hshort⟩ := compressInto_ok hE.advances ht hinput (windows i)
  obtain ⟨more, ht', hsplit, hsize⟩ := compressInto_moves ht trivial hcall
  rw [← hsplit]
  by_cases hfull : b.size < windows i
  · have hnone := hshort hfull
    rw [Pending.remaining_of_unread_eq_zero hnone, ByteArray.append_empty]
    exact ⟨b, s', i + 1, drain_short hcall hfull, ht', hnone⟩
  · suffices hlater : ∃ tail s'' j,
        drain (compressInto E) windows (i + 1) s' ByteArray.empty (out ++ b) =
          some (.ok (out ++ b ++ tail), s'', j) ∧
        Tracks E s₀ (fun _ _ => True) s'' .feeding
          (taken ++ more ++ (s'.ledger.pending.remaining.toBytes ++ ByteArray.empty))
            (written ++ b ++ tail) ∧
        s''.ledger.pending.unread = 0 by
      obtain ⟨tail, s'', j, hdrain, ht'', hnone⟩ := hlater
      rw [ByteArray.append_empty, ByteArray.append_assoc, ByteArray.append_assoc] at ht''
      rw [ByteArray.append_assoc] at hdrain
      exact ⟨b ++ tail, s'', j, (drain_full hcall hfull).trans hdrain, ht'', hnone⟩
    have hroom := hw i
    have hsizes := congrArg ByteArray.size hsplit
    rw [ByteArray.size_append, hn] at hsizes
    by_cases hmore : more.size = 0
    · rw [ByteArray.size_eq_zero_iff.mp hmore, ByteArray.append_empty] at ht' ⊢
      refine ihwritten _ ?_ ht' _ (.inl rfl) _ _ ?_ rfl
      · rw [← hm]
        exact ht'.lt hbound (by omega)
      · rw [ByteArray.append_empty]
        omega
    · refine ihtaken _ ?_ ht' _ (.inl rfl) _ _ rfl
      rw [ByteArray.append_empty]
      omega

theorem feed_feeds (hE : E.Follows s₀ Any G) (hw : ∀ i, 0 < windows i)
    (ht : Tracks E s₀ (fun _ _ => True) s .feeding taken written)
    (hnone : s.ledger.pending.unread = 0) (pieces : List ByteArray) (i : Nat) (out : ByteArray) :
    ∃ tail s' j, feed (compressInto E) (fun _ => false) windows i s pieces out =
      some (.ok (out ++ tail), s', j) ∧
      Tracks E s₀ (fun _ _ => True) s' .feeding (taken ++ joined pieces) (written ++ tail) ∧
      s'.ledger.pending.unread = 0 := by
  induction pieces generalizing s taken written i out with
  | nil =>
    refine ⟨ByteArray.empty, s, i, ?_, ?_, hnone⟩
    · rw [ByteArray.append_empty]
      rfl
    · rw [joined_nil, ByteArray.append_empty, ByteArray.append_empty]
      exact ht
  | cons piece pieces ih =>
    obtain ⟨tail, s', j, hdrain, ht', hnone'⟩ := drain_feeds hE hw ht piece (.inr hnone) i out
    rw [Pending.remaining_of_unread_eq_zero hnone, ByteArray.empty_append] at ht'
    obtain ⟨tail', s'', l, hfeed, ht'', hnone''⟩ := ih ht' hnone' j (out ++ tail)
    rw [ByteArray.append_assoc, ByteArray.append_assoc, ← joined_cons] at ht''
    rw [ByteArray.append_assoc] at hfeed
    refine ⟨tail ++ tail', s'', l, ?_, ht'', hnone''⟩
    unfold feed
    rw [hdrain]
    exact hfeed

def closing (E : EncodeEngine σ) : BoundedCall (Encoder σ) := fun s _ room => finishInto E s room

theorem drain_closes (hE : E.Follows s₀ Any G) (hw : ∀ i, 0 < windows i)
    (ht : Tracks E s₀ (fun _ _ => True) s stage taken written)
    (hnone : s.ledger.pending.unread = 0) (i : Nat) (out : ByteArray) :
    ∃ tail s' j, drain (closing E) windows i s ByteArray.empty out =
      some (.ok (out ++ tail), s', j) ∧
      s'.finished = true ∧ Tracks E s₀ (fun _ _ => True) s' .ended taken (written ++ tail) := by
  obtain ⟨bound, hbound⟩ := hE.bounded
  -- Nothing is left to take, so each full window leaves less to write.
  induction hm : bound taken - written.size using Nat.strongRecOn generalizing s stage
    written i out with
  | ind m ih =>
  obtain ⟨b, s', hcall, hshort⟩ := finishInto_ok hE.advances ht (windows i)
  obtain ⟨stage', more, hstage', ht', hsplit, hsize⟩ := finishInto_moves ht trivial hcall
  have hsizes := congrArg ByteArray.size hsplit
  rw [Pending.remaining_of_unread_eq_zero hnone, ByteArray.size_append, ByteArray.size_empty,
    Slice.size_toBytes,
    Pending.size_remaining] at hsizes
  rw [ByteArray.size_eq_zero_iff.mp (by omega : more.size = 0), ByteArray.append_empty] at ht'
  by_cases hfull : b.size < windows i
  · have hend := hshort hfull
    have hstands := ht'.stands
    cases stage' with
    | feeding => exact absurd rfl hstage'
    | closing rest =>
      rw [hstands.1] at hend
      cases hend
    | ended => exact ⟨b, s', i + 1, drain_short hcall hfull, hend, ht'⟩
  · have hroom := hw i
    have hless := ht'.lt hbound (by omega)
    obtain ⟨tail, s'', j, hdrain, hend, ht''⟩ :=
      ih _ (hm ▸ hless) ht' (by omega) (i + 1) (out ++ b) rfl
    rw [ByteArray.append_assoc] at ht'' hdrain
    exact ⟨b ++ tail, s'', j, (drain_full hcall hfull).trans hdrain, hend, ht''⟩

end StreamCodec.Encoder
