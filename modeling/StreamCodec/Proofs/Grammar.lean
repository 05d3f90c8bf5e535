import Mathlib.Tactic.ByContra
import StreamCodec.Bytes

/-!
What a format makes of a byte string: a whole stream at its front, no stream at all, or
something that more bytes have to decide. A verdict other than the last is final, and what
the bytes decode to only grows with them.
-/

namespace StreamCodec

/-- What bytes come to: their first `length` bytes are a whole stream, no stream starts like them,
or more bytes are needed to tell. -/
inductive Verdict where
  | complete (length : Nat)
  | corrupt (message : String)
  | unfinished
deriving DecidableEq, Repr

/-- The streams of a format, and what their bytes decode to as they arrive. -/
structure Grammar where
  verdict : ByteArray → Verdict
  plain : ByteArray → ByteArray
  verdict_empty : verdict ByteArray.empty = .unfinished
  plain_empty : plain ByteArray.empty = ByteArray.empty
  length_le : ∀ b n, verdict b = .complete n → n ≤ b.size
  verdict_append : ∀ b r, verdict b ≠ .unfinished → verdict (b ++ r) = verdict b
  verdict_front : ∀ b n, verdict b = .complete n → verdict (b.extract 0 n) = .complete n
  plain_append : ∀ b r, ∃ more, plain (b ++ r) = plain b ++ more
  plain_settled : ∀ b r n, verdict b = .complete n → plain (b ++ r) = plain b

namespace Grammar

variable (G : Grammar)

theorem complete_append {b : ByteArray} {n : Nat} (h : G.verdict b = .complete n) (r : ByteArray) :
    G.verdict (b ++ r) = .complete n := by
  rw [G.verdict_append b r (by rw [h]; exact Verdict.noConfusion), h]

theorem corrupt_append {b : ByteArray} {m : String} (h : G.verdict b = .corrupt m)
    (r : ByteArray) : G.verdict (b ++ r) = .corrupt m := by
  rw [G.verdict_append b r (by rw [h]; exact Verdict.noConfusion), h]

/-- A stream is found in any front that holds it. -/
theorem complete_of_append {b r : ByteArray} {n : Nat} (h : G.verdict (b ++ r) = .complete n)
    (hle : n ≤ b.size) : G.verdict b = .complete n := by
  have hfront := G.verdict_front _ n h
  rw [Bytes.extract_append_left b r hle] at hfront
  have hwhole := G.complete_append hfront (b.extract n b.size)
  rw [Bytes.front_append_rest] at hwhole
  exact hwhole

theorem size_plain_le (b r : ByteArray) : (G.plain b).size ≤ (G.plain (b ++ r)).size := by
  obtain ⟨more, hmore⟩ := G.plain_append b r
  rw [hmore, ByteArray.size_append]
  omega

/-- What a stream decodes to is said by its own bytes. -/
theorem plain_front {b : ByteArray} {n : Nat} (h : G.verdict b = .complete n) :
    G.plain (b.extract 0 n) = G.plain b := by
  have hsettled := G.plain_settled (b.extract 0 n) (b.extract n b.size) n (G.verdict_front b n h)
  rw [Bytes.front_append_rest] at hsettled
  exact hsettled.symm

end Grammar

end StreamCodec
