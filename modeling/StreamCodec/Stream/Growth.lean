import StreamCodec.Bytes
import StreamCodec.ChunkSize
import StreamCodec.Error

/-!
The growth loop: from bounded calls to "all of it". Each call gets a fresh window of
one chunk of zero bytes; the input goes to the first call only. A call that fills its
window may have more to say, so the loop goes on until a call is short.
-/

namespace StreamCodec.Growth

/-- What a bounded call answers: how much it says it wrote, and what it wrote from the
front of the window. -/
structure Reply where
  count : Nat
  written : ByteArray

namespace Reply

def fill (r : Reply) (window : ByteArray) : ByteArray :=
  (r.written ++ window.extract r.written.size window.size).extract 0 window.size

/-- The bytes that the call accounts for. -/
def taken (r : Reply) (window : ByteArray) : ByteArray := (r.fill window).extract 0 r.count

def exactly (b : ByteArray) : Reply := { count := b.size, written := b }

theorem taken_exactly {b window : ByteArray} (h : b.size ≤ window.size) :
    (exactly b).taken window = b := by
  simp only [taken, fill, exactly, ByteArray.extract_extract, Nat.zero_add, Nat.min_eq_left h]
  rw [Bytes.extract_append_left b _ (Nat.le_refl _), ByteArray.extract_zero_size]

theorem taken_blank {b : ByteArray} {n : Nat} (h : b.size ≤ n) :
    (exactly b).taken (Bytes.blank n) = b :=
  taken_exactly (by rw [Bytes.size_blank]; exact h)

end Reply

abbrev Call (σ : Type) := σ → (input window : ByteArray) → Outcome Reply × σ

/-- Calls until one is short, and joins what the calls wrote behind `out`. Without a short call the
loop does not end and has no result. -/
def Call.collect {σ : Type} (call : Call σ) (chunk : ChunkSize) (s : σ) (input out : ByteArray) :
    Option (Outcome ByteArray × σ) :=
  let window := Bytes.blank chunk.size
  match call s input window with
  | (.error e, s') => some (.error e, s')
  | (.trap t, s') => some (.trap t, s')
  | (.ok r, s') =>
    if chunk.size < r.count then some (.trap (.overReported r.count chunk.size), s')
    else if r.count < chunk.size then some (.ok (out ++ r.taken window), s')
    else call |>.collect chunk s' ByteArray.empty (out ++ r.taken window)
partial_fixpoint

export Call (collect)

/-- A call that answers with exactly the bytes it writes, as the loop sees it. -/
def exactly {σ : Type} (call : σ → (input : ByteArray) → (room : Nat) → Outcome ByteArray × σ) :
    Call σ :=
  fun s input window =>
    let (r, s) := call s input window.size
    (r.map Reply.exactly, s)

def all {σ : Type} (call : σ → (input : ByteArray) → (room : Nat) → Outcome ByteArray × σ)
    (chunk : ChunkSize) (s : σ) (input : ByteArray) : Outcome ByteArray × σ :=
  (collect (exactly call) chunk s input ByteArray.empty).getD (.trap .unending, s)

end StreamCodec.Growth
