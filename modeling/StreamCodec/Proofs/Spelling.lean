import StreamCodec.Proofs.Buffering
import StreamCodec.Proofs.Gathering

/-!
Formats that are spelled in words. A word stands for some bytes, some words end the stream, and
a word is known by its last byte. Every such format has a grammar, and raw DEFLATE has a part
that is such a format.
-/

namespace StreamCodec

/-- What the bytes behind the last word are: the front of a word, a word, one that ends the stream,
or the front of none. -/
inductive Spelled where
  | more
  | word (text : List UInt8)
  | last (text : List UInt8)
  | wrong

namespace Spelling

variable (spell : List UInt8 → Spelled) (message : String)

/-- What `bytes` come to behind `n` bytes, of which those in `front` begin a word. -/
def verdict (front : List UInt8) (n : Nat) : (bytes : List UInt8) → Verdict
  | [] => .unfinished
  | x :: bytes =>
    match spell (front ++ [x]) with
    | .more => verdict (front ++ [x]) (n + 1) bytes
    | .word _ => verdict [] (n + 1) bytes
    | .last _ => .complete (n + 1)
    | .wrong => .corrupt message

def plain (front : List UInt8) : (bytes : List UInt8) → List UInt8
  | [] => []
  | x :: bytes =>
    match spell (front ++ [x]) with
    | .more => plain (front ++ [x]) bytes
    | .word text => text ++ plain [] bytes
    | .last text => text
    | .wrong => []

variable {spell : List UInt8 → Spelled} {message : String} {front bytes : List UInt8} {n m : Nat}

theorem length_le (h : verdict spell message front n bytes = .complete m) :
    n < m ∧ m ≤ n + bytes.length := by
  induction bytes generalizing front n with
  | nil => cases h
  | cons x bytes ih =>
    rw [verdict] at h
    rw [List.length_cons]
    split at h
    · have hrest := ih h
      omega
    · have hrest := ih h
      omega
    · cases h
      omega
    · cases h

theorem verdict_append (more : List UInt8) (h : verdict spell message front n bytes ≠ .unfinished) :
    verdict spell message front n (bytes ++ more) = verdict spell message front n bytes := by
  induction bytes generalizing front n with
  | nil => exact absurd rfl h
  | cons x bytes ih =>
    rw [verdict] at h
    rw [List.cons_append, verdict, verdict]
    split at h
    · exact ih h
    · exact ih h
    · rfl
    · rfl

theorem verdict_take (h : verdict spell message front n bytes = .complete m) :
    verdict spell message front n (bytes.take (m - n)) = .complete m := by
  induction bytes generalizing front n with
  | nil => cases h
  | cons x bytes ih =>
    have hle := (length_le h).1
    rw [show m - n = m - (n + 1) + 1 by omega, List.take_succ_cons]
    rw [verdict] at h ⊢
    split at h
    · exact ih h
    · exact ih h
    · exact h
    · cases h

theorem plain_append (more : List UInt8) :
    ∃ tail, plain spell front (bytes ++ more) = plain spell front bytes ++ tail := by
  induction bytes generalizing front with
  | nil => exact ⟨plain spell front more, rfl⟩
  | cons x bytes ih =>
    rw [List.cons_append, plain, plain]
    split
    · exact ih
    · next text _ =>
      obtain ⟨tail, htail⟩ := ih
      exact ⟨tail, by rw [htail, List.append_assoc]⟩
    · exact ⟨[], (List.append_nil _).symm⟩
    · exact ⟨[], rfl⟩

theorem plain_settled (more : List UInt8) (h : verdict spell message front n bytes = .complete m) :
    plain spell front (bytes ++ more) = plain spell front bytes := by
  induction bytes generalizing front n with
  | nil => cases h
  | cons x bytes ih =>
    rw [verdict] at h
    rw [List.cons_append, plain, plain]
    split at h
    · exact ih h
    · next text _ =>
      exact congrArg (text ++ ·) (ih h)
    · rfl
    · rfl

/-- The grammar of a format that is spelled in words. -/
def grammar (spell : List UInt8 → Spelled) (message : String) : Grammar where
  verdict b := verdict spell message [] 0 b.data.toList
  plain b := Bytes.ofList (plain spell [] b.data.toList)
  verdict_empty := rfl
  plain_empty := rfl
  length_le := by
    intro b n h
    have hle := (length_le h).2
    rw [Nat.zero_add] at hle
    exact hle
  verdict_append := by
    intro b r h
    rw [ByteArray.data_append, Array.toList_append]
    exact verdict_append _ h
  verdict_front := by
    intro b n h
    have hfront := verdict_take h
    rw [Nat.sub_zero] at hfront
    rw [ByteArray.data_extract, Array.toList_extract]
    exact hfront
  plain_append := by
    intro b r
    obtain ⟨tail, htail⟩ := plain_append r.data.toList
    refine ⟨Bytes.ofList tail, ?_⟩
    rw [ByteArray.data_append, Array.toList_append, htail, Bytes.ofList_append]
  plain_settled := by
    intro b r n h
    rw [ByteArray.data_append, Array.toList_append, plain_settled _ h]

end Spelling

end StreamCodec
