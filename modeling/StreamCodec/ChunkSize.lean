/-!
Window sizes for the growth loop, from one byte to 64 MiB. The bounds are part of
the type, so a window obtained from a chunk size is never empty.
-/

namespace StreamCodec

inductive ChunkSizeError where
  | belowMinimum (size : Nat)
  | aboveMaximum (size : Nat)
deriving DecidableEq, Repr

structure ChunkSize where
  size : Nat
  one_le : 1 ≤ size := by decide
  le_max : size ≤ 64 * 1024 * 1024 := by decide
deriving DecidableEq, Repr

namespace ChunkSize

def min : Nat := 1

def max : Nat := 64 * 1024 * 1024

def standard : ChunkSize := { size := 16 * 1024 }

instance : Inhabited ChunkSize := ⟨standard⟩

def ofNat (n : Nat) : Except ChunkSizeError ChunkSize :=
  if h₁ : n < 1 then .error (.belowMinimum n)
  else if h₂ : 64 * 1024 * 1024 < n then .error (.aboveMaximum n)
  else .ok { size := n, one_le := by omega, le_max := by omega }

def label (c : ChunkSize) : String := s!"ChunkSize({c.size})"

theorem ofNat_size (c : ChunkSize) : ofNat c.size = .ok c := by
  have h₁ := c.one_le
  have h₂ := c.le_max
  simp only [ofNat]
  rw [dif_neg (by omega), dif_neg (by omega)]

theorem size_of_ofNat {n : Nat} {c : ChunkSize} (h : ofNat n = .ok c) : c.size = n := by
  rw [ofNat] at h
  split at h
  · cases h
  · split at h
    · cases h
    · cases h
      rfl

end ChunkSize

namespace ChunkSizeError

def message : ChunkSizeError → String
  | belowMinimum n => s!"Chunk size {n} is below minimum {ChunkSize.min}"
  | aboveMaximum n => s!"Chunk size {n} exceeds maximum {ChunkSize.max}"

end ChunkSizeError

end StreamCodec
