import StreamCodec.Bits

/-!
A bit string that is read from its end. The last byte carries a set bit above the last
one that counts.
-/

namespace StreamCodec.Zstd

structure BackBits where
  bytes : ByteArray
  left : Nat

namespace BackBits

/-- The bit string in `bytes`, unless the end mark is missing. -/
def ofBytes? (bytes : ByteArray) : Option BackBits :=
  match bytes[bytes.size - 1]? with
  | none => none
  | some x => if x = 0 then none else some { bytes, left := 8 * (bytes.size - 1) + x.toNat.log2 }

def read? (r : BackBits) (n : Nat) : Option (Nat × BackBits) :=
  if n ≤ r.left then
    match Bits.takeLow? r.bytes (r.left - n) n with
    | some x => some (x, { r with left := r.left - n })
    | none => none
  else none

/-- The last `n` bits as a number; bits that are not there are zero and come last. -/
def peek (r : BackBits) (n : Nat) : Nat :=
  if n ≤ r.left then (Bits.takeLow? r.bytes (r.left - n) n).getD 0
  else (Bits.takeLow? r.bytes 0 r.left).getD 0 <<< (n - r.left)

def skip? (r : BackBits) (n : Nat) : Option BackBits :=
  if n ≤ r.left then some { r with left := r.left - n } else none

end BackBits

end StreamCodec.Zstd
