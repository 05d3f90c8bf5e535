import StreamCodec.Bzip2.Sort.Buckets
import StreamCodec.Bzip2.Sort.Doubling

/-!
The block transform. The rotations of a block are put in order, and their last bytes are
sent with the place of the unrotated block. Each rotation is followed by the one that
starts a byte later, and the order of the last bytes, sorted stably, leads from one to
the other.
-/

namespace StreamCodec.Bzip2.Rotations

def counts (b : ByteArray) : Array Nat :=
  b.data.foldl (fun acc x => acc.modify x.toNat (· + 1)) (Array.replicate 256 0)

def starts (b : ByteArray) : Array Nat :=
  ((counts b).foldl (fun (acc, sum) n => (acc.push sum, sum + n)) ((#[] : Array Nat), 0)).1

def order (b : ByteArray) : Array Nat :=
  (b.data.foldl (fun ((acc : Array Nat), (next : Array Nat), (i : Nat)) x =>
    let k := next.getD x.toNat 0
    (acc.setIfInBounds k i, next.setIfInBounds x.toNat (k + 1), i + 1))
    (Array.replicate b.size 0, starts b, 0)).1

/-- The rotations in order, by where they start. Small blocks, and those that are too repetitive for
comparisons, are sorted by doubling. -/
def sorted (b : ByteArray) : Array Nat :=
  match if b.size < 10000 then none else Sort.Buckets.sort? b (9 * b.size) with
  | some a => a
  | none => Sort.Doubling.sort b (starts b)

def lastColumn (b : ByteArray) (sorted : Array Nat) : ByteArray :=
  sorted.foldl (fun acc i => acc.push (b[if i = 0 then b.size - 1 else i - 1]?.getD 0))
    ByteArray.empty

def origin (sorted : Array Nat) : Nat := (sorted.findIdx? (· = 0)).getD 0

end StreamCodec.Bzip2.Rotations
