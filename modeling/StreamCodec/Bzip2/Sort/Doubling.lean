import StreamCodec.Bzip2.Sort.Split

/-!
Rotations put in order by doubling. Rotations that agree in their first `h` bytes form a
bucket, and the bucket of the rotation that starts `h` bytes later splits it further.
Equal rotations stay in one bucket; their order is what the splitting leaves.
-/

namespace StreamCodec.Bzip2.Sort.Doubling

/-- Moves entries towards the front, `step` places each, while their keys are below `k`; then puts
`v` into the free place. -/
@[specialize]
def sift (key : Nat → Nat) (step stop v k : Nat) : (fuel : Nat) → Array Nat → (j : Nat) → Array Nat
  | 0, a, j => a.setIfInBounds (j - step) v
  | fuel + 1, a, j =>
    let x := a.getD j 0
    if j < stop ∧ key x < k then
      sift key step stop v k fuel (a.setIfInBounds (j - step) x) (j + step)
    else a.setIfInBounds (j - step) v

@[specialize]
def siftAll (key : Nat → Nat) (step lo stop : Nat) : (n : Nat) → Array Nat → Array Nat
  | 0, a => a
  | n + 1, a =>
    let v := a.getD (lo + n) 0
    siftAll key step lo stop n (sift key step stop v (key v) (stop - lo) a (lo + n + step))

@[specialize]
def sortShort (key : Nat → Nat) (a : Array Nat) (lo stop : Nat) : Array Nat :=
  let a := siftAll key 4 lo stop (stop - lo - 4) a
  siftAll key 1 lo stop (stop - lo - 1) a

/-- Sorts the stretches of a stack. The pivot is the first, middle or last entry, as `seed` says. -/
@[specialize]
def sortStretches (key : Nat → Nat) :
    (fuel : Nat) → (seed : Nat) → List (Nat × Nat) → Array Nat → Array Nat
  | 0, _, _, a => a
  | _ + 1, _, [], a => a
  | fuel + 1, seed, (lo, stop) :: rest, a =>
    if stop < lo + 11 then sortStretches key fuel seed rest (sortShort key a lo stop)
    else
      let seed := (seed * 7621 + 1) % 32768
      let i := match seed % 3 with
        | 0 => lo
        | 1 => (lo + stop - 1) / 2
        | _ => stop - 1
      let p := split key (key (a.getD i 0)) a lo stop
      if p.even then sortStretches key fuel seed rest p.items
      else
        let low := (lo, p.middle)
        let high := (p.high, stop)
        let stack :=
          if stop - p.high < p.middle - lo then high :: low :: rest else low :: high :: rest
        sortStretches key fuel seed stack p.items

structure Buckets where
  sorted : Array Nat
  heads : ByteArray

def initial (b : ByteArray) (starts : Array Nat) : Buckets :=
  let n := b.size
  let place (acc : Array Nat × Array Nat × Nat) (x : UInt8) : Array Nat × Array Nat × Nat :=
    let (sorted, next, i) := acc
    let k := next.getD x.toNat 0 - 1
    (sorted.setIfInBounds k i, next.setIfInBounds x.toNat k, i + 1)
  let ends := starts.extract 1 256 |>.push n
  let (sorted, _, _) := b.data.foldl place (Array.replicate n 0, ends, 0)
  { sorted, heads := starts.foldl (fun h k => h.set! k 1) ⟨Array.replicate (n + 1) 0⟩ }

/-- For each rotation the bucket of the rotation `h` bytes later. -/
def classes (t : Buckets) (h : Nat) : Array Nat :=
  let n := t.sorted.size
  (t.sorted.foldl (fun ((acc : Array Nat), (i : Nat), (bucket : Nat)) x =>
    let bucket := if t.heads.get! i = 1 then i else bucket
    (acc.setIfInBounds (if h ≤ x then x - h else x + n - h) bucket, i + 1, bucket))
    (Array.replicate n 0, 0, 0)).1

def find (heads : ByteArray) (x : UInt8) : (n : Nat) → (i : Nat) → Nat
  | 0, i => i
  | n + 1, i => if heads.get! i = x then i else find heads x n (i + 1)

def mark (eclass sorted : Array Nat) : (n i : Nat) → (last : Option Nat) → ByteArray → ByteArray
  | 0, _, _, heads => heads
  | n + 1, i, last, heads =>
    let c := eclass.getD (sorted.getD i 0) 0
    if last = some c then mark eclass sorted n (i + 1) last heads
    else mark eclass sorted n (i + 1) (some c) (heads.set! i 1)

def splitBuckets (eclass : Array Nat) :
    (fuel : Nat) → (i : Nat) → Buckets → (more : Bool) → Buckets × Bool
  | 0, _, t, more => (t, more)
  | fuel + 1, i, ⟨sorted, heads⟩, more =>
    let n := sorted.size
    let k := find heads 0 (n - i) i
    if n ≤ k then (⟨sorted, heads⟩, more)
    else
      let lo := k - 1
      let stop := find heads 1 (n - k) k
      let sorted :=
        sortStretches (fun x => eclass.getD x 0) (4 * (stop - lo) + 4) 0 [(lo, stop)] sorted
      let heads := mark eclass sorted (stop - lo) lo none heads
      splitBuckets eclass fuel stop ⟨sorted, heads⟩ true

/-- Doubles `h` until each rotation has a bucket of its own or `h` exceeds the size of the block. -/
def rounds : (fuel : Nat) → (h : Nat) → Buckets → Buckets
  | 0, _, t => t
  | fuel + 1, h, t =>
    let n := t.sorted.size
    let (t, more) := splitBuckets (classes t h) n 0 t false
    if n < 2 * h ∨ !more then t else rounds fuel (2 * h) t

def sort (b : ByteArray) (starts : Array Nat) : Array Nat :=
  (rounds (b.size.log2 + 2) 1 (initial b starts)).sorted

end StreamCodec.Bzip2.Sort.Doubling
