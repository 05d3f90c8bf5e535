import StreamCodec.Bzip2.Sort.Shell
import StreamCodec.Bzip2.Sort.Split

/-!
Rotations put in order by their first two bytes and, within such a small bucket, by
splitting. The small buckets of one first byte make a big bucket. Once a big bucket is
sorted, the order of the rotations that start one byte earlier follows from it, and the
ranks within it serve to compare rotations that reach it. The work is given up when
comparisons go too deep.
-/

namespace StreamCodec.Bzip2.Sort.Buckets

/-- What comparisons look at: the bytes, with the first ones repeated behind the end, and ranks. -/
structure Ground where
  size : Nat
  bytes : ByteArray
  ranks : Array Nat

namespace Ground

def overshoot : Nat := 34

def ofBlock (b : ByteArray) : Ground where
  size := b.size
  bytes := b ++ b.extract 0 overshoot
  ranks := Array.replicate (b.size + overshoot) 0

def byte (g : Ground) (i : Nat) : UInt8 := g.bytes[i]?.getD 0

def rank (g : Ground) (i : Nat) : Nat := g.ranks.getD i 0

def greaterBytes (g : Ground) : (n : Nat) → (i j : Nat) → Option Bool
  | 0, _, _ => none
  | n + 1, i, j =>
    let x := g.byte i
    let y := g.byte j
    if x != y then some (y < x) else greaterBytes g n (i + 1) (j + 1)

def greaterRanks (g : Ground) : (n : Nat) → (i j : Nat) → Option Bool
  | 0, _, _ => none
  | n + 1, i, j =>
    let x := g.byte i
    let y := g.byte j
    if x != y then some (y < x)
    else
      let x := g.rank i
      let y := g.rank j
      if x ≠ y then some (y < x) else greaterRanks g n (i + 1) (j + 1)

/-- Compares by eights; the cost is the number of eights that did not differ. -/
def greaterFrom (g : Ground) : (rounds : Nat) → (i j cost : Nat) → Bool × Nat
  | 0, _, _, cost => (false, cost)
  | rounds + 1, i, j, cost =>
    match g.greaterRanks 8 i j with
    | some r => (r, cost)
    | none =>
      let i := if g.size ≤ i + 8 then i + 8 - g.size else i + 8
      let j := if g.size ≤ j + 8 then j + 8 - g.size else j + 8
      greaterFrom g rounds i j (cost + 1)

def greater (g : Ground) (i j : Nat) : Bool × Nat :=
  match g.greaterBytes 12 i j with
  | some r => (r, 0)
  | none => g.greaterFrom ((g.size + 8) / 8 + 1) (i + 12) (j + 12) 0

end Ground

def median (a b c : UInt8) : UInt8 :=
  let (a, b) := if b < a then (b, a) else (a, b)
  if c < b then (if c < a then a else c) else b

def pivotOf (g : Ground) (a : Array Nat) (lo stop depth : Nat) : UInt8 :=
  median (g.byte (a.getD lo 0 + depth)) (g.byte (a.getD (stop - 1) 0 + depth))
    (g.byte (a.getD ((lo + stop - 1) / 2) 0 + depth))

/-- Sorts the stretches of a stack; the rotations of a stretch agree in their first `depth`
bytes. -/
def sortStretches (g : Ground) (allowed : Nat) :
    (fuel : Nat) → List (Nat × Nat × Nat) → Array Nat → (spent : Nat) → Option (Array Nat × Nat)
  | 0, _, a, spent => some (a, spent)
  | _ + 1, [], a, spent => some (a, spent)
  | fuel + 1, (lo, stop, depth) :: rest, a, spent =>
    if stop < lo + 21 ∨ 14 < depth then
      match Shell.sort (fun i j => g.greater (i + depth) (j + depth)) allowed lo stop a spent with
      | none => none
      | some (a, spent) => sortStretches g allowed fuel rest a spent
    else
      let pivot := pivotOf g a lo stop depth
      let p := split (fun i => (g.byte (i + depth)).toNat) pivot.toNat a lo stop
      if p.even then sortStretches g allowed fuel ((lo, stop, depth + 1) :: rest) p.items spent
      else
        sortStretches g allowed fuel
          ((p.middle, p.high, depth + 1) :: (p.high, stop, depth) :: (lo, p.middle, depth) :: rest)
            p.items spent

/-- The state of the work. -/
structure Work where
  ground : Ground
  sorted : Array Nat
  starts : Array Nat
  known : Array Bool
  done : Array Bool
  spent : Nat

def pair (b : ByteArray) (i : Nat) : Nat :=
  256 * (b[i]?.getD 0).toNat + (b[if i + 1 = b.size then 0 else i + 1]?.getD 0).toNat

def countPairs (b : ByteArray) : (n i : Nat) → Array Nat → Array Nat
  | 0, _, acc => acc
  | n + 1, i, acc => countPairs b n (i + 1) (acc.modify (pair b i) (· + 1))

def place (b : ByteArray) : (n i : Nat) → (next sorted : Array Nat) → Array Nat
  | 0, _, _, sorted => sorted
  | n + 1, i, next, sorted =>
    let p := pair b i
    let k := next.getD p 0
    place b n (i + 1) (next.setIfInBounds p (k + 1)) (sorted.setIfInBounds k i)

def Work.ofBlock (b : ByteArray) : Work :=
  let counts := countPairs b b.size 0 (Array.replicate 65536 0)
  let (starts, _) := counts.foldl (fun (acc, sum) n => (acc.push (sum + n), sum + n)) (#[0], 0)
  { ground := Ground.ofBlock b
    sorted := place b b.size 0 starts (Array.replicate b.size 0)
    starts
    known := Array.replicate 65536 false
    done := Array.replicate 256 false
    spent := 0 }

namespace Work

def bigStart (w : Work) (x : Nat) : Nat := w.starts.getD (256 * x) 0

def bigSize (w : Work) (x : Nat) : Nat := w.bigStart (x + 1) - w.bigStart x

def byteOrder (w : Work) : Array Nat :=
  ((Shell.sort (fun x y => (decide (w.bigSize y < w.bigSize x), 0)) 0 0 256 (Array.range 256) 0).map
    (·.1)).getD #[]

def sortSmall (allowed x : Nat) : (n y : Nat) → Work → Option Work
  | 0, _, w => some w
  | n + 1, y, ⟨ground, sorted, starts, known, done, spent⟩ =>
    let p := 256 * x + y
    if y = x ∨ known.getD p false then
      sortSmall allowed x n (y + 1) ⟨ground, sorted, starts, known, done, spent⟩
    else
      let lo := starts.getD p 0
      let stop := starts.getD (p + 1) 0
      let known := known.setIfInBounds p true
      if stop ≤ lo + 1 then
        sortSmall allowed x n (y + 1) ⟨ground, sorted, starts, known, done, spent⟩
      else
        match sortStretches ground allowed (32 * (stop - lo) + 64) [(lo, stop, 2)] sorted spent with
        | none => none
        | some (sorted, spent) =>
          if allowed < spent then none
          else sortSmall allowed x n (y + 1) ⟨ground, sorted, starts, known, done, spent⟩

/-- Follows the sorted rotations from place `i` on to those one byte earlier, and puts these to the
fronts of their small buckets. The front of the bucket that is followed may move on meanwhile. -/
def followUp (g : Ground) (done : Array Bool) (x : Nat) :
    (fuel : Nat) → (i : Nat) → (sorted fronts : Array Nat) → Array Nat
  | 0, _, sorted, _ => sorted
  | fuel + 1, i, sorted, fronts =>
    if fronts.getD x 0 ≤ i then sorted
    else
      let p := sorted.getD i 0
      let k := if p = 0 then g.size - 1 else p - 1
      let c := (g.byte k).toNat
      if done.getD c false then followUp g done x fuel (i + 1) sorted fronts
      else
        let front := fronts.getD c 0
        followUp g done x fuel (i + 1) (sorted.setIfInBounds front k)
          (fronts.setIfInBounds c (front + 1))

def followDown (g : Ground) (done : Array Bool) (x : Nat) :
    (fuel : Nat) → (i : Nat) → (sorted backs : Array Nat) → Array Nat
  | 0, _, sorted, _ => sorted
  | fuel + 1, i, sorted, backs =>
    if i ≤ backs.getD x 0 then sorted
    else
      let p := sorted.getD (i - 1) 0
      let k := if p = 0 then g.size - 1 else p - 1
      let c := (g.byte k).toNat
      if done.getD c false then followDown g done x fuel (i - 1) sorted backs
      else
        let back := backs.getD c 0 - 1
        followDown g done x fuel (i - 1) (sorted.setIfInBounds back k) (backs.setIfInBounds c back)

def halvings (size : Nat) : Nat := if size ≤ 65534 then 0 else (size / 65535).log2 + 1

def rankAll (size lo shift : Nat) (sorted : Array Nat) : (n : Nat) → (ranks : Array Nat) → Array Nat
  | 0, ranks => ranks
  | n + 1, ranks =>
    let i := sorted.getD (lo + n) 0
    let rank := n >>> shift
    let ranks := ranks.setIfInBounds i rank
    let ranks := if i < Ground.overshoot then ranks.setIfInBounds (i + size) rank else ranks
    rankAll size lo shift sorted n ranks

/-- Completes the big bucket of `x`, and all small buckets whose second byte is `x`. -/
def complete (w : Work) (x : Nat) : Work :=
  let fronts := (Array.range 256).map fun c => w.starts.getD (256 * c + x) 0
  let backs := (Array.range 256).map fun c => w.starts.getD (256 * c + x + 1) 0
  let lo := w.bigStart x
  let stop := w.bigStart (x + 1)
  let ⟨ground, sorted, starts, known, done, spent⟩ := w
  let sorted := followUp ground done x ground.size lo sorted fronts
  let sorted := followDown ground done x ground.size stop sorted backs
  let known := (Array.range 256).foldl (fun k c => k.setIfInBounds (256 * c + x) true) known
  let ⟨size, bytes, ranks⟩ := ground
  let ranks := rankAll size lo (halvings (stop - lo)) sorted (stop - lo) ranks
  { ground := ⟨size, bytes, ranks⟩, sorted, starts, known, done := done.setIfInBounds x true,
    spent }

def sortBig (allowed : Nat) (w : Work) : List Nat → Option Work
  | [] => some w
  | x :: rest =>
    match sortSmall allowed x 256 0 w with
    | none => none
    | some w => sortBig allowed (w.complete x) rest

end Work

/-- The rotations of `b` in order, by where they start; `none` when the costs exceed what is
allowed. -/
def sort? (b : ByteArray) (allowed : Nat) : Option (Array Nat) :=
  let w := Work.ofBlock b
  (w.sortBig allowed w.byteOrder.toList).map (·.sorted)

end StreamCodec.Bzip2.Sort.Buckets
