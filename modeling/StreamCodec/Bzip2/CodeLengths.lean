/-!
Lengths for the words of a code by how often each symbol occurs. The two lightest trees
are joined until one is left. When a word comes out too long, the weights are evened out
and the work starts again. Of equally light trees the one that a heap holds on top is
taken.
-/

namespace StreamCodec.Bzip2.CodeLengths

/-- The weight of a tree, and its height, which decides between trees of the same weight. -/
abbrev Weight := Nat

def Weight.ofCount (n : Nat) : Weight := 256 * n

def Weight.join (a b : Weight) : Weight := (a / 256 + b / 256) * 256 + (1 + max (a % 256) (b % 256))

/-- Trees by number, in a heap whose first place is 1; place 0 holds a tree without weight. -/
structure Heap where
  places : Array Nat
  size : Nat

namespace Heap

def weight (weights : Array Weight) (h : Heap) (i : Nat) : Weight :=
  weights.getD (h.places.getD i 0) 0

/-- Puts `tree` into the free place `i`, or above it as long as it is lighter. -/
def rise (weights : Array Weight) (tree : Nat) : (fuel : Nat) → Heap → (i : Nat) → Heap
  | 0, h, i => { h with places := h.places.setIfInBounds i tree }
  | fuel + 1, h, i =>
    if weights.getD tree 0 < h.weight weights (i / 2) then
      rise weights tree fuel { h with places := h.places.setIfInBounds i (h.places.getD (i / 2) 0) }
        (i / 2)
    else { h with places := h.places.setIfInBounds i tree }

def fall (weights : Array Weight) (tree : Nat) : (fuel : Nat) → Heap → (i : Nat) → Heap
  | 0, h, i => { h with places := h.places.setIfInBounds i tree }
  | fuel + 1, h, i =>
    let j := 2 * i
    let j := if j < h.size ∧ h.weight weights (j + 1) < h.weight weights j then j + 1 else j
    if h.size < 2 * i ∨ weights.getD tree 0 < h.weight weights j then
      { h with places := h.places.setIfInBounds i tree }
    else fall weights tree fuel { h with places := h.places.setIfInBounds i (h.places.getD j 0) } j

def insert (weights : Array Weight) (h : Heap) (tree : Nat) : Heap :=
  rise weights tree (h.size + 1) { h with size := h.size + 1 } (h.size + 1)

def pop (weights : Array Weight) (h : Heap) : Nat × Heap :=
  let last := h.places.getD h.size 0
  (h.places.getD 1 0, fall weights last h.size { h with size := h.size - 1 } 1)

end Heap

/-- Trees under construction. -/
structure Forest where
  weights : Array Weight
  parents : Array Nat
  heap : Heap

namespace Forest

def start (weights : List Weight) : Forest :=
  let n := weights.length
  let all := (0 :: weights).toArray
  { weights := all
    parents := Array.replicate (n + 1) 0
    heap := (List.range n).foldl (fun h i => h.insert all (i + 1))
      { places := Array.replicate (n + 2) 0, size := 0 } }

def join (f : Forest) : Forest :=
  let (a, heap) := f.heap.pop f.weights
  let (b, heap) := heap.pop f.weights
  let tree := f.weights.size
  let weights := f.weights.push (Weight.join (f.weights.getD a 0) (f.weights.getD b 0))
  { weights
    parents := ((f.parents.setIfInBounds a tree).setIfInBounds b tree).push 0
    heap := heap.insert weights tree }

def depth (f : Forest) : (fuel : Nat) → (tree : Nat) → Nat
  | 0, _ => 0
  | fuel + 1, tree =>
    let p := f.parents.getD tree 0
    if p = 0 then 0 else f.depth fuel p + 1

end Forest

def ofWeights (weights : List Weight) : List Nat :=
  let n := weights.length
  let f := Nat.repeat Forest.join (n - 1) (Forest.start weights)
  (List.range n).map fun i => f.depth (2 * n) (i + 1)

def soften (w : Weight) : Weight := Weight.ofCount (1 + w / 256 / 2)

/-- Lengths of at most `longest`; `fuel` bounds how often the weights are evened out. -/
def ofWeightsWithin (longest : Nat) : (fuel : Nat) → List Weight → List Nat
  | 0, weights => ofWeights weights
  | fuel + 1, weights =>
    let lengths := ofWeights weights
    if lengths.all (· ≤ longest) then lengths else ofWeightsWithin longest fuel (weights.map soften)

def ofCounts (counts : Array Nat) : Array Nat :=
  (ofWeightsWithin 17 32 (counts.toList.map fun n => Weight.ofCount (max n 1))).toArray

end StreamCodec.Bzip2.CodeLengths
