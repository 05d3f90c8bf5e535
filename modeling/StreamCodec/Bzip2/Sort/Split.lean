/-!
Splitting a stretch of a list in three by a key: smaller than a pivot, equal to it, and
greater. Equal entries are collected at both ends and moved to the middle afterwards.
-/

namespace StreamCodec.Bzip2.Sort

def swapRanges (a : Array Nat) (i j : Nat) : Nat → Array Nat
  | 0 => a
  | n + 1 => swapRanges (a.swapIfInBounds i j) (i + 1) (j + 1) n

/-- Passes the entries from `i` on that are not greater than the pivot, `n` of them at most. Equal
ones are swapped to the place `equal`. Answers with the next free place, where it stopped and what
is left. -/
@[specialize]
def climb (key : Nat → Nat) (pivot : Nat) :
    (n : Nat) → Array Nat → (equal i : Nat) → Array Nat × Nat × Nat × Nat
  | 0, a, equal, i => (a, equal, i, 0)
  | n + 1, a, equal, i =>
    let k := key (a.getD i 0)
    if k = pivot then climb key pivot n (a.swapIfInBounds i equal) (equal + 1) (i + 1)
    else if pivot < k then (a, equal, i, n + 1)
    else climb key pivot n a equal (i + 1)

@[specialize]
def descend (key : Nat → Nat) (pivot i : Nat) :
    (n : Nat) → Array Nat → (equal : Nat) → Array Nat × Nat × Nat
  | 0, a, equal => (a, equal, 0)
  | n + 1, a, equal =>
    let k := key (a.getD (i + n) 0)
    if k = pivot then descend key pivot i n (a.swapIfInBounds (i + n) (equal - 1)) (equal - 1)
    else if k < pivot then (a, equal, n + 1)
    else descend key pivot i n a equal

/-- Splits the `n` entries from `i` on. Answers with the end of the equal ones in front, the border
between smaller and greater ones, and the start of the equal ones behind. -/
@[specialize]
def splitFrom (key : Nat → Nat) (pivot : Nat) :
    (fuel : Nat) → Array Nat → (front i n back : Nat) → Array Nat × Nat × Nat × Nat
  | 0, a, front, i, _, back => (a, front, i, back)
  | fuel + 1, a, front, i, n, back =>
    let (a, front, i, n) := climb key pivot n a front i
    let (a, back, n) := descend key pivot i n a back
    if n = 0 then (a, front, i, back)
    else splitFrom key pivot fuel (a.swapIfInBounds i (i + n - 1)) front (i + 1) (n - 2) back

/-- The parts of a stretch: entries before `middle` are smaller than the pivot, entries from `high`
on are greater. -/
structure Parts where
  items : Array Nat
  middle : Nat
  high : Nat
  even : Bool

@[specialize]
def split (key : Nat → Nat) (pivot : Nat) (a : Array Nat) (lo stop : Nat) : Parts :=
  let (a, front, border, back) := splitFrom key pivot (stop - lo + 1) a lo lo (stop - lo) stop
  if back ≤ front then { items := a, middle := lo, high := stop, even := true }
  else
    let n := min (front - lo) (border - front)
    let a := swapRanges a lo (border - n) n
    let m := min (stop - back) (back - border)
    let a := swapRanges a border (stop - m) m
    { items := a, middle := lo + (border - front), high := stop - (back - border), even := false }

end StreamCodec.Bzip2.Sort
