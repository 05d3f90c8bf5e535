/-!
Sorting by shrinking steps, with a budget. Each comparison has a cost, and sorting is
given up when the costs exceed what is allowed.
-/

namespace StreamCodec.Bzip2.Sort.Shell

def steps (n : Nat) : List Nat :=
  [2391484, 797161, 265720, 88573, 29524, 9841, 3280, 1093, 364, 121, 40, 13, 4, 1].filter (· < n)

/-- Moves entries before place `j` back, `step` places each, while they are greater than `v`, and
puts `v` into the free place. -/
@[specialize]
def sink (greater : Nat → Nat → Bool × Nat) (lo step v : Nat) :
    (fuel : Nat) → Array Nat → (j spent : Nat) → Array Nat × Nat
  | 0, a, j, spent => (a.setIfInBounds j v, spent)
  | fuel + 1, a, j, spent =>
    let x := a.getD (j - step) 0
    let (isGreater, cost) := greater x v
    if isGreater then
      if j - step < lo + step then ((a.setIfInBounds j x).setIfInBounds (j - step) v, spent + cost)
      else sink greater lo step v fuel (a.setIfInBounds j x) (j - step) (spent + cost)
    else (a.setIfInBounds j v, spent + cost)

@[specialize]
def sinkAll (greater : Nat → Nat → Bool × Nat) (allowed lo step : Nat) :
    (n : Nat) → Array Nat → (i spent : Nat) → Option (Array Nat × Nat)
  | 0, a, _, spent => some (a, spent)
  | n + 1, a, i, spent =>
    if allowed < spent then none
    else
      let v := a.getD i 0
      let (a, spent) := sink greater lo step v (i - lo) a i spent
      sinkAll greater allowed lo step n a (i + 1) spent

@[specialize]
def sort (greater : Nat → Nat → Bool × Nat) (allowed lo stop : Nat) (a : Array Nat) (spent : Nat) :
    Option (Array Nat × Nat) :=
  (steps (stop - lo)).foldl (fun r step =>
    match r with
    | none => none
    | some (a, spent) => sinkAll greater allowed lo step (stop - lo - step) a (lo + step) spent)
    (some (a, spent))

end StreamCodec.Bzip2.Sort.Shell
