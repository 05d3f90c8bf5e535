/-!
The model of LZMA: what has been coded lately, and for each question that is asked about
the next symbol how likely its answer is to be no. All questions are numbered in one
table.
-/

namespace StreamCodec.Lzma

/-- How literals and places are told apart. -/
structure Props where
  lc : Nat := 3
  lp : Nat := 0
  pb : Nat := 2
deriving DecidableEq, Repr

namespace Props

def ofByte? (b : Nat) : Option Props :=
  if 224 < b then none
  else
    let p : Props := { lc := b % 9, lp := b / 9 % 5, pb := b / 45 }
    if 4 < p.lc + p.lp then none else some p

def toByte (p : Props) : Nat := (p.pb * 5 + p.lp) * 9 + p.lc

end Props

/-! Where the questions stand in the table. -/

namespace Slot

def isMatch (state place : Nat) : Nat := 16 * state + place

def isRep (state : Nat) : Nat := 192 + state

/-- Whether a repeated distance is not the latest, the second latest or the third latest one. -/
def isOlder (age state : Nat) : Nat := 204 + 12 * age + state

def isLong (state place : Nat) : Nat := 240 + 16 * state + place

def distanceSlot (lengthClass : Nat) : Nat := 432 + 64 * lengthClass

def distanceLow : Nat := 688

def distanceAlign : Nat := 803

def length (repeated : Bool) : Nat := if repeated then 819 + 514 else 819

def literal (index : Nat) : Nat := 1847 + 0x300 * index

def count (p : Props) : Nat := literal (1 <<< (p.lc + p.lp))

end Slot

/-- The odds of a question, of 2048, that its answer is no. -/
abbrev Odds := Nat

def Odds.after (p : Odds) (bit : Bool) : Odds := if bit then p - p / 32 else p + (2048 - p) / 32

abbrev Trail := List (Nat × Bool)

/-- What questions are asked by: `state` tells the last symbols, below 7 behind a literal, and the
distances are the last four, less one, the latest first. -/
structure Model where
  props : Props
  state : Nat := 0
  rep0 : Nat := 0
  rep1 : Nat := 0
  rep2 : Nat := 0
  rep3 : Nat := 0
  odds : Array Odds

namespace Model

def start (props : Props) : Model := { props, odds := Array.replicate (Slot.count props) 1024 }

def learn (odds : Array Odds) (trail : Trail) : Array Odds :=
  trail.foldl (fun odds (slot, bit) => odds.modify slot (·.after bit)) odds

end Model

/-- One symbol: a byte, a copy with a new distance, a copy of one byte, or a copy with one of the
last distances. Distances are less one. -/
inductive Symbol where
  | literal (x : UInt8)
  | new (distance length : Nat)
  | single
  | again (age length : Nat)
deriving DecidableEq, Repr

def Symbol.next (s : Symbol) (state : Nat) : Nat :=
  match s with
  | literal _ => if state ≤ 3 then 0 else if state ≤ 9 then state - 3 else state - 6
  | new .. => if state < 7 then 7 else 10
  | single => if state < 7 then 9 else 11
  | again .. => if state < 7 then 8 else 11

namespace Model

def after (m : Model) (s : Symbol) (trail : Trail) : Model :=
  let ⟨props, state, rep0, rep1, rep2, rep3, odds⟩ := m
  let odds := learn odds trail
  let state := s.next state
  match s with
  | .literal _ | .single => { props, state, rep0, rep1, rep2, rep3, odds }
  | .new d _ => { props, state, rep0 := d, rep1 := rep0, rep2 := rep1, rep3 := rep2, odds }
  | .again 0 _ => { props, state, rep0, rep1, rep2, rep3, odds }
  | .again 1 _ => { props, state, rep0 := rep1, rep1 := rep0, rep2, rep3, odds }
  | .again 2 _ => { props, state, rep0 := rep2, rep1 := rep0, rep2 := rep1, rep3, odds }
  | .again _ _ => { props, state, rep0 := rep3, rep1 := rep0, rep2 := rep1, rep3 := rep2, odds }

end Model

/-- What questions depend on besides the model. -/
structure Surroundings where
  place : Nat
  before : UInt8
  facing : UInt8

namespace Model

def literalTable (m : Model) (s : Surroundings) : Nat :=
  (s.place % (1 <<< m.props.lp)) <<< m.props.lc + s.before.toNat >>> (8 - m.props.lc)

def placeClass (m : Model) (s : Surroundings) : Nat := s.place % (1 <<< m.props.pb)

end Model

def lengthClass (length : Nat) : Nat := min (length - 2) 3

end StreamCodec.Lzma
