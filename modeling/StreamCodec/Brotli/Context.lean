/-!
Contexts for literals: a number below 64 from the two bytes before, in one of four ways.
-/

namespace StreamCodec.Brotli

inductive ContextMode where
  | low
  | high
  | text
  | signed
deriving DecidableEq, Repr

namespace ContextMode

def ofBits : Nat → ContextMode
  | 0 => low
  | 1 => high
  | 2 => text
  | _ => signed

def asciiClasses : Array Nat :=
  #[8, 12, 16, 12, 12, 20, 12, 16, 24, 28, 12, 12, 32, 12, 36, 12, 44, 44, 44, 44, 44, 44, 44, 44,
    44, 44, 32, 32, 24, 40, 28, 12, 12, 48, 52, 52, 52, 48, 52, 52, 52, 48, 52, 52, 52, 52, 52, 48,
    52, 52, 52, 52, 52, 48, 52, 52, 52, 52, 52, 24, 12, 28, 12, 12, 12, 56, 60, 60, 60, 56, 60, 60,
    60, 56, 60, 60, 60, 60, 60, 56, 60, 60, 60, 60, 60, 56, 60, 60, 60, 60, 60, 24, 12, 28, 12, 0]

def lastClass (x : Nat) : Nat :=
  if x = 9 ∨ x = 10 ∨ x = 13 then 4
  else if x < 32 then 0
  else if x < 128 then asciiClasses.getD (x - 32) 0
  else if x < 192 then x % 2
  else 2 + x % 2

/-- The class of the byte before the last in text: letters, digits and capitals, marks. -/
def earlierClass (x : Nat) : Nat :=
  if 97 ≤ x ∧ x ≤ 122 then 3
  else if (48 ≤ x ∧ x ≤ 57) ∨ (65 ≤ x ∧ x ≤ 90) ∨ 224 ≤ x then 2
  else if 33 ≤ x ∧ x ≤ 126 then 1
  else 0

def magnitude (x : Nat) : Nat :=
  if x = 0 then 0
  else if x < 16 then 1
  else if x < 64 then 2
  else if x < 128 then 3
  else if x < 192 then 4
  else if x < 240 then 5
  else if x < 255 then 6
  else 7

def context (m : ContextMode) (last earlier : Nat) : Nat :=
  match m with
  | low => last % 64
  | high => last / 4
  | text => lastClass last ||| earlierClass earlier
  | signed => magnitude last * 8 + magnitude earlier

end ContextMode

end StreamCodec.Brotli
