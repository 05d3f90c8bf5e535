import StreamCodec.Config.Value
import StreamCodec.Double.OfText

/-!
What YAML text without quotes stands for: nothing, a truth value, a number or a text.
-/

namespace StreamCodec.Yaml

open Config (Scalar)

def digitValue (c : Char) : Nat :=
  if c.isDigit then c.toNat - 48
  else if 'a' ≤ c ∧ c ≤ 'z' then c.toNat - 87
  else if 'A' ≤ c ∧ c ≤ 'Z' then c.toNat - 55
  else 99

def integer? (base : Nat) (cs : List Char) : Option Int :=
  let (negative, l) := Double.signed cs
  if l.isEmpty || !l.all (fun c => digitValue c < base) then none
  else
    let n : Nat := l.foldl (fun n c => base * n + digitValue c) 0
    let i : Int := if negative then -n else n
    if -0x8000000000000000 ≤ i ∧ i < 0x8000000000000000 then some i else none

def marked? (cs : List Char) : Option Int :=
  match cs with
  | '0' :: 'x' :: r => integer? 16 r
  | '0' :: 'o' :: r => integer? 8 r
  | '+' :: r => integer? 10 r
  | _ => none

/-- Names of numbers that are no numbers here. -/
def unlimited : List String :=
  [".inf", ".Inf", ".INF", "+.inf", "+.Inf", "+.INF", "-.inf", "-.Inf", "-.INF", ".nan", ".NaN",
    ".NAN"]

/-- What a text without quotes stands for; `none` when it stands for no value that can be kept. -/
def plain? (s : String) : Option Scalar :=
  let cs := s.toList
  match marked? cs with
  | some i => some (.int i)
  | none =>
    if s = "~" ∨ s = "null" then some .null
    else if s = "true" then some (.bool true)
    else if s = "false" then some (.bool false)
    else
      match integer? 10 cs with
      | some i => some (.int i)
      | none =>
        if unlimited.contains s then none
        else
          match Double.ofText? cs with
          | some x => some (.real x)
          | none => some (.text s)

def tagged? (tag s : String) : Option Scalar :=
  let cs := s.toList
  match tag with
  | "!!bool" => some (if s = "true" then .bool true else if s = "false" then .bool false else .null)
  | "!!int" => some ((integer? 10 cs).elim .null .int)
  | "!!float" => if unlimited.contains s then none else some ((Double.ofText? cs).elim .null .real)
  | "!!null" => some .null
  | _ => some (.text s)

end StreamCodec.Yaml
