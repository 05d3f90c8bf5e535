/-!
Base 64: four characters for three bytes. Fill characters stand for nothing.
-/

namespace StreamCodec.Base64

def digit? (c : UInt8) : Option UInt32 :=
  if 65 ≤ c ∧ c ≤ 90 then some (c - 65).toUInt32
  else if 97 ≤ c ∧ c ≤ 122 then some (c - 71).toUInt32
  else if 48 ≤ c ∧ c ≤ 57 then some (c + 4).toUInt32
  else if c = 43 then some 62
  else if c = 47 then some 63
  else none

/-- Takes one character more; `waiting` bits of `acc` have not been put out. -/
def step (s : ByteArray × UInt32 × UInt32) (c : UInt8) : ByteArray × UInt32 × UInt32 :=
  let (out, acc, waiting) := s
  match digit? c with
  | none => (out, acc, waiting)
  | some d =>
    let acc := ((acc &&& 0xff) <<< 6) ||| d
    if waiting < 2 then (out, acc, waiting + 6)
    else (out.push (acc >>> (waiting - 2)).toUInt8, acc, waiting - 2)

def decodeOnto (out : ByteArray) (s : String) : ByteArray :=
  (s.toUTF8.data.foldl step (out, 0, 0)).1

end StreamCodec.Base64
