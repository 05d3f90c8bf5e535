import StreamCodec.Base64
import StreamCodec.Brotli.Words

/-!
The dictionary of Brotli: words by length and number, and the 121 ways to change a word
before it is copied.
-/

namespace StreamCodec.Brotli

namespace Dictionary

def sizeBits : Array Nat :=
  #[0, 0, 0, 0, 10, 10, 11, 11, 10, 10, 10, 10, 10, 9, 9, 8, 7, 7, 8, 7, 7, 6, 6, 5, 5]

/-- The words by length, each length as one byte string. -/
def wordsByLength : List (List String) :=
  open Words in
  [length4, length5, length6, length7, length8, length9, length10, length11, length12, length13,
    length14, length15, length16, length17, length18, length19, length20, length21, length22,
    length23, length24]

def words : Array ByteArray :=
  (wordsByLength.map fun lines => Base64.decodeOnto ByteArray.empty (String.join lines)).toArray

def word (length i : Nat) : ByteArray :=
  (words.getD (length - 4) ByteArray.empty).extract (length * i) (length * i + length)

end Dictionary

inductive Change where
  | keep
  | omitFirst (n : Nat)
  | omitLast (n : Nat)
  | capitalise
  | upper
deriving DecidableEq, Repr

structure Transform where
  before : String
  change : Change
  behind : String
deriving DecidableEq, Repr

namespace Transform

def flip (b : ByteArray) (i : Nat) (bits : UInt8) : ByteArray :=
  if i < b.size then b.set! i ((b[i]?.getD 0) ^^^ bits) else b

/-- Turns the character at `i` into upper case and answers with its length. Only ASCII letters and
some two-byte and three-byte characters are changed properly. -/
def upperAt (b : ByteArray) (i : Nat) : ByteArray × Nat :=
  let x := b[i]?.getD 0
  if x < 0xc0 then (if 97 ≤ x ∧ x ≤ 122 then flip b i 32 else b, 1)
  else if x < 0xe0 then (flip b (i + 1) 32, 2)
  else (flip b (i + 2) 5, 3)

def upperFrom (b : ByteArray) : (fuel i : Nat) → ByteArray
  | 0, _ => b
  | fuel + 1, i =>
    if b.size ≤ i then b
    else
      let (b, n) := upperAt b i
      upperFrom b fuel (i + n)

def changed (word : ByteArray) : Change → ByteArray
  | .keep => word
  | .omitFirst n => word.extract n word.size
  | .omitLast n => word.extract 0 (word.size - n)
  | .capitalise => (upperAt word 0).1
  | .upper => upperFrom word word.size 0

def apply (t : Transform) (word : ByteArray) : ByteArray :=
  t.before.toUTF8 ++ changed word t.change ++ t.behind.toUTF8

def all : Array Transform :=
  #[⟨"", .keep, ""⟩, ⟨"", .keep, " "⟩, ⟨" ", .keep, " "⟩, ⟨"", .omitFirst 1, ""⟩,
    ⟨"", .capitalise, " "⟩, ⟨"", .keep, " the "⟩, ⟨" ", .keep, ""⟩, ⟨"s ", .keep, " "⟩,
    ⟨"", .keep, " of "⟩, ⟨"", .capitalise, ""⟩, ⟨"", .keep, " and "⟩, ⟨"", .omitFirst 2, ""⟩,
    ⟨"", .omitLast 1, ""⟩, ⟨", ", .keep, " "⟩, ⟨"", .keep, ", "⟩, ⟨" ", .capitalise, " "⟩,
    ⟨"", .keep, " in "⟩, ⟨"", .keep, " to "⟩, ⟨"e ", .keep, " "⟩, ⟨"", .keep, "\""⟩,
    ⟨"", .keep, "."⟩, ⟨"", .keep, "\">"⟩, ⟨"", .keep, "\n"⟩, ⟨"", .omitLast 3, ""⟩,
    ⟨"", .keep, "]"⟩, ⟨"", .keep, " for "⟩, ⟨"", .omitFirst 3, ""⟩, ⟨"", .omitLast 2, ""⟩,
    ⟨"", .keep, " a "⟩, ⟨"", .keep, " that "⟩, ⟨" ", .capitalise, ""⟩, ⟨"", .keep, ". "⟩,
    ⟨".", .keep, ""⟩, ⟨" ", .keep, ", "⟩, ⟨"", .omitFirst 4, ""⟩, ⟨"", .keep, " with "⟩,
    ⟨"", .keep, "'"⟩, ⟨"", .keep, " from "⟩, ⟨"", .keep, " by "⟩, ⟨"", .omitFirst 5, ""⟩,
    ⟨"", .omitFirst 6, ""⟩, ⟨" the ", .keep, ""⟩, ⟨"", .omitLast 4, ""⟩, ⟨"", .keep, ". The "⟩,
    ⟨"", .upper, ""⟩, ⟨"", .keep, " on "⟩, ⟨"", .keep, " as "⟩, ⟨"", .keep, " is "⟩,
    ⟨"", .omitLast 7, ""⟩, ⟨"", .omitLast 1, "ing "⟩, ⟨"", .keep, "\n\t"⟩, ⟨"", .keep, ":"⟩,
    ⟨" ", .keep, ". "⟩, ⟨"", .keep, "ed "⟩, ⟨"", .omitFirst 9, ""⟩, ⟨"", .omitFirst 7, ""⟩,
    ⟨"", .omitLast 6, ""⟩, ⟨"", .keep, "("⟩, ⟨"", .capitalise, ", "⟩, ⟨"", .omitLast 8, ""⟩,
    ⟨"", .keep, " at "⟩, ⟨"", .keep, "ly "⟩, ⟨" the ", .keep, " of "⟩, ⟨"", .omitLast 5, ""⟩,
    ⟨"", .omitLast 9, ""⟩, ⟨" ", .capitalise, ", "⟩, ⟨"", .capitalise, "\""⟩, ⟨".", .keep, "("⟩,
    ⟨"", .upper, " "⟩, ⟨"", .capitalise, "\">"⟩, ⟨"", .keep, "=\""⟩, ⟨" ", .keep, "."⟩,
    ⟨".com/", .keep, ""⟩, ⟨" the ", .keep, " of the "⟩, ⟨"", .capitalise, "'"⟩,
    ⟨"", .keep, ". This "⟩, ⟨"", .keep, ","⟩, ⟨".", .keep, " "⟩, ⟨"", .capitalise, "("⟩,
    ⟨"", .capitalise, "."⟩, ⟨"", .keep, " not "⟩, ⟨" ", .keep, "=\""⟩, ⟨"", .keep, "er "⟩,
    ⟨" ", .upper, " "⟩, ⟨"", .keep, "al "⟩, ⟨" ", .upper, ""⟩, ⟨"", .keep, "='"⟩,
    ⟨"", .upper, "\""⟩, ⟨"", .capitalise, ". "⟩, ⟨" ", .keep, "("⟩, ⟨"", .keep, "ful "⟩,
    ⟨" ", .capitalise, ". "⟩, ⟨"", .keep, "ive "⟩, ⟨"", .keep, "less "⟩, ⟨"", .upper, "'"⟩,
    ⟨"", .keep, "est "⟩, ⟨" ", .capitalise, "."⟩, ⟨"", .upper, "\">"⟩, ⟨" ", .keep, "='"⟩,
    ⟨"", .capitalise, ","⟩, ⟨"", .keep, "ize "⟩, ⟨"", .upper, "."⟩, ⟨"\u00a0", .keep, ""⟩,
    ⟨" ", .keep, ","⟩, ⟨"", .capitalise, "=\""⟩, ⟨"", .upper, "=\""⟩, ⟨"", .keep, "ous "⟩,
    ⟨"", .upper, ", "⟩, ⟨"", .capitalise, "='"⟩, ⟨" ", .capitalise, ","⟩, ⟨" ", .upper, "=\""⟩,
    ⟨" ", .upper, ", "⟩, ⟨"", .upper, ","⟩, ⟨"", .upper, "("⟩, ⟨"", .upper, ". "⟩,
    ⟨" ", .upper, "."⟩, ⟨"", .upper, "='"⟩, ⟨" ", .upper, ". "⟩, ⟨" ", .capitalise, "=\""⟩,
    ⟨" ", .upper, "='"⟩, ⟨" ", .capitalise, "='"⟩]
end Transform

namespace Dictionary

/-- The bytes that a copy of `length` bytes stands for whose distance exceeds the farthest one by
`excess`, if there is such a word and such a transform. -/
def lookup? (length excess : Nat) : Option ByteArray :=
  let bits := sizeBits.getD length 0
  if bits = 0 then none
  else
    let id := excess - 1
    match Transform.all[id >>> bits]? with
    | some t => some (t.apply (word length (id % (1 <<< bits))))
    | none => none

end Dictionary

end StreamCodec.Brotli
