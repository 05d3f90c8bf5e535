import StreamCodec.Bytes

/-!
Sample data of four kinds. A longer sample of a kind starts with every shorter one:
byte `i` depends on `i` alone.
-/

namespace StreamCodec.SampleData

/-- What a sample is made of: zeros, a sentence over and over, random bytes, or random bytes with
300 zeros in front in each thousand. -/
inductive Pattern where
  | zeros
  | text
  | random
  | mixed
deriving DecidableEq, Repr

def Pattern.ofName? : String → Option Pattern
  | "zeros" => some .zeros
  | "text" => some .text
  | "random" => some .random
  | "mixed" => some .mixed
  | _ => none

def sentence : ByteArray := "The quick brown fox jumps over the lazy dog. ".toUTF8

def xorshift (s : UInt64) : UInt64 :=
  let s := s ^^^ (s <<< 13)
  let s := s ^^^ (s >>> 7)
  s ^^^ (s <<< 17)

def yielded (s : UInt64) : UInt8 := (s >>> 24).toUInt8

def randomSeed : UInt64 := 0x2545f4914f6cdd1d

def mixedSeed : UInt64 := 0x9e3779b97f4a7c15

def zeroSpan : Nat := 300

def period : Nat := 1000

def textFrom : (n i : Nat) → ByteArray → ByteArray
  | 0, _, out => out
  | n + 1, i, out => textFrom n (i + 1) (out.push (sentence[i % sentence.size]?.getD 0))

def randomFrom : (n : Nat) → UInt64 → ByteArray → ByteArray
  | 0, _, out => out
  | n + 1, s, out => randomFrom n (xorshift s) (out.push (yielded (xorshift s)))

/-- `n` more bytes from byte `i` on. The zeros leave the state untouched. -/
def mixedFrom : (n i : Nat) → UInt64 → ByteArray → ByteArray
  | 0, _, _, out => out
  | n + 1, i, s, out =>
    if i % period < zeroSpan then mixedFrom n (i + 1) s (out.push 0)
    else mixedFrom n (i + 1) (xorshift s) (out.push (yielded (xorshift s)))

def generate (p : Pattern) (n : Nat) : ByteArray :=
  match p with
  | .zeros => Bytes.replicate n 0
  | .text => textFrom n 0 ByteArray.empty
  | .random => randomFrom n randomSeed ByteArray.empty
  | .mixed => mixedFrom n 0 mixedSeed ByteArray.empty

end StreamCodec.SampleData
