/-!
Adler-32: two sums modulo 65521, the second one a sum of the first.
-/

namespace StreamCodec

structure Adler32 where
  low : Nat := 1
  high : Nat := 0

namespace Adler32

def modulus : Nat := 65521

def step (a : Adler32) (b : UInt8) : Adler32 :=
  let low := (a.low + b.toNat) % modulus
  { low, high := (a.high + low) % modulus }

def update (a : Adler32) (bytes : ByteArray) : Adler32 := bytes.data.foldl step a

def value (a : Adler32) : Nat := a.high * 65536 + a.low

end Adler32

end StreamCodec
