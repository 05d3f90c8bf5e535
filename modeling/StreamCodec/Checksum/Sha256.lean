import StreamCodec.Bytes

/-!
SHA-256, fed piece by piece. Whole blocks of 64 bytes are taken in at once; the rest waits.
-/

namespace StreamCodec

structure Sha256 where
  words : Array UInt32 :=
    #[0x6a09e667, 0xbb67ae85, 0x3c6ef372, 0xa54ff53a, 0x510e527f, 0x9b05688c, 0x1f83d9ab,
      0x5be0cd19]
  waiting : ByteArray := ByteArray.empty
  length : Nat := 0

namespace Sha256

def constants : Array UInt32 :=
  #[0x428a2f98, 0x71374491, 0xb5c0fbcf, 0xe9b5dba5, 0x3956c25b, 0x59f111f1, 0x923f82a4, 0xab1c5ed5,
    0xd807aa98, 0x12835b01, 0x243185be, 0x550c7dc3, 0x72be5d74, 0x80deb1fe, 0x9bdc06a7, 0xc19bf174,
    0xe49b69c1, 0xefbe4786, 0x0fc19dc6, 0x240ca1cc, 0x2de92c6f, 0x4a7484aa, 0x5cb0a9dc, 0x76f988da,
    0x983e5152, 0xa831c66d, 0xb00327c8, 0xbf597fc7, 0xc6e00bf3, 0xd5a79147, 0x06ca6351, 0x14292967,
    0x27b70a85, 0x2e1b2138, 0x4d2c6dfc, 0x53380d13, 0x650a7354, 0x766a0abb, 0x81c2c92e, 0x92722c85,
    0xa2bfe8a1, 0xa81a664b, 0xc24b8b70, 0xc76c51a3, 0xd192e819, 0xd6990624, 0xf40e3585, 0x106aa070,
    0x19a4c116, 0x1e376c08, 0x2748774c, 0x34b0bcb5, 0x391c0cb3, 0x4ed8aa4a, 0x5b9cca4f, 0x682e6ff3,
    0x748f82ee, 0x78a5636f, 0x84c87814, 0x8cc70208, 0x90befffa, 0xa4506ceb, 0xbef9a3f7, 0xc67178f2]

def rotate (x : UInt32) (n : UInt32) : UInt32 := (x >>> n) ||| (x <<< (32 - n))

def wordAt (b : ByteArray) (i : Nat) : UInt32 :=
  let byte (k : Nat) : UInt32 := (b[i + k]?.getD 0).toUInt32
  (byte 0 <<< 24) ||| (byte 1 <<< 16) ||| (byte 2 <<< 8) ||| byte 3

def schedule (b : ByteArray) (i : Nat) : Array UInt32 :=
  let first := (Array.range 16).map fun k => wordAt b (i + 4 * k)
  (List.range 48).foldl (fun w k =>
    let x := w.getD (k + 1) 0
    let y := w.getD (k + 14) 0
    let s := rotate x 7 ^^^ rotate x 18 ^^^ (x >>> 3)
    let t := rotate y 17 ^^^ rotate y 19 ^^^ (y >>> 10)
    w.push (w.getD k 0 + s + w.getD (k + 9) 0 + t)) first

def round (v : Array UInt32) (k w : UInt32) : Array UInt32 :=
  let a := v.getD 0 0
  let e := v.getD 4 0
  let s := rotate e 6 ^^^ rotate e 11 ^^^ rotate e 25
  let choice := (e &&& v.getD 5 0) ^^^ ((e ^^^ 0xffffffff) &&& v.getD 6 0)
  let t := v.getD 7 0 + s + choice + k + w
  let u := rotate a 2 ^^^ rotate a 13 ^^^ rotate a 22
  let majority := (a &&& v.getD 1 0) ^^^ (a &&& v.getD 2 0) ^^^ (v.getD 1 0 &&& v.getD 2 0)
  #[t + u + majority, a, v.getD 1 0, v.getD 2 0, v.getD 3 0 + t, e, v.getD 5 0, v.getD 6 0]

def block (words : Array UInt32) (b : ByteArray) (i : Nat) : Array UInt32 :=
  let w := schedule b i
  let v := (List.range 64).foldl (fun v k => round v (constants.getD k 0) (w.getD k 0)) words
  (words.zip v).map fun (x, y) => x + y

def blocks (b : ByteArray) : (n i : Nat) → Array UInt32 → Array UInt32
  | 0, _, words => words
  | n + 1, i, words => blocks b n (i + 64) (block words b i)

def update (s : Sha256) (b : ByteArray) : Sha256 :=
  let all := s.waiting ++ b
  let n := all.size / 64
  { words := blocks all n 0 s.words, waiting := all.extract (64 * n) all.size,
    length := s.length + b.size }

def digest (s : Sha256) : ByteArray :=
  let zeros := (119 - s.length % 64) % 64
  let tail := Bytes.replicate zeros 0 ++ Bytes.ofList (Bytes.bigEndian 8 (8 * s.length))
  let s := s.update (Bytes.ofList [0x80] ++ tail)
  s.words.foldl (fun acc w => acc ++ Bytes.ofList (Bytes.bigEndian 4 w.toNat)) ByteArray.empty

end Sha256

end StreamCodec
