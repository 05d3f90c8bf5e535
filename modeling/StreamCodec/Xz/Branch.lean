import StreamCodec.Bytes

/-!
Machine code whose branch targets were made absolute before compression. The way back
makes them relative to the place of the branch again. Instructions are recognised by a
few bytes, so the last ones wait for what follows.
-/

namespace StreamCodec.Xz

inductive Machine where
  | x86 | powerPc | ia64 | arm | armThumb | sparc
deriving DecidableEq, Repr

/-- The state of a conversion; `mask` tells which of the last bytes looked like an x86 branch. -/
structure Branch where
  machine : Machine
  place : UInt32
  waiting : ByteArray := ByteArray.empty
  mask : UInt32 := 0
  last : UInt32 := 0xfffffffb

namespace Branch

def byte (b : ByteArray) (i : Nat) : UInt32 := (b[i]?.getD 0).toUInt32

def put (b : ByteArray) (i : Nat) (x : UInt32) : ByteArray := b.set! i x.toUInt8

def bigWord (b : ByteArray) (i : Nat) : UInt32 :=
  (byte b i <<< 24) ||| (byte b (i + 1) <<< 16) ||| (byte b (i + 2) <<< 8) ||| byte b (i + 3)

def putBigWord (b : ByteArray) (i : Nat) (x : UInt32) : ByteArray :=
  put (put (put (put b i (x >>> 24)) (i + 1) (x >>> 16)) (i + 2) (x >>> 8)) (i + 3) x

def powerPc (b : ByteArray) (i : Nat) (place : UInt32) : ByteArray × Nat :=
  let x := bigWord b i
  if x &&& 0xfc000003 = 0x48000001 then
    (putBigWord b i (0x48000001 ||| (((x &&& 0x03fffffc) - place) &&& 0x03fffffc)), 4)
  else (b, 4)

def arm (b : ByteArray) (i : Nat) (place : UInt32) : ByteArray × Nat :=
  if byte b (i + 3) = 0xeb then
    let x := (byte b (i + 2) <<< 16) ||| (byte b (i + 1) <<< 8) ||| byte b i
    let x := ((x <<< 2) - (place + 8)) >>> 2
    (put (put (put b (i + 2) (x >>> 16)) (i + 1) (x >>> 8)) i x, 4)
  else (b, 4)

def armThumb (b : ByteArray) (i : Nat) (place : UInt32) : ByteArray × Nat :=
  if byte b (i + 1) &&& 0xf8 = 0xf0 ∧ byte b (i + 3) &&& 0xf8 = 0xf8 then
    let x :=
      ((byte b (i + 1) &&& 7) <<< 19) ||| (byte b i <<< 11) ||| ((byte b (i + 3) &&& 7) <<< 8)
      ||| byte b (i + 2)
    let x := ((x <<< 1) - (place + 4)) >>> 1
    let b := put (put b (i + 1) ((0xf0 : UInt32) ||| ((x >>> 19) &&& 7))) i (x >>> 11)
    (put (put b (i + 3) ((0xf8 : UInt32) ||| ((x >>> 8) &&& 7))) (i + 2) x, 4)
  else (b, 2)

def sparc (b : ByteArray) (i : Nat) (place : UInt32) : ByteArray × Nat :=
  let x := bigWord b i
  if x >>> 22 = 0x100 ∨ x >>> 22 = 0x1ff then
    let x := ((x <<< 2) - place) >>> 2
    let sign : UInt32 := (((0 : UInt32) - ((x >>> 22) &&& 1)) <<< 22) &&& 0x3fffffff
    (putBigWord b i (sign ||| (x &&& 0x3fffff) ||| 0x40000000), 4)
  else (b, 4)

def ia64Slots : Array Nat :=
  #[0, 0, 0, 0, 0, 0, 0, 0, 0, 0, 0, 0, 0, 0, 0, 0, 4, 4, 6, 6, 0, 0, 7, 7, 4, 4, 0, 0, 4, 4, 0, 0]

def ia64Slot (b : ByteArray) (i bit : Nat) (place : UInt32) : ByteArray :=
  let j := i + bit / 8
  let shift := (bit % 8).toUInt64
  let word : UInt64 :=
    (List.range 6).foldr (fun k acc => (acc <<< 8) ||| (byte b (j + k)).toUInt64) 0
  let x := word >>> shift
  if (x >>> 37) &&& 0xf = 5 ∧ (x >>> 9) &&& 7 = 0 then
    let target : UInt32 :=
      ((x >>> 13) &&& 0xfffff).toUInt32 ||| (((x >>> 36) &&& 1).toUInt32 <<< 20)
    let target := (((target <<< 4) - place) >>> 4).toUInt64
    let x := x &&& (((0x8fffff : UInt64) <<< 13) ^^^ 0xffffffffffffffff)
    let x := x ||| ((target &&& 0xfffff) <<< 13) ||| ((target &&& 0x100000) <<< 16)
    let word := (word &&& (((1 : UInt64) <<< shift) - 1)) ||| (x <<< shift)
    (List.range 6).foldl (fun b k => put b (j + k) (word >>> (8 * k).toUInt64).toUInt32) b
  else b

def ia64 (b : ByteArray) (i : Nat) (place : UInt32) : ByteArray × Nat :=
  let slots := ia64Slots.getD (byte b i &&& 0x1f).toNat 0
  let b := (List.range 3).foldl (fun b k =>
    if slots >>> k % 2 = 1 then ia64Slot b i (5 + 41 * k) place else b) b
  (b, 16)

def steps (convert : ByteArray → Nat → UInt32 → ByteArray × Nat) (unit : Nat) (place : UInt32) :
    (fuel : Nat) → ByteArray → (i : Nat) → ByteArray × Nat
  | 0, b, i => (b, i)
  | fuel + 1, b, i =>
    if b.size < i + unit then (b, i)
    else
      let (b, n) := convert b i (place + i.toUInt32)
      steps convert unit place fuel b (i + n)

def isNear (x : UInt32) : Bool := x = 0 || x = 0xff

/-- Which byte a mask of earlier branches puts in question. -/
def questioned (mask : UInt32) : UInt32 :=
  if mask = 0 then 0 else if mask = 1 then 1 else if mask ≤ 3 then 2 else 3

/-- The relative target for an absolute one; while a byte that an earlier branch may have changed
looks near, its bits are turned over and the work starts again. -/
def x86Target (mask next : UInt32) : (fuel : Nat) → (source : UInt32) → UInt32
  | 0, source => source - next
  | fuel + 1, source =>
    let target := source - next
    if mask = 0 then target
    else
      let i : UInt32 := (8 : UInt32) * questioned (mask >>> 1)
      if isNear ((target >>> (24 - i)) &&& 0xff) then
        x86Target mask next fuel (target ^^^ (((1 : UInt32) <<< (32 - i)) - 1))
      else target

def age (mask n : UInt32) : UInt32 :=
  if 5 < n then 0 else Nat.repeat (fun m => (m &&& 0x77) <<< 1) n.toNat mask

def x86 (place : UInt32) : (fuel : Nat) → ByteArray → (i : Nat) → (mask last : UInt32) →
    ByteArray × Nat × UInt32 × UInt32
  | 0, b, i, mask, last => (b, i, mask, last)
  | fuel + 1, b, i, mask, last =>
    if b.size < i + 5 then (b, i, mask, last)
    else
      let op := byte b i
      if op &&& 0xfe ≠ 0xe8 then x86 place fuel b (i + 1) mask last
      else
        let here := place + i.toUInt32
        let mask := age mask (here - last)
        let top := byte b (i + 4)
        if isNear top && mask >>> 1 ≤ 4 && mask >>> 1 != 3 then
          let source :=
            (top <<< 24) ||| (byte b (i + 3) <<< 16) ||| (byte b (i + 2) <<< 8) ||| byte b (i + 1)
          let target := x86Target mask (here + 5) 5 source
          let b := put (put (put b (i + 1) target) (i + 2) (target >>> 8)) (i + 3) (target >>> 16)
          x86 place fuel (put b (i + 4) ((0 : UInt32) - ((target >>> 24) &&& 1))) (i + 5) 0 here
        else x86 place fuel b (i + 1) ((mask ||| 1) ||| (if isNear top then 0x10 else 0)) here

/-- Takes in more bytes and hands out those that are settled. -/
def push (s : Branch) (more : ByteArray) : Branch × ByteArray :=
  let ⟨machine, place, waiting, mask, last⟩ := s
  let b := waiting ++ more
  let convert (f : ByteArray → Nat → UInt32 → ByteArray × Nat) (unit : Nat) :
      ByteArray × Nat × UInt32 × UInt32 :=
    let (b, n) := steps f unit place b.size b 0
    (b, n, mask, last)
  let (b, n, mask, last) := match machine with
    | .x86 => x86 place b.size b 0 mask last
    | .powerPc => convert powerPc 4
    | .ia64 => convert ia64 16
    | .arm => convert arm 4
    | .armThumb => convert armThumb 4
    | .sparc => convert sparc 4
  ({ machine, place := place + n.toUInt32, waiting := b.extract n b.size, mask, last },
    b.extract 0 n)

def alignment : Machine → Nat
  | .x86 => 1
  | .armThumb => 2
  | .ia64 => 16
  | _ => 4

end Branch

end StreamCodec.Xz
