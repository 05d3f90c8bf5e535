import StreamCodec.Bytes
import StreamCodec.Zstd.Literals

/-!
The sequences of a compressed block. Each one copies some literals and then some earlier
output. Their lengths and offsets are coded with three finite-state tables that share one
bit string; an offset may also name one of the last three.
-/

namespace StreamCodec.Zstd

def literalLengths : Array (Nat × Nat) :=
  (Array.range 16).map (·, 0) ++
    #[(16, 1), (18, 1), (20, 1), (22, 1), (24, 2), (28, 2), (32, 3), (40, 3), (48, 4), (64, 6),
      (128, 7), (256, 8), (512, 9), (1024, 10), (2048, 11), (4096, 12), (8192, 13), (16384, 14),
      (32768, 15), (65536, 16)]

def matchLengths : Array (Nat × Nat) :=
  (Array.range 32).map (fun i => (i + 3, 0)) ++
    #[(35, 1), (37, 1), (39, 1), (41, 1), (43, 2), (47, 2), (51, 3), (59, 3), (67, 4), (83, 4),
      (99, 5), (131, 7), (259, 8), (515, 9), (1027, 10), (2051, 11), (4099, 12), (8195, 13),
      (16387, 14), (32771, 15), (65539, 16)]

def literalLengthCounts : Array Int :=
  #[4, 3, 2, 2, 2, 2, 2, 2, 2, 2, 2, 2, 2, 1, 1, 1, 2, 2, 2, 2, 2, 2, 2, 2, 2, 3, 2, 1, 1, 1, 1, 1,
    -1, -1, -1, -1]

def matchLengthCounts : Array Int :=
  #[1, 4, 3, 2, 2, 2, 2, 2, 2, 1, 1, 1, 1, 1, 1, 1, 1, 1, 1, 1, 1, 1, 1, 1, 1, 1, 1, 1, 1, 1, 1, 1,
    1, 1, 1, 1, 1, 1, 1, 1, 1, 1, 1, 1, 1, 1, -1, -1, -1, -1, -1, -1, -1]

def offsetCounts : Array Int :=
  #[1, 1, 1, 1, 1, 1, 2, 2, 2, 1, 1, 1, 1, 1, 1, 1, 1, 1, 1, 1, 1, 1, 1, 1, -1, -1, -1, -1, -1]

structure Alphabet where
  standard : Fse
  symbols : Nat
  maxLog : Nat

namespace Alphabet

def literalLength : Alphabet :=
  { standard := Fse.build literalLengthCounts 6, symbols := 36, maxLog := 9 }

def offset : Alphabet := { standard := Fse.build offsetCounts 5, symbols := 32, maxLog := 8 }

def matchLength : Alphabet :=
  { standard := Fse.build matchLengthCounts 6, symbols := 53, maxLog := 9 }

def read (a : Alphabet) (mode : Nat) (known : Option Fse) (b : ByteArray) :
    Except Fault (Fse × Nat) :=
  match mode with
  | 0 => .ok (a.standard, 0)
  | 1 =>
    match b[0]? with
    | none => .error .corrupt
    | some s => if s.toNat < a.symbols then .ok (Fse.single s.toNat, 1) else .error .corrupt
  | 2 => orCorrupt (Fse.read? b a.symbols a.maxLog)
  | _ => orCorrupt (known.map fun t => (t, 0))

end Alphabet

structure Recent where
  first : Nat := 1
  second : Nat := 4
  third : Nat := 8
deriving DecidableEq, Repr

namespace Recent

/-- The offset that a value of at most three stands for, and the order that follows. Without
literals in front, the values count from the second offset, and the last one is the first offset
less one. -/
def offset (r : Recent) (value : Nat) (noLiterals : Bool) : Nat × Recent :=
  match value + (if noLiterals then 1 else 0) with
  | 1 => (r.first, r)
  | 2 => (r.second, { first := r.second, second := r.first, third := r.third })
  | 3 => (r.third, { first := r.third, second := r.first, third := r.second })
  | _ => (r.first - 1, { first := r.first - 1, second := r.first, third := r.second })

def resolve (r : Recent) (value : Nat) (noLiterals : Bool) : Nat × Recent :=
  if 3 < value then (value - 3, { first := value - 3, second := r.first, third := r.second })
  else r.offset value noLiterals

end Recent

structure Sequence where
  literals : Nat
  length : Nat
  offset : Nat
deriving DecidableEq, Repr

/-- The tables and offsets that a block hands on to the next one. -/
structure Entropy where
  huffman : Option HuffmanTable := none
  literalLength : Option Fse := none
  offset : Option Fse := none
  matchLength : Option Fse := none
  recent : Recent := {}

structure Tables where
  literalLength : Fse
  offset : Fse
  matchLength : Fse

structure States where
  literalLength : Nat
  offset : Nat
  matchLength : Nat

namespace Sequence

def extended? (codes : Array (Nat × Nat)) (symbol : Nat) (r : BackBits) :
    Option (Nat × BackBits) := do
  let (base, extra) ← codes[symbol]?
  let (x, r) ← r.read? extra
  return (base + x, r)

def start? (t : Tables) (r : BackBits) : Option (States × BackBits) := do
  let (literalLength, r) ← t.literalLength.start? r
  let (offset, r) ← t.offset.start? r
  let (matchLength, r) ← t.matchLength.start? r
  return ({ literalLength, offset, matchLength }, r)

def read? (t : Tables) (s : States) (recent : Recent) (r : BackBits) :
    Option (Sequence × Recent × BackBits) := do
  let code := t.offset.symbol s.offset
  let (x, r) ← r.read? code
  let (length, r) ← extended? matchLengths (t.matchLength.symbol s.matchLength) r
  let (literals, r) ← extended? Zstd.literalLengths (t.literalLength.symbol s.literalLength) r
  let (offset, recent) := recent.resolve (1 <<< code + x) (literals = 0)
  return ({ literals, length, offset }, recent, r)

def advance? (t : Tables) (s : States) (r : BackBits) : Option (States × BackBits) := do
  let (literalLength, r) ← t.literalLength.next? s.literalLength r
  let (matchLength, r) ← t.matchLength.next? s.matchLength r
  let (offset, r) ← t.offset.next? s.offset r
  return ({ literalLength, offset, matchLength }, r)

/-- Carries out `n` sequences. `used` literals are behind; the output may grow to `limit` bytes. The
bits have to come out even. -/
def runFrom (t : Tables) (literals : ByteArray) (limit : Nat) :
    (n : Nat) → States → Recent → BackBits → (used : Nat) → (out : ByteArray) →
    Option (Recent × Nat × ByteArray)
  | 0, _, recent, r, used, out => if r.left = 0 then some (recent, used, out) else none
  | n + 1, s, recent, r, used, out =>
    match read? t s recent r with
    | none => none
    | some (q, recent, r) =>
      if literals.size < used + q.literals ∨ limit < out.size + q.literals + q.length
          ∨ q.offset = 0 ∨ out.size + q.literals < q.offset then none
      else
        let out :=
          Bytes.copyBack (out ++ literals.extract used (used + q.literals)) q.offset q.length
        if n = 0 then runFrom t literals limit n s recent r (used + q.literals) out
        else
          match advance? t s r with
          | none => none
          | some (s, r) => runFrom t literals limit n s recent r (used + q.literals) out

end Sequence

namespace Block

def sequenceCount (b : ByteArray) : Except Fault (Nat × Nat) :=
  let head := Bytes.le b 0 1
  if b.size = 0 then .error .sourceSize
  else if head < 128 then .ok (head, 1)
  else if head < 255 then
    if b.size < 2 then .error .sourceSize else .ok ((head - 128) * 256 + Bytes.le b 1 1, 2)
  else if b.size < 3 then .error .sourceSize
  else .ok (Bytes.le b 1 2 + 0x7f00, 3)

def readTables (e : Entropy) (b : ByteArray) : Except Fault (Tables × Nat) := do
  if b.size = 0 then throw .sourceSize
  let modes := Bytes.le b 0 1
  if modes % 4 ≠ 0 then throw .corrupt
  let (literalLength, n₁) ← Alphabet.literalLength.read (modes / 64) e.literalLength
    (b.extract 1 b.size)
  let (offset, n₂) ← Alphabet.offset.read (modes / 16 % 4) e.offset (b.extract (1 + n₁) b.size)
  let (matchLength, n₃) ← Alphabet.matchLength.read (modes / 4 % 4) e.matchLength
    (b.extract (1 + n₁ + n₂) b.size)
  return ({ literalLength, offset, matchLength }, 1 + n₁ + n₂ + n₃)

def runSequences (e : Entropy) (literals b : ByteArray) (limit : Nat) (out : ByteArray) :
    Except Fault (Entropy × ByteArray) := do
  let (count, used) ← sequenceCount b
  if count = 0 then
    if b.size ≠ used ∨ limit < out.size + literals.size then throw .corrupt
    return (e, out ++ literals)
  else
    let b := b.extract used b.size
    let (t, used) ← readTables e b
    let r ← orCorrupt (BackBits.ofBytes? (b.extract used b.size))
    let (s, r) ← orCorrupt (Sequence.start? t r)
    let (recent, used, out) ← orCorrupt (Sequence.runFrom t literals limit count s e.recent r 0 out)
    if limit < out.size + (literals.size - used) then throw .corrupt
    return ({ e with
        literalLength := some t.literalLength, offset := some t.offset, matchLength :=
          some t.matchLength, recent },
      out ++ literals.extract used literals.size)

/-- Appends what a compressed block stands for. `most` bounds the literals and the block itself. -/
def decompress (e : Entropy) (b : ByteArray) (most limit : Nat) (out : ByteArray) :
    Except Fault (Entropy × ByteArray) := do
  if most < b.size then throw .sourceSize
  let literals ← Literals.read b most e.huffman
  runSequences { e with huffman := literals.table } literals.bytes
    (b.extract literals.used b.size) limit out

end Block

end StreamCodec.Zstd
