import StreamCodec.Huffman

/-!
The symbols of a compressed DEFLATE block: a literal byte, a copy of earlier output, or
the end of the block. A token is read through one code for literals and lengths and one
code for distances.
-/

namespace StreamCodec.Deflate

/-- What the bytes of a DEFLATE stream may be rejected for; the texts do not differ. -/
inductive Malformed where
  | frame | blockKind | storedLength | codeLengths | symbol | checksum
deriving DecidableEq, Repr

inductive Token where
  | literal (x : UInt8)
  | copy (length distance : Nat)
  | endOfBlock
deriving DecidableEq, Repr

def lengthCodes : Array (Nat × Nat) :=
  #[(3, 0), (4, 0), (5, 0), (6, 0), (7, 0), (8, 0), (9, 0), (10, 0), (11, 1), (13, 1), (15, 1),
    (17, 1), (19, 2), (23, 2), (27, 2), (31, 2), (35, 3), (43, 3), (51, 3), (59, 3), (67, 4),
    (83, 4), (99, 4), (115, 4), (131, 5), (163, 5), (195, 5), (227, 5), (258, 0)]

def distanceCodes : Array (Nat × Nat) :=
  #[(1, 0), (2, 0), (3, 0), (4, 0), (5, 1), (7, 1), (9, 2), (13, 2), (17, 3), (25, 3), (33, 4),
    (49, 4), (65, 5), (97, 5), (129, 6), (193, 6), (257, 7), (385, 7), (513, 8), (769, 8),
    (1025, 9), (1537, 9), (2049, 10), (3073, 10), (4097, 11), (6145, 11), (8193, 12), (12289, 12),
    (16385, 13), (24577, 13)]

structure Codes where
  literal : Huffman
  distance : Huffman

namespace Codes

def fixedLiteralLengths : Array Nat :=
  Array.replicate 144 8 ++ Array.replicate 112 9 ++ Array.replicate 24 7 ++ Array.replicate 8 8

def fixed : Codes where
  literal := Huffman.ofLengths 15 fixedLiteralLengths
  distance := Huffman.ofLengths 15 (Array.replicate 32 5)

/-- A base value with extra bits above it. -/
def ranged (codes : Array (Nat × Nat)) (symbol : Nat) : Scan Malformed Nat :=
  match codes[symbol]? with
  | some (base, extra) => do return base + (← Scan.bits extra)
  | none => Scan.fail .symbol

def token (c : Codes) : Scan Malformed Token := do
  let s ← c.literal.decode Scan.bit .symbol
  if s < 256 then return .literal s.toUInt8
  else if s = 256 then return .endOfBlock
  else
    let length ← ranged lengthCodes (s - 257)
    let distance ← ranged distanceCodes (← c.distance.decode Scan.bit .symbol)
    return .copy length distance

end Codes

end StreamCodec.Deflate
