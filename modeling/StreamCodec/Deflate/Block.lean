import StreamCodec.Deflate.Token

/-!
Block headers of a DEFLATE stream. A stored block names its length twice, a compressed
block uses the fixed codes or spells out its own. A code may be incomplete only when it
has at most one word, and the code of the code lengths never.
-/

namespace StreamCodec.Deflate

inductive BlockBody where
  | stored (length : Nat)
  | compressed (codes : Codes)

structure BlockHeader where
  last : Bool
  body : BlockBody

namespace BlockHeader

def lengthOrder : List Nat := [16, 17, 18, 0, 8, 7, 9, 6, 10, 5, 11, 4, 12, 3, 13, 2, 14, 1, 15]

def acceptable (h : Huffman) : Bool := h.complete || h.used ≤ 1

/-- Appends the code lengths that one symbol of the code-length code stands for. -/
def expand (lengths : Array Nat) (symbol : Nat) : Scan Malformed (Array Nat) :=
  if symbol < 16 then return lengths.push symbol
  else if symbol = 16 then
    match lengths.back? with
    | none => Scan.fail .codeLengths
    | some l => do return lengths ++ Array.replicate (3 + (← Scan.bits 2)) l
  else if symbol = 17 then do return lengths ++ Array.replicate (3 + (← Scan.bits 3)) 0
  else do return lengths ++ Array.replicate (11 + (← Scan.bits 7)) 0

def readLengths (code : Huffman) (total : Nat) :
    (left : Nat) → Array Nat → Scan Malformed (Array Nat)
  | 0, lengths => return lengths
  | left + 1, lengths =>
    if total ≤ lengths.size then return lengths
    else do
      let s ← code.decode Scan.bit .codeLengths
      readLengths code total left (← expand lengths s)

def arrange (sent : Array Nat) : Array Nat :=
  (Array.range 19).map fun s => sent.getD (lengthOrder.idxOf s) 0

def dynamicCodes : Scan Malformed Codes := do
  let literals := 257 + (← Scan.bits 5)
  let distances := 1 + (← Scan.bits 5)
  let count := 4 + (← Scan.bits 4)
  Scan.guard (literals ≤ 286 && distances ≤ 30) .codeLengths
  let code := Huffman.ofLengths 7 (arrange (← Scan.times (Scan.bits 3) count #[]))
  Scan.guard code.complete .codeLengths
  let total := literals + distances
  let lengths ← readLengths code total total #[]
  Scan.guard (lengths.size = total) .codeLengths
  let distance := Huffman.ofLengths 15 (lengths.extract literals total)
  Scan.guard (acceptable distance) .codeLengths
  let literal := Huffman.ofLengths 15 (lengths.extract 0 literals)
  Scan.guard (acceptable literal) .codeLengths
  return { literal, distance }

def storedLength : Scan Malformed Nat := do
  let _ ← Scan.align
  let length ← Scan.bits 16
  let complement ← Scan.bits 16
  Scan.guard (length + complement = 0xffff) .storedLength
  return length

def read : Scan Malformed BlockHeader := do
  let last := (← Scan.bits 1) = 1
  match ← Scan.bits 2 with
  | 0 => return { last, body := .stored (← storedLength) }
  | 1 => return { last, body := .compressed Codes.fixed }
  | 2 => return { last, body := .compressed (← dynamicCodes) }
  | _ => Scan.fail .blockKind

end BlockHeader

end StreamCodec.Deflate
