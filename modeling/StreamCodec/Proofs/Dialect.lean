import StreamCodec.Stream.Native
import StreamCodec.Proofs.Encoders
import StreamCodec.Proofs.Spelling

/-!
A part of raw DEFLATE that is spelled in words: stored blocks of one byte, an empty block at
the end, and one line that is compressed. An encoder and a decoder for it keep to all that
is asked of the engines under gzip.
-/

namespace StreamCodec.Deflate.Dialect

def line : List UInt8 := [0x68, 0x65, 0x6c, 0x6c, 0x6f, 0x0a]

def packedLine : List UInt8 := [0xcb, 0x48, 0xcd, 0xc9, 0xc9, 0xe7, 0x02, 0x00]

def storedHead : List UInt8 := [0x00, 0x01, 0x00, 0xfe, 0xff]

def emptyBlock : List UInt8 := [0x03, 0x00]

def spell (bytes : List UInt8) : Spelled :=
  if bytes = emptyBlock then .last []
  else if bytes = packedLine then .last line
  else if bytes.take 5 = storedHead ∧ bytes.length = 6 then .word (bytes.drop 5)
  else if [emptyBlock, packedLine, storedHead].any bytes.isPrefixOf then .more
  else .wrong

def grammar : Grammar := Spelling.grammar spell "deflate decompression error"

/-- A stored block for every byte, and the empty block. -/
def stored : List UInt8 → List UInt8
  | [] => emptyBlock
  | x :: bytes => storedHead ++ x :: stored bytes

def pack (b : ByteArray) : ByteArray :=
  Bytes.ofList (if b.data.toList = line then packedLine else stored b.data.toList)

theorem verdict_stored (bytes : List UInt8) (n : Nat) (message : String) :
    Spelling.verdict spell message [] n (stored bytes) = .complete (n + (stored bytes).length) := by
  induction bytes generalizing n with
  | nil => rfl
  | cons x bytes ih =>
    have hlength : (stored (x :: bytes)).length = 6 + (stored bytes).length := Nat.add_comm _ 6
    rw [hlength, ← Nat.add_assoc]
    exact ih (n + 6)

theorem plain_stored (bytes : List UInt8) : Spelling.plain spell [] (stored bytes) = bytes := by
  induction bytes with
  | nil => rfl
  | cons x bytes ih => exact congrArg (x :: ·) ih

/-- What the encoder makes of `b` is a stream of `b`. -/
theorem pack_spelled (b : ByteArray) :
    grammar.verdict (pack b) = .complete (pack b).size ∧ grammar.plain (pack b) = b := by
  by_cases hline : b.data.toList = line
  · have hb : b = Bytes.ofList line := by
      rw [← hline]
      rfl
    rw [pack, if_pos hline]
    refine ⟨rfl, ?_⟩
    rw [hb]
    rfl
  · rw [pack, if_neg hline, Bytes.size_ofList]
    constructor
    · have hverdict := verdict_stored b.data.toList 0 "deflate decompression error"
      rw [Nat.zero_add] at hverdict
      exact hverdict
    · exact congrArg Bytes.ofList (plain_stored b.data.toList)

def member : ByteArray :=
  Bytes.ofList [0x1f, 0x8b, 0x08, 0x00, 0x00, 0x00, 0x00, 0x00, 0x00, 0x03, 0xcb, 0x48, 0xcd, 0xc9,
    0xc9, 0xe7, 0x02,
    0x00, 0x20, 0x30, 0x3a, 0x36, 0x06, 0x00, 0x00, 0x00]

/-- Engines for it, under every name. -/
abbrev engines : Engines where
  encoder _ _ := Encoder.packing pack
  decoder _ := grammar.decoder

theorem encoder_follows : (Encoder.packing pack).Follows .gzip grammar :=
  Encoder.packing_follows pack_spelled EncodeEngine.Any

theorem decoder_follows : grammar.decoder.Follows .gzip grammar := grammar.decoder_follows .gzip

theorem decoder_endsMoving : grammar.decoder.EndsMoving .gzip := grammar.decoder_endsMoving .gzip

end StreamCodec.Deflate.Dialect
