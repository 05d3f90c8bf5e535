import StreamCodec.Gzip.Header
import StreamCodec.Stream.Engine

/-!
The gzip decoder, over any engine for the body. It collects a header, hands the body
over, and collects a trailer; each part may arrive in any number of pieces.
-/

namespace StreamCodec.Gzip

inductive Part where
  | header (seen : ByteArray)
  | body
  | trailer (seen : ByteArray)
  | done

structure Decoder (σ : Type) where
  part : Part
  body : σ
  tally : Tally := {}

namespace Decoder

variable {σ : Type}

def start (body : σ) : Decoder σ := { part := .header ByteArray.empty, body }

def rejection (f : Fault) : Error := .decode .gzip f.message

/-- Takes header bytes. The bytes behind the header are left to the body; after a fault the bytes
taken stay where they are. -/
def readHeader (s : Decoder σ) (seen : ByteArray) (input : Slice) : Outcome Step × Decoder σ :=
  if input.isEmpty then (.ok .idle, s)
  else
    let taken := min input.size (Header.maxSize - seen.size)
    let all := seen ++ input.take taken
    match Header.parse all with
    | .error f => (.error (rejection f), { s with part := .header all })
    | .ok (some n) => (.ok (.progress (n - seen.size) ByteArray.empty), { s with part := .body })
    | .ok none =>
      let s := { s with part := .header all }
      if all.size = Header.maxSize then (.error (rejection .headerTooLong), s)
      else (.ok (.progress taken ByteArray.empty), s)

def readBody (E : DecodeEngine σ) (s : Decoder σ) (input : Slice) (room : Nat) :
    Outcome Step × Decoder σ :=
  match E.decode s.body input room with
  | (.ok step, body) =>
    (.ok { step with done := false },
      { part := if step.done then .trailer ByteArray.empty else .body
        body
        tally := s.tally.add step.output })
  | (.error e, body) => (.error e, { s with body })
  | (.trap t, body) => (.trap t, { s with body })

/-- Takes trailer bytes and compares the trailer once it is complete. -/
def readTrailer (s : Decoder σ) (seen : ByteArray) (input : Slice) : Outcome Step × Decoder σ :=
  let taken := min (Tally.trailerSize - seen.size) input.size
  if taken = 0 then (.ok .idle, s)
  else
    let all := seen ++ input.take taken
    let s := { s with part := .trailer all }
    if all.size < Tally.trailerSize then (.ok (.progress taken ByteArray.empty), s)
    else
      match s.tally.check all with
      | .error f => (.error (rejection f), s)
      | .ok () => (.ok (.ended taken ByteArray.empty), { s with part := .done })

def decode (E : DecodeEngine σ) (s : Decoder σ) (input : Slice) (room : Nat) :
    Outcome Step × Decoder σ :=
  match s.part with
  | .header seen => readHeader s seen input
  | .body => readBody E s input room
  | .trailer seen => readTrailer s seen input
  | .done => (.ok .idle, s)

/-- The gzip engine over a body engine, whose errors should name gzip. -/
def engine (body : DecodeEngine σ) : DecodeEngine (Decoder σ) :=
  { codec := .gzip, decode := decode body }

end Decoder

end StreamCodec.Gzip
