import StreamCodec.Gzip.Header
import StreamCodec.Stream.Engine

/-!
The gzip encoder, over any engine for the body. The header goes out before the body
engine is called, and the trailer is set up at the step that ends the body. The checksum
covers what the body engine has taken.
-/

namespace StreamCodec.Gzip

structure Encoder (σ : Type) where
  header : Slice
  body : σ
  tally : Tally := {}
  trailer : Option Slice := none

namespace Encoder

variable {σ : Type}

def start (level : Level) (body : σ) : Encoder σ :=
  { header := { bytes := Header.written level }, body }

def putHeader (s : Encoder σ) (room : Nat) : ByteArray × Encoder σ :=
  let out := s.header.take room
  (out, { s with header := s.header.drop out.size })

/-- Books a step of the body engine: the bytes it took enter the checksum. -/
def putBody (s : Encoder σ) (body : σ) (input : Slice) (step : Step) : Encoder σ :=
  { s with body, tally := s.tally.add (input.take step.consumed) }

def encode (E : EncodeEngine σ) (s : Encoder σ) (input : Slice) (room : Nat) :
    Outcome Step × Encoder σ :=
  let (head, s) := s.putHeader room
  if !s.header.isEmpty then (.ok (.progress 0 head), s)
  else
    match E.encode s.body input (room - head.size) with
    | (.ok step, body) =>
      (.ok (.progress step.consumed (head ++ step.output)), s.putBody body input step)
    | (.error e, body) => (.error e, { s with body })
    | (.trap t, body) => (.trap t, { s with body })

/-- Hands out what fits of the trailer, behind `out`; the last byte of it ends the stream. -/
def putTrailer (s : Encoder σ) (consumed : Nat) (out : ByteArray) (trailer : Slice) (room : Nat) :
    Outcome Step × Encoder σ :=
  let tail := trailer.take (room - out.size)
  let rest := trailer.drop tail.size
  (.ok { consumed, output := out ++ tail, done := rest.isEmpty }, { s with trailer := some rest })

def finish (E : EncodeEngine σ) (s : Encoder σ) (input : Slice) (room : Nat) :
    Outcome Step × Encoder σ :=
  let (head, s) := s.putHeader room
  if !s.header.isEmpty then (.ok (.progress 0 head), s)
  else
    match s.trailer with
    | some trailer => s.putTrailer 0 head trailer room
    | none =>
      match E.finish s.body input (room - head.size) with
      | (.ok step, body) =>
        let s := s.putBody body input step
        let out := head ++ step.output
        if step.done then s.putTrailer step.consumed out { bytes := s.tally.trailer } room
        else (.ok (.progress step.consumed out), s)
      | (.error e, body) => (.error e, { s with body })
      | (.trap t, body) => (.trap t, { s with body })

def engine (body : EncodeEngine σ) : EncodeEngine (Encoder σ) :=
  { codec := .gzip, encode := encode body, finish := finish body }

end Encoder

end StreamCodec.Gzip
