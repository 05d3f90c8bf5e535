import StreamCodec.Level
import StreamCodec.Stream.Engine

/-!
The engines of the libraries that do the coding. An engine brings its own state, and a
call that it refuses says why; what a refusal comes to is for the format to say.
-/

namespace StreamCodec

/-- Why a native engine gives no step: the input belongs to no stream, memory has run out, or the
call does not fit the calls before it. -/
inductive Refusal where
  | data (message : String)
  | memory (message : String)
  | sequence (message : String)
deriving DecidableEq, Repr

def Refusal.message : Refusal → String
  | data m | memory m | sequence m => m

abbrev Answer := Except Refusal Step

/-- An encoder as its library presents it. -/
structure NativeEncoder where
  State : Type
  fresh : State
  run : State → (input : Slice) → (room : Nat) → Answer × State
  finish : State → (input : Slice) → (room : Nat) → Answer × State

structure NativeDecoder where
  State : Type
  fresh : State
  run : State → (input : Slice) → (room : Nat) → Answer × State

/-- A native encoder and decoder for each format. Those for gzip serve its body, which is raw
DEFLATE. -/
class Engines where
  encoder : Codec → Level → NativeEncoder
  decoder : Codec → NativeDecoder

end StreamCodec
