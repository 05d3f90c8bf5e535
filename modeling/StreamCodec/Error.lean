import StreamCodec.Codec
import StreamCodec.Quoted

/-!
What can go wrong with data, and the misuse that is not a matter of data.

An `Error` is a verdict on the input or on the surroundings, and the caller may
carry on with the next input. A `Trap` is a broken rule of the calling contract:
it ends the run and is never mistaken for a corrupt stream. `Outcome` is the
result of a call that may end either way.
-/

namespace StreamCodec

inductive Severity where
  | low | medium | high | critical
deriving DecidableEq, Repr, Ord, Inhabited

namespace Severity

def all : List Severity := [low, medium, high, critical]

def label : Severity → String
  | low => "Low"
  | medium => "Medium"
  | high => "High"
  | critical => "Critical"

def max (a b : Severity) : Severity := if compare a b == .gt then a else b

end Severity

inductive ErrorKind where
  | data | engine | lookup | config | io
deriving DecidableEq, Repr

namespace ErrorKind

def label : ErrorKind → String
  | data => "Data"
  | engine => "Engine"
  | lookup => "Lookup"
  | config => "Config"
  | io => "Io"

end ErrorKind

inductive Error where
  | decode (codec : Codec) (message : String)
  | truncated (codec : Codec)
  | engine (codec : Codec) (message : String)
  | unrecognizedFormat
  | unknownCodec (name : String)
  | config (message : String)
  | io (message : String)
deriving DecidableEq, Repr

namespace Error

def message : Error → String
  | decode c m => s!"{c} decode error: {m}"
  | truncated c => s!"{c} stream is truncated"
  | engine c m => s!"{c} engine error: {m}"
  | unrecognizedFormat => "Unrecognized compressed format"
  | unknownCodec n => s!"Unknown codec: {n}"
  | config m => s!"Configuration error: {m}"
  | io m => s!"I/O error: {m}"

def kind : Error → ErrorKind
  | decode .. | truncated _ => .data
  | engine .. => .engine
  | unrecognizedFormat | unknownCodec _ => .lookup
  | config _ => .config
  | io _ => .io

def severity : Error → Severity
  | decode .. | truncated _ | unrecognizedFormat | unknownCodec _ => .low
  | io _ => .medium
  | config _ => .high
  | engine .. => .critical

def variant : Error → String
  | decode .. => "Decode"
  | truncated _ => "Truncated"
  | engine .. => "Engine"
  | unrecognizedFormat => "UnrecognizedFormat"
  | unknownCodec _ => "UnknownCodec"
  | config _ => "Config"
  | io _ => "Io"

def label : Error → String
  | decode c m => s!"Decode \x7b codec: {c.label}, message: {Quoted.quote m} \x7d"
  | truncated c => s!"Truncated \x7b codec: {c.label} \x7d"
  | engine c m => s!"Engine \x7b codec: {c.label}, message: {Quoted.quote m} \x7d"
  | unrecognizedFormat => "UnrecognizedFormat"
  | unknownCodec n => s!"UnknownCodec \x7b name: {Quoted.quote n} \x7d"
  | config m => s!"Config \x7b message: {Quoted.quote m} \x7d"
  | io m => s!"Io \x7b message: {Quoted.quote m} \x7d"

/-- Whether the caller can go on with another input. -/
def recoverable : Error → Bool
  | engine .. | config _ => false
  | _ => true

def codec? : Error → Option Codec
  | decode c _ | truncated c | engine c _ => some c
  | _ => none

end Error

/-- A broken rule of the calling contract. -/
inductive Trap where
  | inputPending (codec : Codec) (pending : Nat)
  | inputAfterFinish (codec : Codec)
  | noProgress (codec : Codec)
  | overConsumed (consumed offered : Nat)
  | overProduced (produced room : Nat)
  | overReported (count window : Nat)
  | callRejected (codec : Codec) (reason : String)
  | encoderRejected (codec : Codec) (reason : String)
  | unending
deriving DecidableEq, Repr

namespace Trap

def message : Trap → String
  | inputPending c n =>
    s!"{c}: new input supplied while {n} bytes of earlier input are still pending"
  | inputAfterFinish c => s!"{c}: input supplied after the stream was finished"
  | noProgress c => s!"{c}: encoder made no progress while finishing the stream"
  | overConsumed n k => s!"engine reported consuming {n} bytes but only {k} were offered"
  | overProduced n r => s!"engine reported producing {n} bytes but only {r} were wanted"
  | overReported n w => s!"bounded call reported {n} bytes for a {w}-byte window"
  | callRejected c r => s!"{c}: engine rejected a well-formed call: {r}"
  | encoderRejected c r =>
    let text := s!"{c}: encoder rejected a well-formed call"
    if r.isEmpty then text else text ++ ": " ++ r
  | unending => "no call was short"

end Trap

/-- The result of a call: a value, an error, or the trap that ended the run. -/
inductive Outcome (α : Type) where
  | ok (value : α)
  | error (e : Error)
  | trap (t : Trap)
deriving DecidableEq, Repr

namespace Outcome

variable {α β : Type}

def map (f : α → β) : Outcome α → Outcome β
  | ok a => ok (f a)
  | error e => error e
  | trap t => trap t

def bind (x : Outcome α) (f : α → Outcome β) : Outcome β :=
  match x with
  | ok a => f a
  | error e => error e
  | trap t => trap t

instance : Monad Outcome where
  pure := ok
  bind := bind
  map := map

end Outcome

end StreamCodec
