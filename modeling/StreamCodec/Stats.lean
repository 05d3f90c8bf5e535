/-!
Running byte totals of one stream, and the ratio of output to input.
-/

namespace StreamCodec

structure Stats where
  bytesIn : Nat := 0
  bytesOut : Nat := 0
deriving DecidableEq, Repr, Inhabited

namespace Stats

def record (s : Stats) (consumed produced : Nat) : Stats :=
  { bytesIn := s.bytesIn + consumed, bytesOut := s.bytesOut + produced }

/-- Output over input, each total rounded to a double first. One before any input. -/
def ratio (s : Stats) : Float :=
  if s.bytesIn = 0 then 1.0 else s.bytesOut.toUInt64.toFloat / s.bytesIn.toUInt64.toFloat

def label (s : Stats) : String :=
  "StreamStats \x7b bytes_in: " ++ toString s.bytesIn ++ ", bytes_out: " ++ toString s.bytesOut ++
    " \x7d"

@[simp] theorem bytesIn_record (s : Stats) (a b : Nat) : (s.record a b).bytesIn = s.bytesIn + a :=
  rfl

@[simp] theorem bytesOut_record (s : Stats) (a b : Nat) :
    (s.record a b).bytesOut = s.bytesOut + b := rfl

end Stats

end StreamCodec
