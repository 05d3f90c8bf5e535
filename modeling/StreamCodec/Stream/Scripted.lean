import StreamCodec.Stream.Growth

/-!
A bounded call that plays a script: each call writes as told, and every call is noted
with the input and the window it was given. It shows what the growth loop asks for.
-/

namespace StreamCodec

namespace Scripted

/-- What one call is told to do. -/
inductive Line where
  | count (n : Nat)
  | fail (e : Error)
deriving Repr

structure Noted where
  input : ByteArray
  window : ByteArray

end Scripted

structure Scripted where
  script : List Scripted.Line
  written : Nat := 0
  calls : Array Scripted.Noted := #[]

namespace Scripted

def running (i : Nat) : Nat → ByteArray → ByteArray
  | 0, out => out
  | n + 1, out => running (i + 1) n (out.push (i + 1).toUInt8)

def call : Growth.Call Scripted := fun s input window =>
  let calls := s.calls.push { input, window }
  match s.script with
  | [] => (.ok { count := 0, written := ByteArray.empty }, { s with calls })
  | .fail e :: rest => (.error e, { s with script := rest, calls })
  | .count n :: rest =>
    let k := min n window.size
    (.ok { count := n, written := running s.written k ByteArray.empty },
      { script := rest, written := s.written + k, calls })

end Scripted

end StreamCodec
