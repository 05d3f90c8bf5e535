import StreamCodec.Xz.Branch

/-!
Filters between the compressed data and the plain bytes. A filter takes bytes in and
hands bytes out, perhaps later; at the end it hands out what waits, as it is.
-/

namespace StreamCodec.Xz

inductive Filter where
  | delta (distance : Nat) (recent : ByteArray)
  | branch (b : Branch)

namespace Filter

/-- Sums up differences; `recent` holds as many of the last bytes as the distance, oldest first. -/
def sumUp (distance : Nat) (recent more : ByteArray) : ByteArray :=
  more.foldl (fun acc x => acc.push (x + acc[acc.size - distance]?.getD 0)) recent

def push (f : Filter) (more : ByteArray) : Filter × ByteArray :=
  match f with
  | delta distance recent =>
    let all := sumUp distance recent more
    (delta distance (all.extract (all.size - distance) all.size), all.extract recent.size all.size)
  | branch b =>
    let (b, out) := b.push more
    (branch b, out)

def flush : Filter → ByteArray
  | delta .. => ByteArray.empty
  | branch b => b.waiting

def pushAll : List Filter → ByteArray → List Filter × ByteArray
  | [], more => ([], more)
  | f :: rest, more =>
    let (f, out) := f.push more
    let (rest, out) := pushAll rest out
    (f :: rest, out)

def flushAll : List Filter → ByteArray → ByteArray
  | [], more => more
  | f :: rest, more =>
    let (f, out) := f.push more
    flushAll rest (out ++ f.flush)

end Filter

end StreamCodec.Xz
