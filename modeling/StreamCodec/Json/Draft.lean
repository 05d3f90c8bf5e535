import StreamCodec.Config.Value
import StreamCodec.Json.Token

/-!
JSON text as a tree. A tree of a broken text shows all that stands in front of the break,
so that a reader can come to a verdict on it before it comes to the break.
-/

namespace StreamCodec.Json

/-- A value as far as it can be read. An object ends with what stands where a key should, if it is
not complete. -/
inductive Draft where
  | null
  | bool (b : Bool)
  | number (n : Number)
  | text (s : String)
  | spoilt
  | list (items : List Draft) (complete : Bool)
  | object (entries : List (String × Draft)) (wrong : Option Draft)
  | broken
deriving Inhabited

namespace Draft

mutual

def value : (fuel : Nat) → List Token → Draft × List Token
  | 0, _ => (broken, [.broken])
  | fuel + 1, ts =>
    match ts with
    | .null :: r => (null, r)
    | .bool b :: r => (bool b, r)
    | .number n :: r => (number n, r)
    | .text s :: r => (text s, r)
    | .spoilt :: r => (spoilt, r)
    | .leftBracket :: .rightBracket :: r => (list [] true, r)
    | .leftBracket :: r => items fuel r []
    | .leftBrace :: .rightBrace :: r => (object [] none, r)
    | .leftBrace :: r => entries fuel r []
    | _ => (broken, [.broken])

def items : (fuel : Nat) → List Token → List Draft → Draft × List Token
  | 0, _, acc => (list acc.reverse false, [.broken])
  | fuel + 1, ts, acc =>
    match value fuel ts with
    | (broken, _) => (list acc.reverse false, [.broken])
    | (d, .comma :: r) => items fuel r (d :: acc)
    | (d, .rightBracket :: r) => (list (d :: acc).reverse true, r)
    | (d, _) => (list (d :: acc).reverse false, [.broken])

def entries : (fuel : Nat) → List Token → List (String × Draft) → Draft × List Token
  | 0, _, acc => (object acc.reverse (some broken), [.broken])
  | fuel + 1, ts, acc =>
    match ts with
    | .text k :: .colon :: r =>
      match value fuel r with
      | (d, .comma :: r) => entries fuel r ((k, d) :: acc)
      | (d, .rightBrace :: r) => (object ((k, d) :: acc).reverse none, r)
      | (d, _) => (object ((k, d) :: acc).reverse (some broken), [.broken])
    | .text k :: _ => (object ((k, broken) :: acc).reverse (some broken), [.broken])
    | _ => (object acc.reverse (some (value fuel ts).1), [.broken])

end

/-- The tree of a text, and whether nothing follows it. -/
def ofText (s : String) : Draft × Bool :=
  let ts := Token.ofText s
  let (d, r) := value (2 * ts.length + 2) ts
  (d, r.isEmpty)

def maxDepth : Nat := 127

mutual

def toValue? : (depth : Nat) → Draft → Option Config.Value
  | _, null => some .null
  | _, bool b => some (.bool b)
  | _, number (.nat n) =>
    some (.scalar (if n < 0x8000000000000000 then .int n else .real (Double.ofNat n)))
  | _, number (.negative n) => some (.scalar (.int (-n)))
  | _, number (.real x) => some (.scalar (.real x))
  | _, text s => some (.text s)
  | depth + 1, list ds true => (toValues? depth ds).map .list
  | depth + 1, object es none => (toEntries? depth es).map .table
  | _, _ => none

def toValues? : (depth : Nat) → List Draft → Option (List Config.Value)
  | _, [] => some []
  | depth, d :: ds => do return (← toValue? depth d) :: (← toValues? depth ds)

/-- Of entries with one key the last one counts. -/
def toEntries? : (depth : Nat) → List (String × Draft) → Option (List (String × Config.Value))
  | _, [] => some []
  | depth, (k, d) :: es => do
    let v ← toValue? depth d
    let rest ← toEntries? depth es
    return if rest.any fun e => e.1 = k then rest else (k, v) :: rest

end

end Draft

def parse? (s : String) : Option Config.Value :=
  match Draft.ofText s with
  | (d, true) => d.toValue? Draft.maxDepth
  | (_, false) => none

end StreamCodec.Json
