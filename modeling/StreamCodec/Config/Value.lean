import StreamCodec.Double

/-!
Values as documents hold them, whatever the format.
-/

namespace StreamCodec.Config

inductive Scalar where
  | null
  | bool (b : Bool)
  | int (i : Int)
  | real (x : Double)
  | text (s : String)
deriving DecidableEq, Repr, Inhabited

inductive Value where
  | scalar (s : Scalar)
  | list (items : List Value)
  | table (entries : List (String × Value))
deriving Repr, Inhabited

namespace Value

def null : Value := scalar .null

def text (s : String) : Value := scalar (.text s)

def nat (n : Nat) : Value := scalar (.int n)

def bool (b : Bool) : Value := scalar (.bool b)

end Value

end StreamCodec.Config
