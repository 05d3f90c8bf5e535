/-!
Compression presets. Each format maps a preset onto its own scale.
-/

namespace StreamCodec

inductive Level where
  | fast | balanced | small
deriving DecidableEq, Repr, Inhabited

namespace Level

def standard : Level := balanced

def all : List Level := [fast, balanced, small]

def name : Level → String
  | fast => "fast"
  | balanced => "balanced"
  | small => "small"

def label : Level → String
  | fast => "Fast"
  | balanced => "Balanced"
  | small => "Small"

def ofName? (s : String) : Option Level :=
  all.find? fun l => l.name == s

end Level

end StreamCodec
