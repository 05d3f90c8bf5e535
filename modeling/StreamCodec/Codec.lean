/-!
The seven stream formats, by name. `all` is the order in which the registry lists
them; a format is looked up by its exact lowercase name.
-/

namespace StreamCodec

/-- A compressed stream format. Deflate, zlib and gzip share one payload and
differ in the framing around it. -/
inductive Codec where
  | deflate | zlib | gzip | bzip2 | lzma | brotli | zstd
deriving DecidableEq, Repr, Inhabited

namespace Codec

def all : List Codec := [gzip, lzma, bzip2, zlib, deflate, brotli, zstd]

def name : Codec → String
  | deflate => "deflate"
  | zlib => "zlib"
  | gzip => "gzip"
  | bzip2 => "bzip2"
  | lzma => "lzma"
  | brotli => "brotli"
  | zstd => "zstd"

def label : Codec → String
  | deflate => "Deflate"
  | zlib => "Zlib"
  | gzip => "Gzip"
  | bzip2 => "Bzip2"
  | lzma => "Lzma"
  | brotli => "Brotli"
  | zstd => "Zstd"

instance : ToString Codec := ⟨name⟩

def ofName? (s : String) : Option Codec :=
  all.find? fun c => c.name == s

/-- Whether streams of the format open with a signature that can be recognised. -/
def sniffable : Codec → Bool
  | deflate | brotli => false
  | _ => true

theorem mem_all (c : Codec) : c ∈ all := by
  cases c <;> decide

@[simp] theorem ofName?_name (c : Codec) : ofName? c.name = some c := by
  cases c <;> decide

theorem ofName?_eq_some_iff {s : String} {c : Codec} : ofName? s = some c ↔ c.name = s := by
  constructor
  · intro h
    have := List.find?_some h
    simpa using this
  · rintro rfl
    exact ofName?_name c

end Codec

end StreamCodec
