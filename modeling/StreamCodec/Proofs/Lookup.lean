import StreamCodec.OneShot

/-!
The registry lists the formats that have names, each under its own name and with compressors
and decompressors of its own. So a name is looked up in the registry as it is read.
-/

namespace StreamCodec

variable [Engines]

namespace Registry

def row (c : Codec) : Entry where
  name := c.name
  codec := c
  compressor := Compressor.new c
  decompressor := Decompressor.new c

theorem entries_eq_map : entries = Codec.all.map row := rfl

theorem find?_eq_map (name : String) : find? name = (Codec.ofName? name).map row := by
  rw [find?, entries_eq_map, List.find?_map]
  rfl

theorem compressor?_eq_map (name : String) (level : Level) (chunk : ChunkSize) :
    compressor? name level chunk = (Codec.ofName? name).map fun c =>
      Compressor.new c level chunk := by
  simp only [compressor?, find?_eq_map, Option.map_map]
  rfl

theorem decompressor?_eq_map (name : String) (chunk : ChunkSize) :
    decompressor? name chunk = (Codec.ofName? name).map fun c => Decompressor.new c chunk := by
  simp only [decompressor?, find?_eq_map, Option.map_map]
  rfl

end Registry

namespace OneShot

theorem decompressNamed_name (c : Codec) (input : ByteArray) :
    decompressNamed c.name input = (decompressWith (Decompressor.new c .standard) input).1 := by
  simp only [decompressNamed, Registry.decompressor?_eq_map, Codec.ofName?_name, Option.map_some]

end OneShot

end StreamCodec
