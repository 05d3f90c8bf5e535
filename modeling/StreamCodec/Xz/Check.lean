import StreamCodec.Checksum.Crc
import StreamCodec.Checksum.Sha256

/-!
The checks that an xz stream may carry behind each block. Of some numbers only the size
is known; such a check is passed over.
-/

namespace StreamCodec.Xz

inductive Check where
  | nothing
  | crc32 (c : UInt32)
  | crc64 (c : UInt64)
  | sha256 (s : Sha256)
  | unknown

namespace Check

def ofId : Nat → Check
  | 0 => nothing
  | 1 => crc32 Crc32.initial
  | 4 => crc64 Crc64.initial
  | 10 => sha256 {}
  | _ => unknown

def size (id : Nat) : Nat := if id = 0 then 0 else 4 <<< ((id - 1) / 3)

def update (c : Check) (b : ByteArray) : Check :=
  match c with
  | nothing => nothing
  | crc32 x => crc32 (Crc32.update x b)
  | crc64 x => crc64 (Crc64.update x b)
  | sha256 s => sha256 (s.update b)
  | unknown => unknown

def agrees (c : Check) (stored : ByteArray) : Bool :=
  match c with
  | nothing | unknown => true
  | crc32 x => Bytes.le stored 0 4 = (Crc32.final x).toNat
  | crc64 x => Bytes.le stored 0 8 = (Crc64.final x).toNat
  | sha256 s => s.digest == stored

end Check

end StreamCodec.Xz
