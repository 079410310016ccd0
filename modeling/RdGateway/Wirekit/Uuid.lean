import RdGateway.Wirekit.Codec

/-!
# UUIDs

The four fields of a UUID and its little-endian byte form, in which the first
three fields are byte-swapped and the last eight bytes stand as they are.
-/

set_option autoImplicit false

namespace Wirekit

structure Uuid where
  d1 : UInt32
  d2 : UInt16
  d3 : UInt16
  d4 : Vector UInt8 8
deriving Repr, DecidableEq

/-- `to_bytes_le` and `from_bytes_le`: a bijection between UUIDs and 16 bytes. -/
def uuidLe : FixedCodec Uuid :=
  (u32Le.prod (u16Le.prod (u16Le.prod (byteArray 8)))).map
    (fun fields => ⟨fields.1, fields.2.1, fields.2.2.1, fields.2.2.2⟩)
    (fun uuid => (uuid.d1, uuid.d2, uuid.d3, uuid.d4))
    (fun _ => rfl) (fun _ => rfl)

@[simp] theorem uuidLe_width : uuidLe.width = 16 := rfl

end Wirekit
