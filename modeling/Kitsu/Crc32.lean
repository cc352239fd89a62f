import Kitsu.Lib.ByteString

/-!
# The CRC-32 of the durable records

`kitsu_device_security.cpp`, `kitsu_ble_ota.cpp` and `kitsu_ble_action.cpp` carry
the same reflected CRC-32 (polynomial `0xedb88320`, initial value and final
complement all ones), written out bit by bit.
-/

namespace Kitsu.Crc32

open Kitsu.Lib.ByteString

/-- One bit of the shift register. -/
def shiftBit (crc : UInt32) : UInt32 :=
  (crc >>> 1) ^^^ (0xedb88320 &&& (0 - (crc &&& 1)))

/-- Fold one input byte into the register. -/
def shiftByte (crc : UInt32) (input : UInt8) : UInt32 :=
  (List.range 8).foldl (fun value _ => shiftBit value)
    (crc ^^^ input.toUInt32)

/-- The checksum of a byte string. -/
def crc32 (input : Bytes) : UInt32 :=
  ~~~ input.foldl shiftByte 0xffffffff

example : crc32 (ascii "123456789") = 0xcbf43926 := by
  decide +kernel

end Kitsu.Crc32
