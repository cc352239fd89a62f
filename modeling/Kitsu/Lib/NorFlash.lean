import Kitsu.Lib.ByteString

/-!
# Flash memory with erase and program

A region of NOR flash is a byte for every address.  Erasing a range sets all its
bits, programming can only clear bits, and a call that is interrupted leaves
arbitrary bytes in its range and in no other place.
-/

namespace Kitsu.Lib.NorFlash

open Kitsu.Lib.ByteString

/-- The bytes of a region by their address. -/
abbrev Flash := Nat → UInt8

/-- The bytes of a range. -/
def read (flash : Flash) (offset count : Nat) : Bytes :=
  (List.range count).map fun index => flash (offset + index)

section Reads

variable {flash source : Flash} {offset count start size : Nat}
  {data : Bytes}

@[simp]
theorem length_read : (read flash offset count).length = count := by
  simp [read]

end Reads

end Kitsu.Lib.NorFlash
