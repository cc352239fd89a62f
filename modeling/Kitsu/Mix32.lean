import Mathlib.Algebra.GroupWithZero.Nat
import Mathlib.Algebra.Ring.Int.Defs
import Mathlib.Tactic.Common
import Kitsu.Lib.Saturating

/-!
# The integer mixer

`social_progression.cpp` and `expedition_core.cpp` carry the same permutation of
the 32-bit integers, which spreads seeds and session nonces.
-/

namespace Kitsu

open Kitsu.Lib.XorShift

/-- Spread the bits of a word over all of it. -/
def mix32 (value : UInt32) : UInt32 :=
  let value := value ^^^ (value >>> 16)
  let value := value * 0x7FEB352D
  let value := value ^^^ (value >>> 15)
  let value := value * 0x846CA68B
  value ^^^ (value >>> 16)

theorem mix32_injective : Function.Injective mix32 := by
  have first : (0x7FEB352D : UInt32) * 0x1D69E2A5 = 1 := by decide
  have second : (0x846CA68B : UInt32) * 0x43021123 = 1 := by decide
  exact injective_16.comp ((injective_mul second).comp
    (injective_15.comp ((injective_mul first).comp injective_16)))

end Kitsu
