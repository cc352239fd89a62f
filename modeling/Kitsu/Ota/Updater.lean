import Kitsu.Lib.Crash
import Kitsu.Lib.NorFlash
import Kitsu.Ota.Request
import Kitsu.Sha256

/-!
# The updater

`KitsuBleOta` receives a signed image into the slot that is not running, chunk by
chunk, and hashes it there.  Every read of the flash may complete, fail or be cut
by the power.
-/

namespace Kitsu.Ota

open Kitsu.Lib.ByteString
open Kitsu.Lib.Crash
open Kitsu.Lib.NorFlash
open Kitsu.Sha256

/-- The two application slots. -/
inductive Slot where
  | app0
  | app1
deriving DecidableEq, Repr

/-- The slot that an update goes to while the other one runs. -/
def Slot.other : Slot → Slot
  | .app0 => .app1
  | .app1 => .app0

/-- A context whose memory was wiped; it is not the start of a hash. -/
def wipedContext : Sha256Context where
  state := ⟨0, 0, 0, 0, 0, 0, 0, 0⟩
  totalBytes := 0
  block := []

/-- The fields by which the updater hashes what has arrived. -/
structure KitsuBleOta where
  running : Slot
  nextOffset : Nat := 0
  prefixHash : Sha256Context := wipedContext
  prefixHashReady : Bool := false

/-- The slot that the image goes to. -/
def KitsuBleOta.inactive (ota : KitsuBleOta) : Slot :=
  ota.running.other

/-! ## The platform -/

/-- What becomes of a call to the platform. -/
inductive Fate where
  | completes
  | fails
  | cut
deriving DecidableEq, Repr

/-- The board.  `fates` is what becomes of the next platform calls. -/
structure Machine where
  ota : KitsuBleOta
  flash : Slot → Flash
  fates : List Fate

/-- A call to the platform; the next fate decides what becomes of it. -/
def call : Prog Machine Bool :=
  fun machine =>
    match machine.fates with
    | [] => .done true machine
    | .completes :: later => .done true { machine with fates := later }
    | .fails :: later => .done false { machine with fates := later }
    | .cut :: later => .cut { machine with fates := later }

/-- The bytes of a slot, if the call completes. -/
def readPartition (slot : Slot) (offset count : Nat) :
    Prog Machine (Option Bytes) := do
  if ← call then
    let machine ← Prog.get
    return some (read (machine.flash slot) offset count)
  else return none

/-- A change of the updater's own fields. -/
def modifyOta (change : KitsuBleOta → KitsuBleOta) : Prog Machine Unit :=
  Prog.modify fun machine => { machine with ota := change machine.ota }

/-! ## Hashing -/

/-- The hash goes over the slot in pieces of a chunk. -/
def hashFrom (slot : Slot) (count : Nat) (offset : Nat)
    (context : Sha256Context) : Prog Machine (Option Sha256Context) := do
  if offset < count then
    let size := min (count - offset) kBleOtaChunkBytes
    let some piece ← readPartition slot offset size | return none
    hashFrom slot count (offset + size) (shaUpdate context piece)
  else return some context
termination_by count - offset
decreasing_by
  have : 0 < kBleOtaChunkBytes := by decide
  omega

/-- The hash of the first bytes of a slot, if all of them can be read. -/
def hashPartition (slot : Slot) (count : Nat) :
    Prog Machine (Option (ByteVec 32)) := do
  return (← hashFrom slot count 0 shaStart).map shaFinish

/-- After a restart the hash of what has arrived is computed again. -/
def rebuildPrefixHash : Prog Machine Bool := do
  let machine ← Prog.get
  match ← hashFrom machine.ota.inactive machine.ota.nextOffset 0
      shaStart with
  | none =>
    modifyOta fun ota =>
      { ota with prefixHash := wipedContext, prefixHashReady := false }
    return false
  | some context =>
    modifyOta fun ota =>
      { ota with prefixHash := context, prefixHashReady := true }
    return true

end Kitsu.Ota
