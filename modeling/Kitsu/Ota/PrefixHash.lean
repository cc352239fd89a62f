import Kitsu.Ota.Calls
import Kitsu.Sha256Standard

/-!
# The hash of an image

An image is hashed while it arrives, and after a restart the hash of what has
arrived is computed again from the flash, a chunk at a time.  Both are SHA-256
of the bytes, however they were split.
-/

namespace Kitsu.Ota.PrefixHash

open Kitsu.Lib.ByteString
open Kitsu.Lib.Crash
open Kitsu.Lib.NorFlash
open Kitsu.Lib.SecureHash (digest)
open Kitsu.Sha256
open Kitsu.Sha256Standard

/-- A prefix hash that was rebuilt is the hash of what lies in the slot. -/
theorem rebuildPrefixHash_reads (machine : Machine) :
    wp rebuildPrefixHash
      (fun rebuilt after => rebuilt = true →
        after.ota.prefixHash = shaUpdate shaStart
          (read (machine.flash machine.ota.inactive) 0 machine.ota.nextOffset))
      (fun _ => True) machine := by
  refine (hashFrom_reads _ _ 0 shaStart).bind ?_ fun _ => trivial
  intro value fates hashed
  cases value with
  | none =>
    rintro ⟨⟩
  | some context =>
    intro _
    exact hashed context rfl

theorem prefix_absorbed (message : Bytes) :
    Absorbed message (shaUpdate shaStart message) :=
  absorbed_update absorbed_start message

/--
The streaming hash is SHA-256, also of a prefix in flash that is followed by
further pieces, and also of a slot that is read back.
-/
theorem streaming_sha256 :
    (∀ pieces : List Bytes, pieces.flatten.length < 2 ^ 61 →
      (shaFinish (pieces.foldl shaUpdateBlocks shaStart)).bytes =
        digest pieces.flatten) ∧
    (∀ machine after, rebuildPrefixHash machine = .done true after →
      ∀ pieces : List Bytes, (read (machine.flash machine.ota.inactive) 0
          machine.ota.nextOffset ++ pieces.flatten).length < 2 ^ 61 → (shaFinish
          (pieces.foldl shaUpdateBlocks after.ota.prefixHash)).bytes =
            digest (read (machine.flash machine.ota.inactive) 0
              machine.ota.nextOffset ++ pieces.flatten)) ∧
    ∀ slot count machine after hashed,
      hashPartition slot count machine = .done (some hashed) after →
        count < 2 ^ 61 →
          hashed.bytes = digest (read (machine.flash slot) 0 count) := by
  refine ⟨?_, ?_, ?_⟩
  · intro pieces small
    exact shaFinish_eq (absorbed_pieces pieces absorbed_start) small
  · intro machine after rebuilt pieces small
    have known := rebuildPrefixHash_reads machine
    unfold wp at known
    rw [rebuilt] at known
    rw [known rfl]
    exact shaFinish_eq (absorbed_pieces pieces (prefix_absorbed _)) small
  · intro slot count machine after hashed finished small
    have known := hashPartition_reads slot count machine
    unfold wp at known
    rw [finished] at known
    have size : (read (machine.flash slot) 0 count).length = count :=
      length_read
    rw [known.2 hashed rfl]
    exact shaFinish_eq (prefix_absorbed _) (by rw [size]; exact small)

end Kitsu.Ota.PrefixHash
