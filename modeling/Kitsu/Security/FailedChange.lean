import Kitsu.Security.CrashAtomicity

/-!
# Changes that fail

A change that fails restores the members.  Whether the slots agree is a question
of what its write left behind: a write that reports a failure may have stored
its record, and so has a write whose read-back cannot be read.  The next start
then loads the table of the change that was reported as failed.

`Reported` excludes exactly these writes for records that change the table.  In
every run that meets it, a begun store is `Consistent`: the members, the slot in
use and the record a start would load have the same table.
-/

namespace Kitsu.Security.FailedChange

open Kitsu.Lib.ByteString
open Kitsu.Lib.Crash
open Kitsu.Lib.Run
open Kitsu.Lib.TwoSlot
open Kitsu.Security.Record
open Kitsu.Security.Store
open Kitsu.Security.Transaction
open Kitsu.Security.Boot
open Kitsu.Security.Anchor
open Kitsu.Security.CrashAtomicity

variable {platform : Platform} {hardwareId : ByteVec 8}

/-! ## The condition -/

/--
No attempt of a plan stores a record with another table than the members' while
its caller is told that it failed.  An attempt is reached when every storage
call before it completed.
-/
def Reported (table : ControllerTable) :
    List (Nat × Material) → List StorageOutcome →
      List (Option (Nat → UInt8)) → Prop
  | [], _, _ => True
  | (cost, goal) :: rest, storage, random =>
    (goal.controllers ≠ table → nextSource random ≠ none →
      unreported (storage.drop (cost - 2)) = false) ∧
    ((storage.take cost).all StorageOutcome.isComplete = true →
      Reported goal.controllers rest (storage.drop cost) random.tail)

/-- The inputs without corruption whose changes are reported. -/
def Sound (device : Device) : Input → Prop
  | .change change environment =>
    Reported device.ram.material.controllers (plan device.ram change)
      environment.storage environment.random
  | .corrupt _ _ => False
  | _ => True

/-! ## One attempt -/

/-- The members, the slot in use and a start agree on the table. -/
def Consistent (platform : Platform) (hardwareId : ByteVec 8)
    (ram : Ram) (slots : Slot → Bytes) : Prop :=
  ∃ anchor loaded,
    Anchored platform hardwareId ram slots anchor ∧
      loaded? platform hardwareId slots = some loaded ∧
      anchor.material.controllers = ram.material.controllers ∧
      loaded.material.controllers = ram.material.controllers

section Attempts

variable {before after : Machine} {goal : Material} {cost : Nat}
  {goals : List (Nat × Material)} {result : SecurityResult}

theorem Consistent.stored
    (consistent : Consistent platform hardwareId before.ram before.slots)
    (attempt : Attempt platform cost before goal (.done .ok after)) :
    Consistent platform hardwareId after.ram after.slots := by
  rcases consistent with ⟨anchor, _, anchored, _, _, _⟩
  rcases Attempt.anchored anchored attempt with
    ⟨anchoredNext, found, material, _⟩
  refine ⟨_, _, anchoredNext, found, ?_, ?_⟩
  · rw [material]
    rfl
  · rw [material]
    rfl

theorem Consistent.failed
    (consistent : Consistent platform hardwareId before.ram before.slots)
    (attempt : Attempt platform cost before goal (.done result after))
    (notOk : result ≠ .ok)
    (reported : goal.controllers ≠ before.ram.material.controllers →
      nextSource before.random ≠ none →
        unreported (before.storage.drop (cost - 2)) = false) :
    Consistent platform hardwareId after.ram after.slots ∧
      after.ram.material = before.ram.material ∧
      after.ram.generation = before.ram.generation := by
  rcases consistent with ⟨anchor, loaded, anchored, found, same, loads⟩
  cases attempt with
  | stored => exact absurd rfl notOk
  | failed _ unready slots left ram fault =>
    have moved := anchored.written slots
    have kept : Anchored platform hardwareId after.ram after.slots
        anchor := by
      rw [ram]
      exact ⟨moved.derived, moved.key, moved.activeSlot,
        moved.generation, moved.readable⟩
    refine ⟨?_, by rw [ram], by rw [ram]⟩
    rcases left with rfl | unreadable | ⟨written, silent, drawn⟩
    · rw [Function.update_eq_self] at slots
      refine ⟨anchor, loaded, kept, ?_, ?_, ?_⟩
      · rw [slots]
        exact found
      · rw [ram]
        exact same
      · rw [ram]
        exact loads
    · rw [anchored.key] at unreadable
      refine ⟨anchor, anchor, kept, ?_, ?_, ?_⟩
      · rw [slots, anchored.target]
        exact anchored.loaded?_lost unreadable
      · rw [ram]
        exact same
      · rw [ram]
        exact same
    · have unchanged : goal.controllers =
          before.ram.material.controllers := by
        by_contra changed
        rw [reported changed drawn] at silent
        cases silent
      rw [anchored.key, anchored.generation] at written
      refine ⟨anchor, anchor.next goal, kept, ?_, ?_, ?_⟩
      · rw [slots, anchored.target]
        exact anchored.loaded?_stored written
      · rw [ram]
        exact same
      · rw [ram]
        exact unchanged

/-- A chain keeps the agreement; its attempts count the generations. -/
theorem Attempts.consistent
    (consistent : Consistent platform hardwareId before.ram before.slots)
    (reported : Reported before.ram.material.controllers goals
      before.storage before.random)
    (attempts : Attempts platform before goals (.done result after)) :
    Consistent platform hardwareId after.ram after.slots ∧
      ∃ count ≤ goals.length,
        after.ram.generation =
            before.ram.generation + UInt32.ofNat count ∧
          (count = 0 → after.ram.material = before.ram.material) := by
  generalize equal : Outcome.done result after = outcome at attempts
  induction attempts with
  | done =>
    cases equal
    exact ⟨consistent, 0, Nat.zero_le _, by simp, fun _ => rfl⟩
  | stop attempt stopped =>
    subst equal
    have notOk : result ≠ .ok := by
      rintro rfl
      exact stopped after rfl
    rcases Consistent.failed consistent attempt notOk reported.1 with
      ⟨agrees, material, generation⟩
    exact ⟨agrees, 0, Nat.zero_le _, by simpa using generation,
      fun _ => material⟩
  | @next before middle cost goal rest outcome attempt later induction =>
    have agrees := Consistent.stored consistent attempt
    cases attempt with
    | failed notOk => exact absurd rfl notOk
    | stored written slots ram storage random calls =>
      have remaining := reported.2 calls
      have table : middle.ram.material.controllers =
          goal.controllers := by
        rw [ram]
        rfl
      have generation : middle.ram.generation =
          before.ram.generation + 1 := by
        rw [ram]
        rfl
      rw [← table, ← storage, ← random] at remaining
      rcases induction agrees remaining equal with
        ⟨last, count, bounded, counted, _⟩
      refine ⟨last, count + 1, by simpa using bounded, ?_, by simp⟩
      rw [counted, generation, UInt32.ofNat_add, UInt32.add_assoc,
        UInt32.add_comm 1]
      rfl

end Attempts

/-! ## Runs -/

/-- A begun store is consistent. -/
def Holds (platform : Platform) (hardwareId : ByteVec 8)
    (device : Device) : Prop :=
  device.ram.begun = true →
    Consistent platform hardwareId device.ram device.slots

theorem Consistent.answered {ram : Ram} {slots : Slot → Bytes}
    (consistent : Consistent platform hardwareId ram slots)
    (result : SecurityResult) :
    Consistent platform hardwareId { ram with lastResult := result }
      slots := by
  rcases consistent with ⟨anchor, loaded, anchored, found, same, loads⟩
  exact ⟨anchor, loaded, ⟨anchored.derived, anchored.key,
    anchored.activeSlot, anchored.generation, anchored.readable⟩, found,
    same, loads⟩

theorem Holds.active {device : Device} (holds : Holds platform hardwareId device)
    (begun : device.ram.begun = true) :
    ∃ active, device.ram.activeSlot = some active := by
  rcases holds begun with ⟨anchor, _, anchored, _⟩
  exact ⟨anchor.chosen, anchored.activeSlot⟩

theorem begin_holds (opens : platform.OpensSealed) (device : Device)
    (environment : Environment) :
    Holds platform hardwareId
      (settle (device.call (begin platform hardwareId) environment)) := by
  cases run : device.call (begin platform hardwareId) environment with
  | cut after =>
    rcases Device.call_cut run with ⟨machine, _, rfl⟩
    intro begun
    cases begun
  | done result after =>
    rcases Device.call_done run with ⟨machine, ended, rfl⟩
    intro begun
    by_cases ready : result = .okReflashable
    · subst ready
      rcases begin_ready opens ended with
        ⟨_, _, recorded, found, current, _⟩
      have table := congrArg Material.controllers current.material
      exact ⟨recorded, recorded, current.anchored, found, table.symm, table.symm⟩
    · have unbegun := begin_unready opens ended ready
      simp only [settle] at begun
      rw [unbegun] at begun
      cases begun

theorem change_holds (opens : platform.OpensSealed) {device : Device}
    {change : ControllerChange} {environment : Environment}
    (holds : Holds platform hardwareId device)
    (reported : Sound device (.change change environment)) :
    Holds platform hardwareId
      (settle (device.call (change.program platform) environment)) := by
  cases run : device.call (change.program platform) environment with
  | cut after =>
    rcases Device.call_cut run with ⟨machine, _, rfl⟩
    intro begun
    cases begun
  | done result after =>
    rcases Device.call_done run with ⟨machine, ended, rfl⟩
    have follows := change_follows opens
      (device.machine environment) change (Holds.active holds)
    rw [ended] at follows
    intro _
    rcases follows with ⟨nonempty, attempts⟩ | ⟨_, answer, equal, _⟩
    · have consistent : Consistent platform hardwareId
          (device.machine environment).ram
          (device.machine environment).slots :=
        holds (begun_of_plan nonempty)
      exact (Attempts.consistent consistent reported attempts).1
    · cases equal
      rename_i begun
      exact Consistent.answered (holds begun) _

theorem step_holds (opens : platform.OpensSealed) {device : Device}
    {input : Input} (holds : Holds platform hardwareId device)
    (sound : Sound device input) :
    Holds platform hardwareId
      (device.step platform hardwareId input) := by
  cases input with
  | begin environment => exact begin_holds opens device environment
  | change change environment => exact change_holds opens holds sound
  | generatePending facts environment =>
    rcases generatePending_answered device facts environment with
      ⟨result, equal⟩
    rw [Device.step, equal]
    intro begun
    exact Consistent.answered (holds begun) result
  | corrupt slot blob => exact absurd sound id
  | powerLoss =>
    intro begun
    cases begun

theorem plan_length (ram : Ram) (change : ControllerChange) :
    (plan ram change).length ≤ 3 := by
  have revoked (controllerId : ControllerId) (material : Material) :
      (revokePlan controllerId material).length ≤ 2 := by
    unfold revokePlan
    split <;> simp [retirePlan]
  have every (material : Material) :
      (revokeEveryPlan material).length ≤ 2 := by
    unfold revokeEveryPlan
    split <;> simp [retirePlan]
  have resumed (rest : Material → List (Nat × Material))
      (short : ∀ material, (rest material).length ≤ 2)
      (material : Material) : (resumePlan rest material).length ≤ 3 := by
    unfold resumePlan
    split
    · exact Nat.succ_le_succ (short (finished material))
    · exact Nat.le_trans (short material) (by decide)
  cases change with
  | commit pairing =>
    simp only [plan]
    split <;> simp
  | revoke controllerId physicalConfirmed =>
    simp only [plan]
    split
    · exact resumed _ (revoked controllerId) _
    · simp
  | revokeAuthenticated controllerId =>
    simp only [plan]
    split
    · exact resumed _ (revoked controllerId) _
    · simp
  | revokeAll physicalConfirmed =>
    simp only [plan]
    split
    · exact resumed _ every _
    · simp

theorem count_eq_zero {generation : UInt32} {count : Nat} (small : count ≤ 3)
    (same : generation + UInt32.ofNat count = generation) : count = 0 := by
  have zero : UInt32.ofNat count = 0 := by
    have cancelled := congrArg (· - generation) same
    simpa [UInt32.add_comm generation] using cancelled
  have values := congrArg UInt32.toNat zero
  simp at values
  omega

/--
Failed changes.  In a run from power-on without corruption in which every change
is reported, a change that returns before any of its records was confirmed (the
generation is the old one) leaves the members' table as it was.  If the store was begun, the
record a start would load has that table too, and every start that succeeds
returns it; if it was not, the slots are untouched.
-/
theorem failed_change_not_durable (opens : platform.OpensSealed)
    {slots : Slot → Bytes} {history : List Input}
    {change : ControllerChange} {environment : Environment}
    {result : SecurityResult} {after : Device}
    (sound : Throughout (Device.step platform hardwareId)
      ⟨.cleared, slots⟩ Sound (history ++ [.change change environment]))
    (run : (exec (Device.step platform hardwareId) ⟨.cleared, slots⟩
      history).call (change.program platform) environment = .done result after)
    (unconfirmed : after.ram.generation =
      (exec (Device.step platform hardwareId) ⟨.cleared, slots⟩
        history).ram.generation) :
    let before :=
      exec (Device.step platform hardwareId) ⟨.cleared, slots⟩ history
    after.ram.material.controllers = before.ram.material.controllers ∧
      (before.ram.begun = true →
        (∃ loaded, loaded? platform hardwareId after.slots = some loaded ∧
          loaded.material.controllers = before.ram.material.controllers) ∧
        ∀ later final, after.call (begin platform hardwareId) later =
              .done .okReflashable final → final.ram.material.controllers =
              before.ram.material.controllers) ∧
      (before.ram.begun = false → after.slots = before.slots) := by
  intro before
  have holds : Holds platform hardwareId before := by
    refine exec_throughout ?_ ?_ sound.earlier
    · intro begun
      cases begun
    · intro device input held allowed
      exact step_holds opens held allowed
  have reported : Sound before (.change change environment) := sound.last
  rcases Device.call_done run with ⟨machine, ended, rfl⟩
  have follows := change_follows opens (before.machine environment) change
    (Holds.active holds)
  rw [ended] at follows
  have table : machine.ram.material.controllers =
      before.ram.material.controllers := by
    rcases follows with ⟨nonempty, attempts⟩ | ⟨_, answer, equal, _⟩
    · have consistent : Consistent platform hardwareId
          (before.machine environment).ram
          (before.machine environment).slots :=
        holds (begun_of_plan nonempty)
      rcases Attempts.consistent consistent reported attempts with
        ⟨_, count, bounded, counted, unchanged⟩
      have none : count = 0 :=
        count_eq_zero (Nat.le_trans bounded (plan_length _ _))
          (counted.symm.trans unconfirmed)
      rw [unchanged none]
      rfl
    · cases equal
      rfl
  refine ⟨table, ?_, ?_⟩
  · intro begun
    have agrees : Consistent platform hardwareId machine.ram
        machine.slots := by
      rcases follows with ⟨nonempty, attempts⟩ | ⟨_, answer, equal, _⟩
      · have consistent : Consistent platform hardwareId
            (before.machine environment).ram
            (before.machine environment).slots := holds begun
        exact (Attempts.consistent consistent reported attempts).1
      · cases equal
        exact Consistent.answered (holds begun) _
    rcases agrees with ⟨_, loaded, _, found, _, loads⟩
    refine ⟨⟨loaded, found, loads.trans table⟩, ?_⟩
    intro later final restarted
    rcases Device.call_done restarted with ⟨last, completed, rfl⟩
    rcases begin_ready opens completed with
      ⟨_, _, recorded, _, current, kept⟩
    calc last.ram.material.controllers
        = recorded.material.controllers :=
          congrArg Material.controllers current.material
      _ = loaded.material.controllers := (kept loaded found).2
      _ = before.ram.material.controllers := loads.trans table
  · intro unbegun
    rcases follows with ⟨nonempty, _⟩ | ⟨_, answer, equal, _⟩
    · have begun : before.ram.begun = true := begun_of_plan nonempty
      rw [unbegun] at begun
      cases begun
    · cases equal
      rfl

/-- A pairing on a fresh board whose write fails and leaves the slot empty. -/
theorem failed_pairing_not_durable :
    ∃ after,
      (exec (Device.step maskingPlatform sampleHardwareId)
          ⟨.cleared, fun _ => []⟩ [.begin calmEnvironment]).call
        ((ControllerChange.commit samplePairing).program maskingPlatform)
        ⟨[.failed .emptied], []⟩ = .done .storageWriteFailed after ∧
      after.ram.material.controllers =
        (exec (Device.step maskingPlatform sampleHardwareId)
          ⟨.cleared, fun _ => []⟩
          [.begin calmEnvironment]).ram.material.controllers := by
  have run : ∃ after,
      (exec (Device.step maskingPlatform sampleHardwareId)
          ⟨.cleared, fun _ => []⟩ [.begin calmEnvironment]).call
        ((ControllerChange.commit samplePairing).program maskingPlatform)
        ⟨[.failed .emptied], []⟩ = .done .storageWriteFailed after :=
    Outcome.eq_done (by decide +kernel)
  rcases run with ⟨after, run⟩
  refine ⟨after, run, ?_⟩
  have unconfirmed : after.ram.generation =
      (exec (Device.step maskingPlatform sampleHardwareId)
        ⟨.cleared, fun _ => []⟩
        [.begin calmEnvironment]).ram.generation := by
    have equal : after = settle
        ((exec (Device.step maskingPlatform sampleHardwareId)
          ⟨.cleared, fun _ => []⟩ [.begin calmEnvironment]).call
        ((ControllerChange.commit samplePairing).program maskingPlatform)
        ⟨[.failed .emptied], []⟩) := by
      rw [run]
      rfl
    rw [equal]
    decide +kernel
  have sound : Throughout
      (Device.step maskingPlatform sampleHardwareId)
      ⟨.cleared, fun _ => []⟩ Sound
      ([.begin calmEnvironment] ++ [.change (.commit samplePairing)
        ⟨[.failed .emptied], []⟩]) := by
    refine Throughout.concat ?_ ?_
    · rw [← List.nil_append [Input.begin calmEnvironment]]
      exact Throughout.nil.concat trivial
    · simp only [Sound, plan]
      split
      · trivial
      · exact ⟨fun _ _ => rfl, fun _ => trivial⟩
  exact (failed_change_not_durable maskingPlatform_opens sound run unconfirmed).1

/-- The board on which the read-back of a pairing failed. -/
def unreadPairing : Outcome Device SecurityResult :=
  sampleDevice.call
    ((ControllerChange.commit samplePairing).program maskingPlatform)
    ⟨[.complete, .failed .kept], []⟩

/--
A pairing whose write succeeds and whose read-back cannot be read is reported as
failed, leaves the members without the controller, and is loaded by the next
start.
-/
theorem unread_pairing_durable :
    unreadPairing.result? = some .readbackFailed ∧
      (settle unreadPairing).ram.generation =
        sampleDevice.ram.generation ∧
      (settle unreadPairing).ram.material.controllers =
        sampleDevice.ram.material.controllers ∧
      ((settle unreadPairing).call (begin maskingPlatform sampleHardwareId)
        calmEnvironment).result? = some .okReflashable ∧
      (settle ((settle unreadPairing).call (begin maskingPlatform sampleHardwareId)
        calmEnvironment)).ram.material.controllers ≠
          sampleDevice.ram.material.controllers := by
  decide +kernel

end Kitsu.Security.FailedChange
