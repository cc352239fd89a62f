import Kitsu.Security.FailedChange

/-!
# Revocation is permanent

The tables of the store are the members' table and those of the readable slots.
A property of tables that every stored table has is kept by every call, by power
cuts, failed calls and corruption.  Applied to "does not carry this controller
with this root" it says that a revoked controller stays away until a pairing
stores it again; applied to "identities are distinct" it says that clearing one
entry removes a controller.

After a revocation that returns `Ok` both slots hold the same table, except in
one case: the revocation of every controller returns `Ok` at once when the
members' table is empty and no retirement is pending, without looking at the
slots.  A pairing that was reported as failed may have left its record there.
-/

namespace Kitsu.Security.Revocation

open Kitsu.Lib.ByteString
open Kitsu.Lib.Crash
open Kitsu.Lib.Run
open Kitsu.Lib.TwoSlot
open Kitsu.Ble.Permissions
open Kitsu.Security.Record
open Kitsu.Security.Store
open Kitsu.Security.Transaction
open Kitsu.Security.Boot
open Kitsu.Security.Anchor
open Kitsu.Security.CrashAtomicity
open Kitsu.Security.FailedChange

/-! ## Tables -/

/-- The table has an entry in use for this controller with this root. -/
def Carries (table : ControllerTable) (controllerId : ControllerId)
    (root : Secret) : Prop :=
  ∃ controller ∈ table.entries,
    controller.valid = true ∧ controller.id = controllerId ∧
      controller.root = root

/-- No two entries in use have the same identity. -/
def Distinct (table : ControllerTable) : Prop :=
  ∀ (first second : Nat) (left right : Controller),
    table.entries[first]? = some left →
    table.entries[second]? = some right →
    left.valid = true → right.valid = true →
    left.id = right.id → first = second

variable {table : ControllerTable} {index : Nat}

theorem not_carries_zeroed {controllerId : ControllerId} {root : Secret}
    (absent : ¬Carries table controllerId root) :
    ¬Carries (table.set index .zeroed) controllerId root := by
  rintro ⟨controller, member, valid, same⟩
  rcases List.mem_or_eq_of_mem_set member with member | rfl
  · exact absent ⟨controller, member, valid, same⟩
  · cases valid

theorem not_carries_empty (controllerId : ControllerId) (root : Secret) :
    ¬Carries .empty controllerId root := by
  rintro ⟨controller, member, valid, _⟩
  rw [List.eq_of_mem_replicate member] at valid
  cases valid

variable {controller : Controller}

theorem not_carries_set {controllerId : ControllerId} {root : Secret}
    (absent : ¬Carries table controllerId root)
    (different : ¬(controller.id = controllerId ∧ controller.root = root)) :
    ¬Carries (table.set index controller) controllerId root := by
  rintro ⟨entry, member, valid, same⟩
  rcases List.mem_or_eq_of_mem_set member with member | rfl
  · exact absent ⟨entry, member, valid, same⟩
  · exact different same

theorem holds_iff {controllerId : ControllerId} :
    controller.holds controllerId = true ↔
      controller.valid = true ∧ controller.id = controllerId := by
  simp [Controller.holds]

/-- An identity that is not found is not carried. -/
theorem not_carries_of_indexOf {controllerId : ControllerId}
    (missing : table.indexOf controllerId = none) (root : Secret) :
    ¬Carries table controllerId root := by
  rintro ⟨controller, member, valid, same, _⟩
  have unheld := List.findIdx?_eq_none_iff.mp missing controller member
  rw [holds_iff.mpr ⟨valid, same⟩] at unheld
  cases unheld

theorem indexOf_some {controllerId : ControllerId}
    (found : table.indexOf controllerId = some index) :
    ∃ controller, table.entries[index]? = some controller ∧
      controller.valid = true ∧ controller.id = controllerId := by
  rcases List.findIdx?_eq_some_iff_getElem.mp found with
    ⟨inside, held, _⟩
  exact ⟨_, List.getElem?_eq_getElem inside, holds_iff.mp held⟩

/-- Clearing the entry of an identity removes it from a distinct table. -/
theorem not_carries_cleared {controllerId : ControllerId} {root : Secret}
    (distinct : Distinct table) (found : table.indexOf controllerId = some index) :
    ¬Carries (table.set index .zeroed) controllerId root := by
  rcases indexOf_some found with ⟨held, heldAt, heldValid, heldId⟩
  rintro ⟨controller, member, valid, same, _⟩
  rcases List.getElem?_of_mem member with ⟨position, at_position⟩
  simp only [ControllerTable.set] at at_position
  by_cases here : index = position
  · subst here
    have inside : index < table.entries.length :=
      (List.getElem?_eq_some_iff.mp heldAt).1
    rw [List.getElem?_set_self inside] at at_position
    cases at_position
    cases valid
  · rw [List.getElem?_set_ne here] at at_position
    exact here (distinct index position held controller heldAt
      at_position heldValid valid (heldId.trans same.symm))

theorem distinct_empty : Distinct .empty := by
  intro first second left right leftAt _ valid
  have member := List.mem_of_getElem? leftAt
  rw [List.eq_of_mem_replicate member] at valid
  cases valid

/-- Replacing an entry keeps identities distinct when no other one has its. -/
theorem distinct_set (distinct : Distinct table)
    (alone : controller.valid = true → ∀ other entry,
      table.entries[other]? = some entry → entry.valid = true →
        entry.id = controller.id → other = index) :
    Distinct (table.set index controller) := by
  intro first second left right leftAt rightAt leftValid rightValid same
  simp only [ControllerTable.set, List.getElem?_set] at leftAt rightAt
  split at leftAt <;> split at rightAt
  · rename_i here there
    exact here.symm.trans there
  · rename_i here there
    subst here
    split at leftAt
    · cases leftAt
      exact (alone leftValid second right rightAt rightValid same.symm).symm
    · cases leftAt
  · rename_i here there
    subst there
    split at rightAt
    · cases rightAt
      exact alone rightValid first left leftAt leftValid same
    · cases rightAt
  · exact distinct first second left right leftAt rightAt leftValid
      rightValid same

/-! ## The tables in the slots -/

variable {platform : Platform} {hardwareId : ByteVec 8}

/-- The blob is a record that decodes to this table. -/
def SlotTable (platform : Platform) (key : Secret) (blob : Bytes)
    (table : ControllerTable) : Prop :=
  ∃ generation plain material retired,
    checkBlob platform key blob = .valid generation plain ∧
      decodeLoaded plain = some (material, retired) ∧
      material.controllers = table

/-- Every readable slot has such a table. -/
def SlotsHave (platform : Platform) (key : Secret)
    (Good : ControllerTable → Prop) (slots : Slot → Bytes) : Prop :=
  ∀ slot table, SlotTable platform key (slots slot) table → Good table

/-- The slot in use, if readable, has the members' table. -/
def Aligned (platform : Platform) (key : Secret) (ram : Ram)
    (slots : Slot → Bytes) : Prop :=
  ∃ active, ram.activeSlot = some active ∧
    ∀ table, SlotTable platform key (slots active) table →
      table = ram.material.controllers

variable {material : Material}

variable {generation : UInt32} {blob : Bytes}

section Slots

variable {key : Secret} {Good : ControllerTable → Prop}

theorem SlotTable.sealed (written : Sealed platform key generation material blob)
    (decodes : SlotTable platform key blob table) :
    table = material.controllers := by
  rcases written.check with ⟨plain, valid, decoded⟩
  rcases decodes with ⟨_, _, _, _, valid', decoded', rfl⟩
  rw [valid] at valid'
  cases valid'
  rw [decoded] at decoded'
  cases decoded'
  rfl

theorem SlotTable.of_sealed
    (written : Sealed platform key generation material blob) :
    SlotTable platform key blob material.controllers := by
  rcases written.check with ⟨plain, valid, decoded⟩
  exact ⟨generation, plain, material, false, valid, decoded, rfl⟩

theorem SlotTable.readable (decodes : SlotTable platform key blob table) :
    validateBlob platform key blob ≠ none := by
  rcases decodes with ⟨generation, plain, _, _, valid, _⟩
  intro unreadable
  unfold checkBlob at valid
  rw [unreadable] at valid
  split at valid <;> cases valid

variable {before after : Machine} {goal : Material} {now : Bytes}

/-- What a write leaves behind is an old table or its own. -/
theorem SlotsHave.written (keyed : before.ram.wrappingKey = key)
    (held : SlotsHave platform key Good before.slots)
    (good : Good goal.controllers) (left : LeftBehind platform before goal now)
    (slots : after.slots = Function.update before.slots before.ram.target now) :
    SlotsHave platform key Good after.slots := by
  intro slot table decodes
  rw [slots] at decodes
  by_cases changed : slot = before.ram.target
  · subst changed
    rw [Function.update_self] at decodes
    rcases left with rfl | unreadable | written
    · exact held _ _ decodes
    · rw [keyed] at unreadable
      exact absurd unreadable.1 decodes.readable
    · rw [keyed] at written
      rw [SlotTable.sealed written decodes]
      exact good
  · rw [Function.update_of_ne changed] at decodes
    exact held _ _ decodes

/-- A stored record is aligned. -/
theorem Aligned.stored {cost : Nat} (keyed : before.ram.wrappingKey = key)
    (attempt : Attempt platform cost before goal (.done .ok after)) :
    Aligned platform key after.ram after.slots := by
  cases attempt with
  | failed notOk => exact absurd rfl notOk
  | stored written slots ram storage random calls =>
    rw [keyed] at written
    refine ⟨before.ram.target, by rw [ram]; rfl, ?_⟩
    intro table decodes
    rw [slots, Function.update_self] at decodes
    rw [SlotTable.sealed written decodes, ram]
    rfl

/-- A record stored over an aligned store with its table fills both slots. -/
theorem Aligned.swept {cost : Nat} (keyed : before.ram.wrappingKey = key)
    (aligned : Aligned platform key before.ram before.slots)
    (same : goal.controllers = before.ram.material.controllers)
    (attempt : Attempt platform cost before goal (.done .ok after)) :
    SlotsHave platform key (· = goal.controllers) after.slots := by
  rcases aligned with ⟨active, activeSlot, aligned⟩
  have target : before.ram.target = active.other := by
    simp [Ram.target, activeSlot]
  cases attempt with
  | failed notOk => exact absurd rfl notOk
  | stored written slots ram storage random calls =>
    rw [keyed] at written
    intro slot table decodes
    rw [slots, target] at decodes
    rcases eq_or_eq_other active slot with rfl | rfl
    · rw [Function.update_of_ne (ne_other _)] at decodes
      exact (aligned table decodes).trans same.symm
    · rw [Function.update_self] at decodes
      exact SlotTable.sealed written decodes

end Slots

/-! ## Chains -/

/-- The tables of a running call. -/
structure Kept (platform : Platform) (key : Secret)
    (Good : ControllerTable → Prop) (machine : Machine) : Prop where
  keyed : machine.ram.wrappingKey = key
  members : Good machine.ram.material.controllers
  slots : SlotsHave platform key Good machine.slots
  aligned : Aligned platform key machine.ram machine.slots

section Chains

variable {key : Secret} {Good : ControllerTable → Prop}
  {before : Machine} {goals : List (Nat × Material)}

theorem Kept.stored {after : Machine} {goal : Material} {cost : Nat}
    (kept : Kept platform key Good before) (good : Good goal.controllers)
    (attempt : Attempt platform cost before goal (.done .ok after)) :
    Kept platform key Good after ∧ after.ram.material = goal ∧
      after.ram.begun = before.ram.begun := by
  have aligned := Aligned.stored kept.keyed attempt
  cases attempt with
  | failed notOk => exact absurd rfl notOk
  | stored written slots ram storage random calls =>
    refine ⟨⟨?_, ?_, ?_, aligned⟩, by rw [ram]; rfl, by rw [ram]; rfl⟩
    · rw [ram]
      exact kept.keyed
    · rw [ram]
      exact good
    · exact SlotsHave.written kept.keyed kept.slots good
        (.inr (.inr written)) slots

theorem Kept.failed {after : Machine} {goal : Material} {cost : Nat}
    {result : SecurityResult} (kept : Kept platform key Good before)
    (good : Good goal.controllers) (notOk : result ≠ .ok)
    (attempt : Attempt platform cost before goal (.done result after)) :
    Kept platform key Good after ∧
      after.ram.begun = before.ram.begun := by
  cases attempt with
  | stored => exact absurd rfl notOk
  | failed _ unready slots left ram fault =>
    have leftBehind : LeftBehind platform before goal _ :=
      left.imp id (Or.imp id And.left)
    rcases kept.aligned with ⟨active, activeSlot, aligned⟩
    refine ⟨⟨?_, ?_, ?_, active, ?_, ?_⟩, by rw [ram]⟩
    · rw [ram]
      exact kept.keyed
    · rw [ram]
      exact kept.members
    · exact SlotsHave.written kept.keyed kept.slots good leftBehind
        slots
    · rw [ram]
      exact activeSlot
    · have target : before.ram.target = active.other := by
        simp [Ram.target, activeSlot]
      rw [slots, target, Function.update_of_ne (ne_other _), ram]
      exact aligned

/-- A chain that returns keeps the tables good. -/
theorem Attempts.kept {after : Machine} {result : SecurityResult}
    (kept : Kept platform key Good before)
    (good : ∀ goal ∈ goals, Good goal.2.controllers)
    (attempts : Attempts platform before goals (.done result after)) :
    Kept platform key Good after ∧
      after.ram.begun = before.ram.begun := by
  generalize equal : Outcome.done result after = outcome at attempts
  induction attempts with
  | done =>
    cases equal
    exact ⟨kept, rfl⟩
  | stop attempt stopped =>
    subst equal
    refine Kept.failed kept (good _ List.mem_cons_self) ?_ attempt
    rintro rfl
    exact stopped after rfl
  | next attempt later induction =>
    rcases Kept.stored kept (good _ List.mem_cons_self) attempt with
      ⟨next, _, begun⟩
    rcases induction next (fun goal member =>
      good goal (List.mem_cons_of_mem _ member)) equal with
      ⟨last, same⟩
    exact ⟨last, same.trans begun⟩

/-- A chain that is cut keeps the tables in the slots good. -/
theorem Attempts.cut {after : Machine} (kept : Kept platform key Good before)
    (good : ∀ goal ∈ goals, Good goal.2.controllers)
    (attempts : Attempts platform before goals (.cut after)) :
    SlotsHave platform key Good after.slots := by
  generalize equal : Outcome.cut after = outcome at attempts
  induction attempts with
  | done => cases equal
  | stop attempt stopped =>
    subst equal
    cases attempt with
    | interrupted slots left =>
      exact SlotsHave.written kept.keyed kept.slots
        (good _ List.mem_cons_self) left slots
  | next attempt later induction =>
    refine induction
      (Kept.stored kept (good _ List.mem_cons_self) attempt).1 ?_ equal
    intro goal member
    exact good goal (List.mem_cons_of_mem _ member)

/-- The last attempt stores the table that the store already has. -/
def Settles (table : ControllerTable) : List (Nat × Material) → Prop
  | [] => False
  | [(_, goal)] => goal.controllers = table
  | (_, goal) :: rest => Settles goal.controllers rest

/-- A chain that settles ends with one table in both slots. -/
theorem Attempts.swept {after : Machine}
    (kept : Kept platform key (fun _ => True) before)
    (settles : Settles before.ram.material.controllers goals)
    (attempts : Attempts platform before goals (.done .ok after)) :
    SlotsHave platform key
        (· = (finalMaterial before.ram.material goals).controllers)
        after.slots ∧
      after.ram.material = finalMaterial before.ram.material goals := by
  generalize equal : Outcome.done SecurityResult.ok after = outcome
    at attempts
  induction attempts with
  | done => exact absurd settles id
  | stop attempt stopped => exact absurd equal.symm (stopped after)
  | @next before middle cost goal rest outcome attempt later induction =>
    rcases Kept.stored kept trivial attempt with ⟨next, material, _⟩
    cases rest with
    | nil =>
      cases later with
      | done =>
        cases equal
        exact ⟨Aligned.swept kept.keyed kept.aligned settles attempt, material⟩
    | cons head rest =>
      have remaining : Settles middle.ram.material.controllers
          (head :: rest) := by
        rw [material]
        exact settles
      have ended := induction next remaining equal
      exact ended

end Chains

/-! ## The tables of a board -/

/-- The members' table, if the store is begun, and those of the slots. -/
structure Tables (platform : Platform) (hardwareId : ByteVec 8)
    (Good : ControllerTable → Prop) (device : Device) : Prop where
  members : device.ram.begun = true →
    Good device.ram.material.controllers
  slots : ∀ key, platform.deriveWrappingKey hardwareId = some key →
    SlotsHave platform key Good device.slots

/-- A begun store has the board's key and is aligned. -/
def Tidy (platform : Platform) (hardwareId : ByteVec 8)
    (device : Device) : Prop :=
  device.ram.begun = true →
    platform.deriveWrappingKey hardwareId = some device.ram.wrappingKey ∧
      Aligned platform device.ram.wrappingKey device.ram device.slots

variable {environment : Environment}

variable {machine : Machine}

section Boards

variable {Good : ControllerTable → Prop} {device : Device}

theorem Tidy.active (tidy : Tidy platform hardwareId device) (begun : device.ram.begun = true) :
    ∃ active, device.ram.activeSlot = some active := by
  rcases (tidy begun).2 with ⟨active, activeSlot, _⟩
  exact ⟨active, activeSlot⟩

/-- A board whose store is not begun has only its slots. -/
theorem Tables.unbegun {ram : Ram} {slots : Slot → Bytes}
    (unbegun : ram.begun = false)
    (held : ∀ key, platform.deriveWrappingKey hardwareId = some key →
      SlotsHave platform key Good slots) :
    Tables platform hardwareId Good ⟨ram, slots⟩ ∧
      Tidy platform hardwareId ⟨ram, slots⟩ := by
  constructor
  · constructor
    · intro begun
      simp only [unbegun] at begun
      cases begun
    · exact held
  · intro begun
    simp only [unbegun] at begun
    cases begun

theorem Kept.tables {key : Secret}
    (derived : platform.deriveWrappingKey hardwareId = some key)
    (kept : Kept platform key Good machine) :
    Tables platform hardwareId Good ⟨machine.ram, machine.slots⟩ ∧
      Tidy platform hardwareId ⟨machine.ram, machine.slots⟩ := by
  rcases kept with ⟨keyed, members, slots, aligned⟩
  constructor
  · constructor
    · intro _
      exact members
    · intro other derivedOther
      rw [derived] at derivedOther
      cases derivedOther
      exact slots
  · intro _
    refine ⟨derived.trans (congrArg some keyed.symm), ?_⟩
    simp only [keyed]
    exact aligned

/-- The machine on which a start takes a record. -/
theorem Loaded.kept {loaded : Loaded} {before : Machine}
    {lastResult : SecurityResult}
    (found : loaded? platform hardwareId before.slots = some loaded)
    (ram : machine.ram = loaded.ram lastResult)
    (slots : machine.slots = before.slots)
    (held : SlotsHave platform loaded.key Good before.slots) :
    Kept platform loaded.key Good machine ∧
      Good loaded.material.controllers := by
  rcases loaded?_iff.mp found with ⟨_, _, plain, valid, decoded⟩
  have decodes : SlotTable platform loaded.key
      (before.slots loaded.chosen) loaded.material.controllers :=
    ⟨_, plain, _, _, valid, decoded, rfl⟩
  have good := held _ _ decodes
  refine ⟨⟨?_, ?_, ?_, loaded.chosen, ?_, ?_⟩, good⟩
  · rw [ram]
    rfl
  · rw [ram]
    exact good
  · rw [slots]
    exact held
  · rw [ram]
    rfl
  · intro table other
    rw [slots] at other
    rcases other with ⟨_, _, _, _, valid', decoded', rfl⟩
    rw [valid] at valid'
    cases valid'
    rw [decoded] at decoded'
    cases decoded'
    rw [ram]
    rfl

/-- A start keeps the tables good. -/
theorem begin_tables (opens : platform.OpensSealed)
    (empty : Good .empty) (environment : Environment)
    (tables : Tables platform hardwareId Good device) :
    let after := settle
      (device.call (begin platform hardwareId) environment)
    Tables platform hardwareId Good after ∧
      Tidy platform hardwareId after := by
  intro after
  have began := begin_began opens hardwareId
    (device.machine environment)
  have settled : after = settle
      (device.call (begin platform hardwareId) environment) := rfl
  rw [Device.call] at settled
  generalize begin platform hardwareId (device.machine environment) =
    ended at began settled
  rw [settled]
  cases began with
  | refused notOk slots unbegun fault =>
    refine Tables.unbegun unbegun ?_
    rw [slots]
    exact tables.slots
  | stopped slots =>
    refine Tables.unbegun rfl ?_
    rw [slots]
    exact tables.slots
  | @resumed loaded machine lastResult outcome found ram slots storage
      random readable attempts =>
      have derived := (loaded?_iff.mp found).1
      rcases Loaded.kept found ram slots (tables.slots _ derived) with
        ⟨kept, good⟩
      have goals : ∀ goal ∈ loaded.plan, Good goal.2.controllers := by
        intro goal member
        rw [(Loaded.plan_same member).2]
        exact good
      cases outcome with
      | cut middle =>
        refine Tables.unbegun rfl ?_
        intro key derivedKey
        rw [derived] at derivedKey
        cases derivedKey
        exact Attempts.cut kept goals attempts
      | done result middle =>
        have last := (Attempts.kept kept goals attempts).1
        by_cases stored : result = .ok
        · subst stored
          exact Kept.tables derived
            ⟨last.keyed, last.members, last.slots, last.aligned⟩
        · rw [finishing_failed stored]
          refine Tables.unbegun rfl ?_
          intro key derivedKey
          rw [derived] at derivedKey
          cases derivedKey
          exact last.slots
  | @minted key machine outcome derived blank ram slots attempt =>
    rcases ram with ⟨keyed, inactive, table, settledBit⟩
    have held : SlotsHave platform key Good machine.slots := by
      rw [slots]
      exact tables.slots _ derived
    have good : Good machine.ram.material.controllers := by
      rw [table]
      exact empty
    have onlyKey {slots : Slot → Bytes}
        (filled : SlotsHave platform key Good slots) :
        ∀ other, platform.deriveWrappingKey hardwareId = some other →
          SlotsHave platform other Good slots := by
      intro other derivedOther
      rw [derived] at derivedOther
      cases derivedOther
      exact filled
    have aligned := @Aligned.stored platform key machine
    cases attempt with
    | interrupted changed left =>
      refine Tables.unbegun rfl (onlyKey ?_)
      exact SlotsHave.written keyed held good left changed
    | failed notOk unready changed left members fault =>
      rw [minting_failed notOk]
      refine Tables.unbegun rfl (onlyKey ?_)
      exact SlotsHave.written keyed held good
        (left.imp id (Or.imp id And.left)) changed
    | stored written changed members rest sources completed =>
      have stored := aligned keyed
        (.stored written changed members rest sources completed)
      refine Kept.tables derived ⟨?_, ?_, ?_, stored⟩
      · simp only [members]
        exact keyed
      · simp only [members]
        exact good
      · exact SlotsHave.written keyed held good
          (.inr (.inr written)) changed

/-- A change keeps the tables good when the tables it stores are. -/
theorem change_tables (opens : platform.OpensSealed) {change : ControllerChange}
    (tidy : Tidy platform hardwareId device)
    (tables : Tables platform hardwareId Good device)
    (good : ∀ goal ∈ plan device.ram change, Good goal.2.controllers) :
    let after := settle
      (device.call (change.program platform) environment)
    Tables platform hardwareId Good after ∧
      Tidy platform hardwareId after := by
  intro after
  have follows := change_follows opens (device.machine environment)
    change tidy.active
  have settled : after = settle
      (device.call (change.program platform) environment) := rfl
  rw [Device.call] at settled
  generalize change.program platform (device.machine environment) =
    ended at follows settled
  rw [settled]
  rcases follows with ⟨nonempty, attempts⟩ | ⟨_, result, rfl, _⟩
  · have begun : device.ram.begun = true := begun_of_plan nonempty
    rcases tidy begun with ⟨derived, aligned⟩
    have kept : Kept platform device.ram.wrappingKey Good
        (device.machine environment) :=
      ⟨rfl, tables.members begun, tables.slots _ derived, aligned⟩
    cases ended with
    | cut middle =>
      refine Tables.unbegun rfl ?_
      intro key derivedKey
      rw [derived] at derivedKey
      cases derivedKey
      exact Attempts.cut kept good attempts
    | done result middle =>
      exact Kept.tables derived (Attempts.kept kept good attempts).1
  · constructor
    · exact ⟨tables.members, tables.slots⟩
    · exact tidy

/-- Corruption removes records and adds none. -/
theorem corrupt_tables (slot : Slot) (blob : Bytes)
    (tidy : Tidy platform hardwareId device)
    (tables : Tables platform hardwareId Good device) :
    let after := device.step platform hardwareId (.corrupt slot blob)
    Tables platform hardwareId Good after ∧
      Tidy platform hardwareId after := by
  intro after
  by_cases forged : ((platform.deriveWrappingKey hardwareId).bind
      fun key => validateBlob platform key blob).isSome
  · have same : after = device := by
      simp [after, Device.step, forged]
    rw [same]
    exact ⟨tables, tidy⟩
  · have changed : after = { device with
        slots := Function.update device.slots slot blob } := by
      simp [after, Device.step, forged]
    have lost {key : Secret} {table : ControllerTable}
        (derived : platform.deriveWrappingKey hardwareId = some key) :
        ¬SlotTable platform key blob table := by
      intro decodes
      refine decodes.readable ?_
      simpa [derived] using forged
    have older {key : Secret} {other : Slot} {table : ControllerTable}
        (derived : platform.deriveWrappingKey hardwareId = some key)
        (decodes : SlotTable platform key
          (Function.update device.slots slot blob other) table) :
        SlotTable platform key (device.slots other) table := by
      by_cases here : other = slot
      · subst here
        rw [Function.update_self] at decodes
        exact absurd decodes (lost derived)
      · rwa [Function.update_of_ne here] at decodes
    rw [changed]
    constructor
    · refine ⟨tables.members, ?_⟩
      intro key derived other table decodes
      exact tables.slots key derived other table (older derived decodes)
    · intro begun
      rcases tidy begun with ⟨derived, active, activeSlot, aligned⟩
      refine ⟨derived, active, activeSlot, ?_⟩
      intro table decodes
      exact aligned table (older derived decodes)

/-- Every input keeps the tables good when the tables it stores are. -/
theorem step_tables (opens : platform.OpensSealed)
    (empty : Good .empty) {input : Input} (tidy : Tidy platform hardwareId device)
    (tables : Tables platform hardwareId Good device)
    (good : ∀ change environment, input = .change change environment →
      ∀ goal ∈ plan device.ram change, Good goal.2.controllers) :
    Tables platform hardwareId Good
        (device.step platform hardwareId input) ∧
      Tidy platform hardwareId
        (device.step platform hardwareId input) := by
  cases input with
  | begin environment => exact begin_tables opens empty environment tables
  | change change environment =>
    exact change_tables opens tidy tables
      (good change environment rfl)
  | generatePending facts environment =>
    rcases generatePending_answered device facts environment with
      ⟨result, equal⟩
    rw [Device.step, equal]
    exact ⟨⟨tables.members, tables.slots⟩, tidy⟩
  | corrupt slot blob => exact corrupt_tables slot blob tidy tables
  | powerLoss => exact Tables.unbegun rfl tables.slots

end Boards

/-! ## The tables a change stores -/

variable {pairing : PairingCommit}

section Plans

variable {ram : Ram} {change : ControllerChange}

theorem pairedTable_some (paired : pairedTable ram pairing = some table) :
    ∃ target,
      pairingTarget ram.material.controllers pairing.controllerId =
          some target ∧
        table = ram.material.controllers.set target
          pairing.controller := by
  simp only [pairedTable] at paired
  split at paired
  · simp only [Option.map_eq_some_iff] at paired
    rcases paired with ⟨target, found, rfl⟩
    exact ⟨target, found, rfl⟩
  · simp at paired

/-- The entry a pairing goes to is its controller's or an unused one. -/
theorem pairingTarget_alone {controllerId : ControllerId} {target : Nat}
    (distinct : Distinct table)
    (found : pairingTarget table controllerId = some target) {other : Nat}
    {entry : Controller} (present : table.entries[other]? = some entry)
    (valid : entry.valid = true) (same : entry.id = controllerId) :
    other = target := by
  unfold pairingTarget at found
  cases indexed : table.indexOf controllerId with
  | some index =>
    rw [indexed] at found
    cases found
    rcases indexOf_some indexed with ⟨held, heldAt, heldValid, heldId⟩
    exact distinct other target entry held present heldAt valid
      heldValid (same.trans heldId.symm)
  | none =>
    refine absurd ?_ (not_carries_of_indexOf indexed entry.root)
    exact ⟨entry, List.mem_of_getElem? present, valid, same, rfl⟩

theorem tableAfter_distinct (distinct : Distinct ram.material.controllers) :
    Distinct (tableAfter ram change) := by
  have cleared (index : Nat) :
      Distinct (ram.material.controllers.set index .zeroed) := by
    refine distinct_set distinct ?_
    intro valid
    cases valid
  have revoked (controllerId : ControllerId) :
      Distinct (tableAfter ram (.revokeAuthenticated controllerId)) := by
    simp only [tableAfter]
    split
    · exact distinct
    · exact cleared _
  cases change with
  | commit pairing =>
    simp only [tableAfter]
    cases paired : pairedTable ram pairing with
    | none => exact distinct
    | some table =>
      rcases pairedTable_some paired with ⟨target, found, rfl⟩
      refine distinct_set distinct ?_
      intro _ other entry present valid same
      exact pairingTarget_alone distinct found present valid same
  | revoke controllerId physicalConfirmed => exact revoked controllerId
  | revokeAuthenticated controllerId => exact revoked controllerId
  | revokeAll physicalConfirmed =>
    simp only [tableAfter]
    split
    · exact distinct_empty
    · exact distinct

theorem plan_distinct (distinct : Distinct ram.material.controllers)
    {goal : Nat × Material} (member : goal ∈ plan ram change) :
    Distinct goal.2.controllers := by
  rcases (plan_within member).2 with same | changed
  · rw [same]
    exact distinct
  · rw [changed]
    exact tableAfter_distinct distinct

/-- The change is a pairing of this controller with this root. -/
def Pairs (controllerId : ControllerId) (root : Secret) :
    ControllerChange → Prop
  | .commit pairing =>
    pairing.controllerId = controllerId ∧ pairing.pendingRoot = root
  | _ => False

theorem tableAfter_not_carries {controllerId : ControllerId} {root : Secret}
    (absent : ¬Carries ram.material.controllers controllerId root)
    (different : ¬Pairs controllerId root change) :
    ¬Carries (tableAfter ram change) controllerId root := by
  have revoked (other : ControllerId) :
      ¬Carries (tableAfter ram (.revokeAuthenticated other)) controllerId
        root := by
    simp only [tableAfter]
    split
    · exact absent
    · exact not_carries_zeroed absent
  cases change with
  | commit pairing =>
    simp only [tableAfter]
    cases paired : pairedTable ram pairing with
    | none => exact absent
    | some table =>
      rcases pairedTable_some paired with ⟨target, _, rfl⟩
      exact not_carries_set absent different
  | revoke other physicalConfirmed => exact revoked other
  | revokeAuthenticated other => exact revoked other
  | revokeAll physicalConfirmed =>
    simp only [tableAfter]
    split
    · exact not_carries_empty _ _
    · exact absent

theorem plan_not_carries {controllerId : ControllerId} {root : Secret}
    (absent : ¬Carries ram.material.controllers controllerId root)
    (different : ¬Pairs controllerId root change)
    {goal : Nat × Material} (member : goal ∈ plan ram change) :
    ¬Carries goal.2.controllers controllerId root := by
  rcases (plan_within member).2 with same | changed
  · rw [same]
    exact absent
  · rw [changed]
    exact tableAfter_not_carries absent different

end Plans

/-! ## Revocations -/

/-- The change revokes this controller. -/
def Revokes (controllerId : ControllerId) : ControllerChange → Prop
  | .revoke other _ => other = controllerId
  | .revokeAuthenticated other => other = controllerId
  | .revokeAll _ => True
  | .commit _ => False

/-- No entry of the table is in use. -/
def Unused (table : ControllerTable) : Prop :=
  table.entries.any (·.valid) = false

theorem Unused.not_carries (unused : Unused table) (controllerId : ControllerId)
    (root : Secret) : ¬Carries table controllerId root := by
  rintro ⟨controller, member, valid, _⟩
  have used : table.entries.any (·.valid) = true :=
    List.any_eq_true.mpr ⟨controller, member, valid⟩
  rw [unused] at used
  cases used

/--
The inputs under which a revocation is permanent: when every controller of a
begun store is revoked, the members' table is in use, a retirement is pending,
or no slot holds a record with a controller.
-/
def Swept (platform : Platform) (hardwareId : ByteVec 8)
    (device : Device) : Input → Prop
  | .change (.revokeAll true) _ =>
    device.ram.begun = true →
      ¬Unused device.ram.material.controllers ∨
        device.ram.material.controllerRetirementPending = true ∨
        ∀ key, platform.deriveWrappingKey hardwareId = some key →
          SlotsHave platform key Unused device.slots
  | _ => True

variable {rest : Material → List (Nat × Material)}

theorem resumePlan_settles (settles : ∀ current : Material,
      current.controllers = material.controllers → rest current ≠ [] →
        Settles material.controllers (rest current))
    (nonempty : resumePlan rest material ≠ []) :
    Settles material.controllers (resumePlan rest material) := by
  unfold resumePlan at nonempty ⊢
  split
  · cases remaining : rest (finished material) with
    | nil => rfl
    | cons head tail =>
      have later := settles (finished material) rfl
        (by rw [remaining]; simp)
      rw [remaining] at later
      exact later
  · rename_i settled
    rw [if_neg settled] at nonempty
    exact settles material rfl nonempty

/-- The plan of a revocation settles. -/
theorem revoke_settles {ram : Ram} {change : ControllerChange}
    {controllerId : ControllerId} (revokes : Revokes controllerId change)
    (nonempty : plan ram change ≠ []) :
    Settles ram.material.controllers (plan ram change) := by
  have retire (material : Material) (table old : ControllerTable) :
      Settles old (retirePlan material table) := rfl
  have revoked (other : ControllerId) (current : Material)
      (filled : revokePlan other current ≠ []) (old : ControllerTable) :
      Settles old (revokePlan other current) := by
    unfold revokePlan at filled ⊢
    split
    · rename_i missing
      rw [missing] at filled
      exact absurd rfl filled
    · exact retire _ _ _
  cases change with
  | commit pairing => exact absurd revokes id
  | revoke other physicalConfirmed =>
    simp only [plan] at nonempty ⊢
    split at nonempty
    · rename_i admitted
      rw [if_pos admitted]
      exact resumePlan_settles
        (fun current _ filled => revoked other current filled _) nonempty
    · exact absurd rfl nonempty
  | revokeAuthenticated other =>
    simp only [plan] at nonempty ⊢
    split at nonempty
    · rename_i admitted
      rw [if_pos admitted]
      exact resumePlan_settles
        (fun current _ filled => revoked other current filled _) nonempty
    · exact absurd rfl nonempty
  | revokeAll physicalConfirmed =>
    simp only [plan] at nonempty ⊢
    split at nonempty
    · rename_i admitted
      rw [if_pos admitted]
      refine resumePlan_settles ?_ nonempty
      intro current _ filled
      unfold revokeEveryPlan at filled ⊢
      split
      · exact retire _ _ _
      · rename_i unused
        rw [if_neg unused] at filled
        exact absurd rfl filled
    · exact absurd rfl nonempty

/-- The table behind a chain is that of the plan without the resumption. -/
theorem finalMaterial_resumePlan :
    (∃ current : Material, current.controllers = material.controllers ∧
        finalMaterial material (resumePlan rest material) =
          finalMaterial current (rest current)) := by
  unfold resumePlan
  split
  · exact ⟨finished material, rfl, rfl⟩
  · exact ⟨material, rfl, rfl⟩

/-- A revocation that succeeds ends on a table without the controller. -/
theorem revoke_final {ram : Ram} {change : ControllerChange}
    {controllerId : ControllerId} (revokes : Revokes controllerId change)
    (distinct : Distinct ram.material.controllers)
    (nonempty : plan ram change ≠ []) (root : Secret) :
    ¬Carries (finalMaterial ram.material (plan ram change)).controllers
      controllerId root := by
  have revoked (current : Material)
      (same : current.controllers = ram.material.controllers) :
      ¬Carries (finalMaterial current
        (revokePlan controllerId current)).controllers
        controllerId root := by
    unfold revokePlan
    rw [same]
    split
    · rename_i missing
      simp only [finalMaterial, List.foldl_nil, same]
      exact not_carries_of_indexOf missing root
    · rename_i target found
      exact not_carries_cleared distinct found
  cases change with
  | commit pairing => exact absurd revokes id
  | revoke other physicalConfirmed =>
    cases revokes
    simp only [plan] at nonempty ⊢
    split at nonempty
    · rename_i admitted
      rw [if_pos admitted]
      rcases @finalMaterial_resumePlan ram.material
        (revokePlan controllerId) with ⟨current, same, equal⟩
      rw [equal]
      exact revoked current same
    · exact absurd rfl nonempty
  | revokeAuthenticated other =>
    cases revokes
    simp only [plan] at nonempty ⊢
    split at nonempty
    · rename_i admitted
      rw [if_pos admitted]
      rcases @finalMaterial_resumePlan ram.material
        (revokePlan controllerId) with ⟨current, same, equal⟩
      rw [equal]
      exact revoked current same
    · exact absurd rfl nonempty
  | revokeAll physicalConfirmed =>
    simp only [plan] at nonempty ⊢
    split at nonempty
    · rename_i admitted
      rw [if_pos admitted]
      rcases @finalMaterial_resumePlan ram.material revokeEveryPlan with
        ⟨current, same, equal⟩
      rw [equal]
      unfold revokeEveryPlan
      split
      · exact not_carries_empty _ _
      · rename_i unused
        rw [Bool.not_eq_true] at unused
        exact Unused.not_carries unused _ _
    · exact absurd rfl nonempty

/-- A revocation of every controller without a plan finds nothing in the members. -/
theorem unused_of_empty_plan {ram : Ram} (begun : ram.begun = true)
    (empty : plan ram (.revokeAll true) = []) :
    ram.material.controllerRetirementPending = false ∧
      Unused ram.material.controllers := by
  simp only [plan, begun, resumePlan, Bool.and_true, if_true] at empty
  cases pending : ram.material.controllerRetirementPending with
  | true =>
    rw [pending] at empty
    cases empty
  | false =>
    rw [pending] at empty
    refine ⟨rfl, ?_⟩
    by_contra used
    simp only [Unused, Bool.not_eq_false] at used
    simp [revokeEveryPlan, used, retirePlan] at empty

/-! ## Runs -/

variable {slots : Slot → Bytes}

section Runs

variable {device : Device} {controllerId : ControllerId} {root : Secret}

/-- Some slot holds a record with this controller and this root. -/
def Recorded (platform : Platform) (hardwareId : ByteVec 8)
    (device : Device) (controllerId : ControllerId) (root : Secret) :
    Prop :=
  ∃ key slot table, platform.deriveWrappingKey hardwareId = some key ∧
    SlotTable platform key (device.slots slot) table ∧
      Carries table controllerId root

/-- A single attempt leaves the old table in the members or its own in a slot. -/
theorem Attempts.one {before after : Machine} {goal : Material}
    {cost : Nat} {result : SecurityResult}
    (attempts : Attempts platform before [(cost, goal)] (.done result after)) :
    after.ram.material = before.ram.material ∨
      after.ram.material = goal ∧
        ∃ slot, SlotTable platform before.ram.wrappingKey
          (after.slots slot) goal.controllers := by
  cases attempts with
  | stop attempt stopped =>
    cases attempt with
    | stored => exact absurd rfl (stopped _)
    | failed notOk unready slots left ram fault =>
      rw [ram]
      exact .inl rfl
  | next attempt later =>
    cases later with
    | done =>
      cases attempt with
      | failed notOk => exact absurd rfl notOk
      | stored written slots ram storage random calls =>
        refine .inr ⟨by rw [ram]; rfl, before.ram.target, ?_⟩
        rw [slots, Function.update_self]
        exact SlotTable.of_sealed written

/-- A pairing brings a controller into the store only through a slot. -/
theorem commit_recorded (opens : platform.OpensSealed)
    (tidy : Tidy platform hardwareId device) (tables : Tables platform hardwareId
      (fun table => ¬Carries table controllerId root) device)
    (unrecorded : ¬Recorded platform hardwareId (device.step platform hardwareId
        (.change (.commit pairing) environment)) controllerId root) :
    Tables platform hardwareId
      (fun table => ¬Carries table controllerId root)
      (device.step platform hardwareId
        (.change (.commit pairing) environment)) := by
  have slots : ∀ key,
      platform.deriveWrappingKey hardwareId = some key →
      SlotsHave platform key
        (fun table => ¬Carries table controllerId root)
        (device.step platform hardwareId
          (.change (.commit pairing) environment)).slots := by
    intro key derived slot table decodes carries
    exact unrecorded ⟨key, slot, table, derived, decodes, carries⟩
  refine ⟨?_, slots⟩
  have follows := change_follows opens (device.machine environment)
    (.commit pairing) tidy.active
  simp only [Device.step, Device.call] at slots ⊢
  generalize (ControllerChange.commit pairing).program platform
    (device.machine environment) = ended at follows slots ⊢
  rcases follows with ⟨nonempty, attempts⟩ | ⟨_, result, rfl, _⟩
  · have begun : device.ram.begun = true := begun_of_plan nonempty
    cases ended with
    | cut middle =>
      intro restarted
      cases restarted
    | done result middle =>
      intro _
      have planned : ∃ goal, plan (device.machine environment).ram
          (.commit pairing) = [(2, goal)] := by
        simp only [plan] at nonempty ⊢
        split
        · rename_i missing
          rw [missing] at nonempty
          exact absurd rfl nonempty
        · exact ⟨_, rfl⟩
      rcases planned with ⟨goal, planned⟩
      rw [planned] at attempts
      rcases Attempts.one attempts with same | ⟨same, slot, decodes⟩
      · simp only [settle, same]
        exact tables.members begun
      · simp only [settle, same]
        exact slots _ (tidy begun).1 slot _ decodes
  · exact tables.members

/-- A revocation that returns `Ok` leaves the controller in no table. -/
theorem revoke_removes (opens : platform.OpensSealed)
    {change : ControllerChange} {after : Device}
    (tidy : Tidy platform hardwareId device)
    (distinct : Tables platform hardwareId Distinct device)
    (revokes : Revokes controllerId change)
    (swept : Swept platform hardwareId device (.change change environment))
    (run : device.call (change.program platform) environment =
      .done .ok after) (root : Secret) :
    Tables platform hardwareId
      (fun table => ¬Carries table controllerId root) after := by
  rcases Device.call_done run with ⟨machine, ended, rfl⟩
  have follows := change_follows opens (device.machine environment)
    change tidy.active
  rw [ended] at follows
  rcases follows with ⟨nonempty, attempts⟩ | ⟨empty, result, equal, only⟩
  · have begun : device.ram.begun = true := begun_of_plan nonempty
    rcases tidy begun with ⟨derived, aligned⟩
    have kept : Kept platform device.ram.wrappingKey (fun _ => True)
        (device.machine environment) :=
      ⟨rfl, trivial, fun _ _ _ => trivial, aligned⟩
    rcases Attempts.swept kept (revoke_settles revokes nonempty)
      attempts with ⟨slots, material⟩
    have absent := revoke_final revokes (distinct.members begun) nonempty
      root
    constructor
    · intro _
      simp only [material]
      exact absent
    · intro key derivedKey slot table decodes
      rw [derived] at derivedKey
      cases derivedKey
      rw [slots slot table decodes]
      exact absent
  · cases equal
    rcases only rfl with ⟨begun, rfl⟩
    have begun : device.ram.begun = true := begun
    rcases unused_of_empty_plan begun empty with ⟨settled, unused⟩
    constructor
    · intro _
      exact unused.not_carries controllerId root
    · intro key derived slot table decodes
      rcases swept begun with used | pending | unusedSlots
      · exact absurd unused used
      · rw [settled] at pending
        cases pending
      · exact (unusedSlots key derived slot table decodes).not_carries
          controllerId root

/-- A tidy board without doubled identities. -/
def Orderly (platform : Platform) (hardwareId : ByteVec 8)
    (device : Device) : Prop :=
  Tables platform hardwareId Distinct device ∧
    Tidy platform hardwareId device

/-- Every run keeps the board orderly. -/
theorem exec_orderly (opens : platform.OpensSealed) (genuine : ∀ key,
      platform.deriveWrappingKey hardwareId = some key →
        SlotsHave platform key Distinct slots) (history : List Input) :
    Orderly platform hardwareId
      (exec (Device.step platform hardwareId) ⟨.cleared, slots⟩ history) := by
  apply exec_invariant
  · exact Tables.unbegun rfl genuine
  · rintro device input ⟨tables, tidy⟩
    refine step_tables opens distinct_empty tidy tables ?_
    rintro change environment rfl goal member
    have begun : device.ram.begun = true :=
      begun_of_plan (List.ne_nil_of_mem member)
    exact plan_distinct (tables.members begun) member

/-- Some pairing of the run put this controller with this root into a slot. -/
def PairedAgain (platform : Platform) (hardwareId : ByteVec 8)
    (start : Device) (controllerId : ControllerId) (root : Secret)
    (later : List Input) : Prop :=
  ∃ earlier pairing environment rest,
    later = earlier ++ .change (.commit pairing) environment :: rest ∧
      pairing.controllerId = controllerId ∧
      pairing.pendingRoot = root ∧
      Recorded platform hardwareId
        (exec (Device.step platform hardwareId) start
          (earlier ++ [.change (.commit pairing) environment]))
        controllerId root

theorem PairedAgain.later {start : Device} {later : List Input}
    (paired : PairedAgain platform hardwareId start controllerId root
      later) (input : Input) :
    PairedAgain platform hardwareId start controllerId root
      (later ++ [input]) := by
  rcases paired with
    ⟨earlier, pairing, environment, rest, rfl, facts⟩
  exact ⟨earlier, pairing, environment, rest ++ [input], by simp, facts⟩

/-- An absent controller stays away until a pairing records it. -/
theorem exec_absent (opens : platform.OpensSealed) {start : Device}
    (tidy : Tidy platform hardwareId start) (tables : Tables platform hardwareId
      (fun table => ¬Carries table controllerId root) start) (later : List Input) :
    PairedAgain platform hardwareId start controllerId root later ∨
      Tables platform hardwareId
          (fun table => ¬Carries table controllerId root)
          (exec (Device.step platform hardwareId) start later) ∧
        Tidy platform hardwareId
          (exec (Device.step platform hardwareId) start later) := by
  induction later using List.reverseRecOn with
  | nil => exact .inr ⟨tables, tidy⟩
  | append_singleton later input induction =>
    rcases induction with paired | ⟨tables, tidy⟩
    · exact .inl (paired.later input)
    rw [exec_concat]
    by_cases pairs : ∃ pairing environment,
        input = .change (.commit pairing) environment ∧
          Pairs controllerId root (.commit pairing)
    · rcases pairs with ⟨pairing, environment, rfl, same⟩
      have tidied := (step_tables opens trivial tidy
        ⟨fun _ => trivial, fun _ _ _ _ _ => trivial⟩
        (fun _ _ _ _ _ => trivial)
        : Tables platform hardwareId (fun _ => True)
            ((exec (Device.step platform hardwareId) start
              later).step platform hardwareId
                (.change (.commit pairing) environment)) ∧ _).2
      by_cases recorded : Recorded platform hardwareId
          ((exec (Device.step platform hardwareId) start later).step
            platform hardwareId (.change (.commit pairing) environment))
          controllerId root
      · refine .inl ⟨later, pairing, environment, [], rfl, same.1, same.2, ?_⟩
        rw [exec_concat]
        exact recorded
      · exact .inr ⟨commit_recorded opens tidy tables recorded, tidied⟩
    · refine .inr (step_tables opens (not_carries_empty _ _) tidy tables ?_)
      rintro change environment rfl goal member
      have begun : (exec (Device.step platform hardwareId) start
          later).ram.begun = true :=
        begun_of_plan (List.ne_nil_of_mem member)
      refine plan_not_carries (tables.members begun) ?_ member
      intro same
      cases change with
      | commit pairing => exact pairs ⟨pairing, environment, rfl, same⟩
      | revoke => exact same
      | revokeAuthenticated => exact same
      | revokeAll => exact same

theorem carries_of_found {ram : Ram} {role : ControllerRole}
    (found : ram.findControllerRoot controllerId = some (root, role)) :
    ram.begun = true ∧
      Carries ram.material.controllers controllerId root := by
  unfold Ram.findControllerRoot at found
  split at found
  · rename_i begun
    rcases Option.map_eq_some_iff.mp found with
      ⟨controller, listed, equal⟩
    cases equal
    have held := List.find?_some listed
    refine ⟨begun, controller, List.mem_of_find?_eq_some listed, ?_⟩
    rcases holds_iff.mp held with ⟨valid, same⟩
    exact ⟨valid, same, rfl⟩
  · cases found

end Runs

/--
Revocation.  The board starts on slots whose records have distinct identities,
as a blank board does.  When a run in which every revocation of all controllers
is swept ends with a revocation that returns `Ok` for a controller, no slot
holds a record with it, and whatever happens later it is found with a root only
after a pairing has recorded that root.
-/
theorem revocation_permanent (opens : platform.OpensSealed)
    {slots : Slot → Bytes} {history : List Input}
    {change : ControllerChange} {environment : Environment}
    {after : Device} {controllerId : ControllerId} (genuine : ∀ key,
      platform.deriveWrappingKey hardwareId = some key →
        SlotsHave platform key Distinct slots)
    (swept : Throughout (Device.step platform hardwareId)
      ⟨.cleared, slots⟩ (Swept platform hardwareId)
      (history ++ [.change change environment]))
    (revokes : Revokes controllerId change)
    (run : (exec (Device.step platform hardwareId) ⟨.cleared, slots⟩
      history).call (change.program platform) environment = .done .ok after) :
    (∀ root, ¬Recorded platform hardwareId after controllerId root) ∧
      ∀ later root role,
        (exec (Device.step platform hardwareId) after
            later).ram.findControllerRoot controllerId =
            some (root, role) →
          PairedAgain platform hardwareId after controllerId root
            later := by
  rcases exec_orderly opens genuine history with ⟨distinct, tidy⟩
  have removed (root : Secret) := revoke_removes opens tidy distinct
    revokes swept.last run root
  have tidied : Tidy platform hardwareId after := by
    have orderly := exec_orderly opens genuine
      (history ++ [.change change environment])
    rw [exec_concat, Device.step, run] at orderly
    exact orderly.2
  constructor
  · rintro root ⟨key, slot, table, derived, decodes, carries⟩
    exact (removed root).slots key derived slot table decodes carries
  · intro later root role found
    rcases carries_of_found found with ⟨begun, carries⟩
    rcases exec_absent opens tidied (removed root) later with
      paired | ⟨absent, _⟩
    · exact paired
    · exact absurd carries (absent.members begun)

/-- A controller that was paired and revoked on a fresh board. -/
theorem revoked_pairing_permanent :
    ∃ after,
      (exec (Device.step maskingPlatform sampleHardwareId)
          ⟨.cleared, fun _ => []⟩
          [.begin calmEnvironment,
            .change (.commit samplePairing) calmEnvironment]).call
        ((ControllerChange.revoke samplePairing.controllerId true).program
          maskingPlatform) calmEnvironment = .done .ok after ∧
      ∀ root, ¬Recorded maskingPlatform sampleHardwareId after
        samplePairing.controllerId root := by
  have run : ∃ after,
      (exec (Device.step maskingPlatform sampleHardwareId)
          ⟨.cleared, fun _ => []⟩
          [.begin calmEnvironment,
            .change (.commit samplePairing) calmEnvironment]).call
        ((ControllerChange.revoke samplePairing.controllerId true).program
          maskingPlatform) calmEnvironment = .done .ok after :=
    Outcome.eq_done (by decide +kernel)
  rcases run with ⟨after, run⟩
  refine ⟨after, run, ?_⟩
  have genuine : ∀ key,
      maskingPlatform.deriveWrappingKey sampleHardwareId = some key →
        SlotsHave maskingPlatform key Distinct fun _ => [] := by
    intro key _ slot table decodes
    exact absurd unreadable_nil.1 decodes.readable
  have swept : Throughout
      (Device.step maskingPlatform sampleHardwareId)
      ⟨.cleared, fun _ => []⟩ (Swept maskingPlatform sampleHardwareId)
      ([.begin calmEnvironment, .change (.commit samplePairing) calmEnvironment] ++
        [.change (.revoke samplePairing.controllerId true) calmEnvironment]) := by
    exact ((Throughout.nil.concat trivial).concat trivial).concat trivial
  exact (revocation_permanent maskingPlatform_opens genuine swept rfl run).1

/--
The revocation of every controller returns `Ok` and the next start loads the
pairing that was reported as failed before it.
-/
theorem unread_pairing_survives_revocation :
    ((settle unreadPairing).call
        ((ControllerChange.revokeAll true).program maskingPlatform)
        calmEnvironment).result? = some .ok ∧
      (exec (Device.step maskingPlatform sampleHardwareId) (settle unreadPairing)
        [.change (.revokeAll true) calmEnvironment,
          .begin calmEnvironment]).ram.findControllerRoot
            samplePairing.controllerId =
          some (samplePairing.pendingRoot, samplePairing.role) := by
  decide +kernel

/-! ## Where controllers come from -/

section Provenance

variable {history : List Input} {table : ControllerTable}

/-- A verified pairing over a secure link has made this entry. -/
def Paired (history : List Input) (controller : Controller) : Prop :=
  ∃ pairing environment,
    .change (.commit pairing) environment ∈ history ∧
      pairing.facts.all = true ∧ pairing.pairCommitVerified = true ∧
      controller = pairing.controller

def AllPaired (history : List Input) (table : ControllerTable) : Prop :=
  ∀ controller ∈ table.entries, controller.valid = true →
    Paired history controller

theorem AllPaired.set (paired : AllPaired history table) (index : Nat)
    {entry : Controller} (made : entry.valid = true → Paired history entry) :
    AllPaired history (table.set index entry) := by
  intro controller member valid
  rcases List.mem_or_eq_of_mem_set member with old | rfl
  · exact paired controller old valid
  · exact made valid

theorem AllPaired.of_absent (absent : ∀ id root, ¬Carries table id root) :
    AllPaired history table :=
  fun controller member valid => absurd ⟨controller, member, valid, rfl, rfl⟩
    (absent controller.id controller.root)

theorem tableAfter_paired {ram : Ram} {change : ControllerChange}
    {environment : Environment}
    (paired : AllPaired history ram.material.controllers)
    (called : .change change environment ∈ history) :
    AllPaired history (tableAfter ram change) := by
  have revoked (other : ControllerId) :
      AllPaired history (tableAfter ram (.revokeAuthenticated other)) := by
    simp only [tableAfter]
    split
    · exact paired
    · exact paired.set _ (Bool.noConfusion ·)
  cases change with
  | commit pairing =>
    simp only [tableAfter, pairedTable]
    split
    · rename_i admitted
      simp only [Bool.and_eq_true] at admitted
      obtain ⟨⟨⟨⟨_, facts⟩, verified⟩, _⟩, _⟩ := admitted
      cases pairingTarget ram.material.controllers pairing.controllerId with
      | none => exact paired
      | some target =>
        exact paired.set target fun _ =>
          ⟨pairing, environment, called, facts, verified, rfl⟩
    · exact paired
  | revoke other physicalConfirmed => exact revoked other
  | revokeAuthenticated other => exact revoked other
  | revokeAll physicalConfirmed =>
    simp only [tableAfter]
    split
    · exact .of_absent not_carries_empty
    · exact paired

/--
No controller comes from anywhere but a pairing.  The board starts on slots
without controllers.  Whatever fails, is cut or is corrupted, every entry in use
of the members' table and of the slots is the one a pairing of the run made.
-/
theorem controllers_paired (opens : platform.OpensSealed)
    (blank : ∀ key, platform.deriveWrappingKey hardwareId = some key →
      SlotsHave platform key Unused slots) (history : List Input) :
    Tables platform hardwareId (AllPaired history)
      (exec (Device.step platform hardwareId) ⟨.cleared, slots⟩ history) := by
  have listed : Throughout (Device.step platform hardwareId)
      ⟨.cleared, slots⟩ (fun _ input => input ∈ history) history := by
    intro earlier input later equal
    simp [equal]
  refine (@exec_throughout _ _ _ _ _ _
    (fun device => Tables platform hardwareId (AllPaired history) device ∧
      Tidy platform hardwareId device) ?_ ?_ listed).1
  · refine Tables.unbegun rfl fun key derived slot table decodes => ?_
    exact .of_absent (blank key derived slot table decodes).not_carries
  · rintro device input ⟨tables, tidy⟩ called
    refine step_tables opens (.of_absent not_carries_empty) tidy tables ?_
    rintro change environment rfl goal member
    have paired := tables.members (begun_of_plan (List.ne_nil_of_mem member))
    rcases (plan_within member).2 with same | changed
    · rw [same]
      exact paired
    · rw [changed]
      exact tableAfter_paired paired called

end Provenance

theorem sample_controllers_paired :
    let history := [.begin calmEnvironment,
      .change (.commit samplePairing) calmEnvironment, .powerLoss,
      .begin calmEnvironment]
    Tables maskingPlatform sampleHardwareId (AllPaired history)
      (exec (Device.step maskingPlatform sampleHardwareId)
        ⟨.cleared, fun _ => []⟩ history) := by
  refine controllers_paired maskingPlatform_opens ?_ _
  intro key _ slot table decodes
  exact absurd unreadable_nil.1 decodes.readable

end Kitsu.Security.Revocation
