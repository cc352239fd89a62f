import Kitsu.Lib.Run
import Kitsu.Security.Boot

/-!
# Crash atomicity of the controller store

When every storage call completes or is cut by a power loss, the store is
`Durable` between calls: a start can load a record, and a begun store's members
are that record.  A change that is interrupted anywhere leaves a record with the
device's identity and either the table before the change or the table after it,
interrupted starts keep it, and the first start that completes returns it.
-/

namespace Kitsu.Security.CrashAtomicity

open Kitsu.Lib.ByteString
open Kitsu.Lib.Crash
open Kitsu.Lib.Run
open Kitsu.Lib.TwoSlot
open Kitsu.Ble.Permissions
open Kitsu.Security.Record
open Kitsu.Security.Store
open Kitsu.Security.Transaction
open Kitsu.Security.Boot
open Kitsu.Security.Anchor

variable {platform : Platform} {hardwareId : ByteVec 8}

/-! ## Chains of attempts -/

/-- The material after a chain of attempts that all succeeded. -/
def finalMaterial (start : Material) (goals : List (Nat × Material)) :
    Material :=
  goals.foldl (fun _ goal => goal.2) start

variable {after : Machine}

section Chains

variable {before : Machine} {goals : List (Nat × Material)}
  {recorded : Loaded}

/-- A chain that succeeds ends on the record of its last goal. -/
theorem Attempts.stored
    (anchored : Anchored platform hardwareId before.ram before.slots recorded)
    (found : loaded? platform hardwareId before.slots = some recorded)
    (current : before.ram.material = recorded.material)
    (attempts : Attempts platform before goals (.done .ok after)) :
    ∃ last, Anchored platform hardwareId after.ram after.slots last ∧
      loaded? platform hardwareId after.slots = some last ∧
      last.material = finalMaterial recorded.material goals ∧
      after.ram.material = last.material ∧
      after.ram.begun = before.ram.begun ∧
      (last.retiredMaterialPresent = true →
        goals = [] ∧ recorded.retiredMaterialPresent = true) := by
  generalize equal : Outcome.done SecurityResult.ok after = outcome
    at attempts
  induction attempts generalizing recorded with
  | done =>
    cases equal
    exact ⟨recorded, anchored, found, rfl, current, rfl,
      fun retired => ⟨rfl, retired⟩⟩
  | stop attempt stopped => exact absurd equal.symm (stopped after)
  | next attempt later induction =>
    rcases Attempt.anchored anchored attempt with
      ⟨anchoredNext, foundNext, material, begun⟩
    rcases induction anchoredNext foundNext material equal with
      ⟨last, lastAnchored, lastFound, final, members, same, retired⟩
    refine ⟨last, lastAnchored, lastFound, final, members, same.trans begun, ?_⟩
    intro present
    exact absurd (retired present).2 (by simp [Loaded.next])

/-- Without faults a chain succeeds unless it is cut. -/
theorem Attempts.ok_of_faultFree {result : SecurityResult}
    (seals : Seals platform) (faultFree : FaultFree before)
    (storable : ∀ goal ∈ goals, goal.2.controllers.Storable)
    (attempts : Attempts platform before goals (.done result after)) :
    result = .ok := by
  generalize equal : Outcome.done result after = outcome at attempts
  induction attempts with
  | done => cases equal; rfl
  | stop attempt stopped =>
    subst equal
    cases attempt with
    | stored => rfl
    | failed notOk unready slots left ram fault =>
      exact absurd (storable _ List.mem_cons_self)
        (fault seals faultFree)
  | next attempt later induction =>
    refine induction ?_ ?_ equal
    · cases attempt with
      | failed notOk => exact absurd rfl notOk
      | stored written slots ram storage random calls =>
        exact faultFree.later storage
          (random.trans List.drop_one.symm)
    · intro goal member
      exact storable goal (List.mem_cons_of_mem _ member)

/-- A chain that is cut leaves the record it started from or one of its goals. -/
theorem Attempts.interrupted {after : Machine}
    (anchored : Anchored platform hardwareId before.ram before.slots recorded)
    (found : loaded? platform hardwareId before.slots = some recorded)
    (fits : Fits before.slots)
    (attempts : Attempts platform before goals (.cut after)) :
    Fits after.slots ∧
      ∃ left, loaded? platform hardwareId after.slots = some left ∧
        (left.material = recorded.material ∨
          ∃ goal ∈ goals, left.material = goal.2) := by
  generalize equal : Outcome.cut after = outcome at attempts
  induction attempts generalizing recorded with
  | done => cases equal
  | stop attempt stopped =>
    subst equal
    cases attempt with
    | interrupted slots left =>
      refine ⟨LeftBehind.fits fits left slots, ?_⟩
      rcases LeftBehind.loaded? anchored left slots with
        same | kept | stored
      · exact ⟨recorded, by rw [same]; exact found, .inl rfl⟩
      · exact ⟨recorded, kept, .inl rfl⟩
      · exact ⟨_, stored, .inr ⟨_, List.mem_cons_self, rfl⟩⟩
  | next attempt later induction =>
    rcases Attempt.anchored anchored attempt with
      ⟨anchoredNext, foundNext, _, _⟩
    have fitsNext := by
      cases attempt with
      | failed notOk => exact absurd rfl notOk
      | stored written slots ram storage random calls =>
        exact LeftBehind.fits fits (.inr (.inr written)) slots
    rcases induction anchoredNext foundNext fitsNext equal with
      ⟨fitsLast, left, foundLast, material⟩
    refine ⟨fitsLast, left, foundLast, .inr ?_⟩
    rcases material with same | ⟨goal, member, same⟩
    · exact ⟨_, List.mem_cons_self, same⟩
    · exact ⟨goal, List.mem_cons_of_mem _ member, same⟩

/-- Every slot a successful chain leaves can be read in one piece. -/
theorem Attempts.fits {after : Machine} (fits : Fits before.slots)
    (attempts : Attempts platform before goals (.done .ok after)) :
    Fits after.slots := by
  generalize equal : Outcome.done SecurityResult.ok after = outcome
    at attempts
  induction attempts with
  | done => cases equal; exact fits
  | stop attempt stopped => exact absurd equal.symm (stopped after)
  | next attempt later induction =>
    refine induction ?_ equal
    cases attempt with
    | failed notOk => exact absurd rfl notOk
    | stored written slots ram storage random calls =>
      exact LeftBehind.fits fits (.inr (.inr written)) slots

end Chains

/-! ## What the plans store -/

/-- The two materials carry the same device identity. -/
def SameIdentity (first second : Material) : Prop :=
  first.deviceId = second.deviceId ∧
    first.deviceSecret = second.deviceSecret

/-- The table after a change that succeeds. -/
def tableAfter (ram : Ram) : ControllerChange → ControllerTable
  | .commit pairing =>
    (pairedTable ram pairing).getD ram.material.controllers
  | .revoke controllerId _ | .revokeAuthenticated controllerId =>
    match ram.material.controllers.indexOf controllerId with
    | none => ram.material.controllers
    | some target => ram.material.controllers.set target .zeroed
  | .revokeAll _ =>
    if ram.material.controllers.entries.any (·.valid) then .empty
    else ram.material.controllers

variable {goal : Nat × Material}

/-- A start stores only what it loaded. -/
theorem Loaded.plan_same {loaded : Loaded} (member : goal ∈ loaded.plan) :
    SameIdentity goal.2 loaded.material ∧
      goal.2.controllers = loaded.material.controllers := by
  rcases List.mem_append.mp member with member | member
  · split at member
    · simp only [List.mem_singleton] at member
      subst member
      exact ⟨⟨rfl, rfl⟩, rfl⟩
    · simp at member
  · split at member
    · simp only [List.mem_cons, List.not_mem_nil, or_false] at member
      rcases member with rfl | rfl
      · exact ⟨⟨rfl, rfl⟩, rfl⟩
      · exact ⟨⟨rfl, rfl⟩, rfl⟩
    · simp at member

variable {material : Material} {table : ControllerTable}

theorem retirePlan_same (member : goal ∈ retirePlan material table) :
    SameIdentity goal.2 material ∧ goal.2.controllers = table := by
  simp only [retirePlan, List.mem_cons, List.not_mem_nil,
    or_false] at member
  rcases member with rfl | rfl
  · exact ⟨⟨rfl, rfl⟩, rfl⟩
  · exact ⟨⟨rfl, rfl⟩, rfl⟩

/-- A goal keeps the identity and has the old table or the given one. -/
def Within (material : Material) (table : ControllerTable)
    (goal : Material) : Prop :=
  SameIdentity goal material ∧
    (goal.controllers = material.controllers ∨ goal.controllers = table)

theorem resumePlan_within {rest : Material → List (Nat × Material)}
    (within : ∀ current : Material, SameIdentity current material →
      current.controllers = material.controllers →
        ∀ goal ∈ rest current, Within material table goal.2)
    (member : goal ∈ resumePlan rest material) : Within material table goal.2 := by
  unfold resumePlan at member
  split at member
  · rcases List.mem_cons.mp member with rfl | member
    · exact ⟨⟨rfl, rfl⟩, .inl rfl⟩
    · exact within (finished material) ⟨rfl, rfl⟩ rfl goal member
  · exact within material ⟨rfl, rfl⟩ rfl goal member

theorem revokePlan_within {current : Material} {controllerId : ControllerId}
    (identity : SameIdentity current material)
    (table : current.controllers = material.controllers)
    (member : goal ∈ revokePlan controllerId current) :
    Within material
      (match material.controllers.indexOf controllerId with
        | none => material.controllers
        | some target => material.controllers.set target .zeroed)
      goal.2 := by
  unfold revokePlan at member
  rw [table] at member
  cases found : material.controllers.indexOf controllerId with
  | none =>
    rw [found] at member
    exact absurd member List.not_mem_nil
  | some target =>
    rw [found] at member
    rcases retirePlan_same member with ⟨same, controllers⟩
    exact ⟨⟨same.1.trans identity.1, same.2.trans identity.2⟩, .inr controllers⟩

theorem revokeEveryPlan_within {current : Material}
    (identity : SameIdentity current material)
    (table : current.controllers = material.controllers)
    (member : goal ∈ revokeEveryPlan current) :
    Within material
      (if material.controllers.entries.any (·.valid) then .empty
        else material.controllers) goal.2 := by
  unfold revokeEveryPlan at member
  rw [table] at member
  split at member
  · rename_i used
    rcases retirePlan_same member with ⟨same, controllers⟩
    refine ⟨⟨same.1.trans identity.1, same.2.trans identity.2⟩, .inr ?_⟩
    rw [controllers, if_pos used]
  · simp at member

variable {ram : Ram}

/-- A change stores the table before it or the table after it. -/
theorem plan_within {change : ControllerChange} (member : goal ∈ plan ram change) :
    Within ram.material (tableAfter ram change) goal.2 := by
  cases change with
  | commit pairing =>
    simp only [plan] at member
    split at member
    · simp at member
    · rename_i table paired
      simp only [List.mem_singleton] at member
      subst member
      refine ⟨⟨rfl, rfl⟩, .inr ?_⟩
      simp [tableAfter, paired]
  | revoke controllerId physicalConfirmed =>
    simp only [plan] at member
    split at member
    · refine resumePlan_within ?_ member
      intro current identity table goal member
      exact revokePlan_within identity table member
    · simp at member
  | revokeAuthenticated controllerId =>
    simp only [plan] at member
    split at member
    · refine resumePlan_within ?_ member
      intro current identity table goal member
      exact revokePlan_within identity table member
    · simp at member
  | revokeAll physicalConfirmed =>
    simp only [plan] at member
    split at member
    · refine resumePlan_within ?_ member
      intro current identity table goal member
      exact revokeEveryPlan_within identity table member
    · simp at member

theorem storable_set {index : Nat} {controller : Controller}
    (storable : table.Storable) (role : controller.role ≠ .invalid) :
    (table.set index controller).Storable := by
  intro entry member
  rcases List.mem_or_eq_of_mem_set member with member | rfl
  · exact storable entry member
  · exact role

theorem tableAfter_storable (storable : ram.material.controllers.Storable)
    (change : ControllerChange) : (tableAfter ram change).Storable := by
  have zeroed : Controller.zeroed.role ≠ .invalid := by decide
  have revoked (controllerId : ControllerId) :
      (match ram.material.controllers.indexOf controllerId with
        | none => ram.material.controllers
        | some target =>
          ram.material.controllers.set target .zeroed).Storable := by
    split
    · exact storable
    · exact storable_set storable zeroed
  cases change with
  | commit pairing =>
    simp only [tableAfter]
    cases paired : pairedTable ram pairing with
    | none => exact storable
    | some table =>
      simp only [pairedTable] at paired
      split at paired
      · rename_i admitted
        simp only [Bool.and_eq_true, bne_iff_ne] at admitted
        simp only [Option.map_eq_some_iff] at paired
        rcases paired with ⟨target, _, rfl⟩
        exact storable_set storable admitted.1.1.1.1.2
      · simp at paired
  | revoke controllerId physicalConfirmed => exact revoked controllerId
  | revokeAuthenticated controllerId => exact revoked controllerId
  | revokeAll physicalConfirmed =>
    simp only [tableAfter]
    split
    · intro controller member
      rw [List.eq_of_mem_replicate member]
      exact zeroed
    · exact storable

theorem plan_storable {change : ControllerChange}
    (storable : ram.material.controllers.Storable)
    (member : goal ∈ plan ram change) : goal.2.controllers.Storable := by
  rcases (plan_within member).2 with same | changed
  · rw [same]
    exact storable
  · rw [changed]
    exact tableAfter_storable storable change

/-! ## The invariant between calls -/

/-- No call of the environment reports a failure. -/
def Environment.FaultFree (environment : Environment) : Prop :=
  (∀ outcome ∈ environment.storage, ∀ residue, outcome ≠ .failed residue) ∧
    ∀ source ∈ environment.random, source ≠ none

/-- The input is a call or a power loss, without faults. -/
def Input.FaultFree : Input → Prop
  | .begin environment => Environment.FaultFree environment
  | .change _ environment => Environment.FaultFree environment
  | .generatePending _ environment => Environment.FaultFree environment
  | .corrupt _ _ => False
  | .powerLoss => True

/-- The members are those of a record without pending or retired parts. -/
structure Current (platform : Platform) (hardwareId : ByteVec 8)
    (device : Device) (recorded : Loaded) : Prop where
  anchored : Anchored platform hardwareId device.ram device.slots recorded
  material : device.ram.material = recorded.material
  migrated : recorded.retiredMaterialPresent = false
  settled : recorded.material.controllerRetirementPending = false

/-- A start can load a record, and a begun store's members are that record. -/
def Durable (platform : Platform) (hardwareId : ByteVec 8)
    (device : Device) : Prop :=
  Fits device.slots ∧
    ∃ recorded,
      loaded? platform hardwareId device.slots = some recorded ∧
        (device.ram.begun = true → Current platform hardwareId device recorded)

theorem loaded?_storable {slots : Slot → Bytes} {recorded : Loaded}
    (found : loaded? platform hardwareId slots = some recorded) :
    recorded.material.controllers.Storable := by
  rcases loaded?_iff.mp found with ⟨_, _, plain, _, decoded⟩
  exact decodeLoaded_storable decoded

theorem Loaded.plan_settled (loaded : Loaded) :
    (finalMaterial loaded.material
      loaded.plan).controllerRetirementPending = false := by
  unfold Loaded.plan finalMaterial
  cases loaded.retiredMaterialPresent <;>
    cases pending : loaded.material.controllerRetirementPending <;>
    simp [pending, finished]

theorem finalMaterial_mem (start : Material) (goals : List (Nat × Material)) :
    finalMaterial start goals = start ∧ goals = [] ∨
      ∃ goal ∈ goals, finalMaterial start goals = goal.2 := by
  induction goals generalizing start with
  | nil => exact .inl ⟨rfl, rfl⟩
  | cons goal goals induction =>
    right
    rcases induction goal.2 with ⟨same, _⟩ | ⟨last, member, same⟩
    · exact ⟨goal, List.mem_cons_self, same⟩
    · exact ⟨last, List.mem_cons_of_mem _ member, same⟩

theorem Loaded.plan_final (loaded : Loaded) :
    SameIdentity (finalMaterial loaded.material loaded.plan)
        loaded.material ∧
      (finalMaterial loaded.material loaded.plan).controllers =
        loaded.material.controllers := by
  rcases finalMaterial_mem loaded.material loaded.plan with
    ⟨same, _⟩ | ⟨goal, member, same⟩
  · rw [same]
    exact ⟨⟨rfl, rfl⟩, rfl⟩
  · rw [same]
    exact Loaded.plan_same member

/-! ## Starts -/

theorem Attempts.unready {before after : Machine}
    {goals : List (Nat × Material)} {result : SecurityResult}
    (attempts : Attempts platform before goals (.done result after)) :
    result ≠ .okReflashable := by
  generalize equal : Outcome.done result after = outcome at attempts
  induction attempts with
  | done => cases equal; decide
  | stop attempt stopped =>
    subst equal
    cases attempt with
    | stored => decide
    | failed notOk unready slots left ram fault => exact unready
  | next attempt later induction => exact induction equal

theorem finishing_ready {outcome : Outcome Machine SecurityResult}
    (unready : ∀ result middle, outcome = .done result middle →
      result ≠ .okReflashable)
    (ready : finishing outcome = .done .okReflashable after) :
    ∃ middle, outcome = .done .ok middle ∧
      after = { middle with
        ram := { middle.ram with
          begun := true
          controllerCount := middle.ram.material.controllers.count
          lastResult := .okReflashable } } := by
  cases outcome with
  | cut middle => cases ready
  | done result middle =>
    by_cases stored : result = .ok
    · subst stored
      cases ready
      exact ⟨middle, rfl, rfl⟩
    · rw [finishing_failed stored] at ready
      cases ready
      exact absurd rfl (unready .okReflashable middle rfl)

/-- The anchor of a start is the record it found. -/
theorem Loaded.anchored {loaded : Loaded} {before machine : Machine}
    {lastResult : SecurityResult}
    (found : loaded? platform hardwareId before.slots = some loaded)
    (ram : machine.ram = loaded.ram lastResult)
    (slots : machine.slots = before.slots) :
    Anchored platform hardwareId machine.ram machine.slots loaded := by
  rcases loaded?_iff.mp found with ⟨derived, newer, readable⟩
  constructor
  · exact derived
  · rw [ram]
    rfl
  · rw [ram]
    rfl
  · rw [ram]
    rfl
  · rw [slots]
    exact readable

/-- What a start on a blank board stored. -/
theorem minted_loaded {key : Secret} {before machine : Machine}
    (derived : platform.deriveWrappingKey hardwareId = some key)
    (blank : ∀ slot, before.slots slot = [])
    (keyed : machine.ram.wrappingKey = key)
    (inactive : machine.ram.activeSlot = none)
    (slots : machine.slots = before.slots)
    (attempt : Attempt platform 2 machine machine.ram.material (.done .ok after)) :
    Fits after.slots ∧ after.ram.material = machine.ram.material ∧
      ∃ recorded,
        loaded? platform hardwareId after.slots = some recorded ∧
        Anchored platform hardwareId after.ram after.slots recorded ∧
        recorded.material = machine.ram.material ∧
        recorded.retiredMaterialPresent = false := by
  cases attempt with
  | failed notOk => exact absurd rfl notOk
  | stored written changed members storage random calls =>
    rename_i blob
    have target : machine.ram.target = .first := by
      simp [Ram.target, inactive]
    rw [target] at changed
    rw [keyed] at written
    rcases written.check with ⟨plain, valid, decoded⟩
    have secondEmpty : after.slots .second = [] := by
      rw [changed, slots]
      simp [blank]
    have firstStored : after.slots .first = blob := by
      rw [changed]
      simp
    let recorded : Loaded :=
      { key := key
        chosen := .first
        generation := machine.ram.generation + 1
        material := machine.ram.material
        retiredMaterialPresent := false }
    have readable : ∃ plain,
        checkBlob platform key (after.slots .first) =
            .valid (machine.ram.generation + 1) plain ∧
          decodeLoaded plain = some (machine.ram.material, false) := by
      rw [firstStored]
      exact ⟨plain, valid, decoded⟩
    have newer : newest (generations platform key after.slots) =
        some .first := by
      have stored : generations platform key after.slots .first =
          some (machine.ram.generation + 1) := by
        simp [generations, firstStored, valid, SlotCheck.generation?]
      refine newest_of_other_none stored ?_
      simp [generations, Slot.other, secondEmpty, checkBlob, SlotCheck.generation?]
    have found : loaded? platform hardwareId after.slots =
        some recorded :=
      loaded?_iff.mpr ⟨derived, newer, readable⟩
    refine ⟨?_, ?_, recorded, found, ?_, rfl, rfl⟩
    · intro slot
      cases slot with
      | first =>
        rw [firstStored]
        exact written.sized
      | second =>
        rw [secondEmpty]
        exact Nat.zero_le _
    · rw [members]
      rfl
    · constructor
      · exact derived
      · rw [members]
        exact keyed
      · rw [members]
        exact congrArg some target
      · rw [members]
        rfl
      · exact readable

theorem loaded?_blank {slots : Slot → Bytes} (blank : ∀ slot, slots slot = []) :
    loaded? platform hardwareId slots = none := by
  cases derived : platform.deriveWrappingKey hardwareId with
  | none => simp [loaded?, derived]
  | some key =>
    have unreadable : newest (generations platform key slots) =
        none := by
      simp [newest, generations, blank, checkBlob, SlotCheck.generation?]
    simp [loaded?, derived, unreadable]

/-- A start that succeeds leaves a current store of what it found. -/
theorem begin_ready (opens : platform.OpensSealed) {before : Machine}
    (run : begin platform hardwareId before = .done .okReflashable after) :
    after.ram.begun = true ∧ Fits after.slots ∧
      ∃ recorded,
        loaded? platform hardwareId after.slots = some recorded ∧
        Current platform hardwareId ⟨after.ram, after.slots⟩ recorded ∧
        ∀ found, loaded? platform hardwareId before.slots = some found →
          SameIdentity recorded.material found.material ∧
            recorded.material.controllers =
              found.material.controllers := by
  have began := begin_began opens hardwareId before
  rw [run] at began
  generalize equal : Outcome.done SecurityResult.okReflashable after =
    ended at began
  cases began with
  | refused notOk slots unbegun fault =>
    cases equal
    exact absurd rfl notOk
  | stopped slots => cases equal
  | @resumed loaded machine lastResult outcome found ram slots storage
      random readable attempts =>
      have unready : ∀ result middle, outcome = .done result middle →
          result ≠ .okReflashable := by
        rintro result middle rfl
        exact Attempts.unready attempts
      rcases finishing_ready unready equal.symm with
        ⟨middle, rfl, rfl⟩
      have anchored := Loaded.anchored found ram slots
      have current : machine.ram.material = loaded.material := by
        rw [ram]
        rfl
      rw [← slots] at found readable
      rcases Attempts.stored anchored found current attempts with
        ⟨last, lastAnchored, lastFound, final, members, _, retired⟩
      have fitted := Attempts.fits readable attempts
      refine ⟨rfl, fitted, last, lastFound, ?_, ?_⟩
      · constructor
        · exact ⟨lastAnchored.derived, lastAnchored.key,
            lastAnchored.activeSlot, lastAnchored.generation,
            lastAnchored.readable⟩
        · exact members
        · by_contra present
          rw [Bool.not_eq_false] at present
          rcases retired present with ⟨empty, present⟩
          simp [Loaded.plan, present] at empty
        · rw [final]
          exact Loaded.plan_settled loaded
      · intro original foundOriginal
        rw [← slots, found] at foundOriginal
        cases foundOriginal
        rw [final]
        exact Loaded.plan_final loaded
  | @minted key machine outcome derived blank ram slots attempt =>
    rcases ram with ⟨keyed, inactive, table, settled⟩
    have stored : ∃ middle, outcome = .done .ok middle ∧
        after = { middle with
          ram := { middle.ram with
            begun := true
            controllerCount := middle.ram.material.controllers.count
            lastResult := .okReflashable } } := by
      cases attempt with
      | stored written changed members rest sources completed =>
        cases equal
        exact ⟨_, rfl, rfl⟩
      | failed notOk unready changed left members fault =>
        rename_i middle result now
        cases result <;> first
          | exact absurd rfl notOk
          | exact absurd rfl unready
          | cases equal
      | interrupted changed left => cases equal
    rcases stored with ⟨middle, rfl, rfl⟩
    rcases minted_loaded derived blank keyed inactive slots attempt with
      ⟨fits, members, recorded, found, anchored, material, retired⟩
    refine ⟨rfl, fits, recorded, found, ?_, ?_⟩
    · constructor
      · exact ⟨anchored.derived, anchored.key, anchored.activeSlot,
          anchored.generation, anchored.readable⟩
      · exact members.trans material.symm
      · exact retired
      · rw [material]
        exact settled
    · intro original foundOriginal
      rw [loaded?_blank blank] at foundOriginal
      cases foundOriginal

/-- A start that is cut leaves a record of the same identity and table. -/
theorem begin_interrupted (opens : platform.OpensSealed) {before : Machine}
    {recorded : Loaded} (fits : Fits before.slots)
    (found : loaded? platform hardwareId before.slots = some recorded)
    (run : begin platform hardwareId before = .cut after) :
    Fits after.slots ∧
      ∃ left, loaded? platform hardwareId after.slots = some left ∧
        SameIdentity left.material recorded.material ∧
        left.material.controllers = recorded.material.controllers := by
  have began := begin_began opens hardwareId before
  rw [run] at began
  generalize equal : Outcome.cut after = ended at began
  cases began with
  | refused notOk slots unbegun fault => cases equal
  | stopped slots =>
    cases equal
    rw [slots]
    exact ⟨fits, recorded, found, ⟨rfl, rfl⟩, rfl⟩
  | @resumed loaded machine lastResult outcome foundLoaded ram slots
      storage random readable attempts =>
      rw [found] at foundLoaded
      cases foundLoaded
      cases outcome with
      | done result middle =>
        by_cases stored : result = .ok
        · subst stored
          cases equal
        · rw [finishing_failed stored] at equal
          cases equal
      | cut middle =>
        cases equal
        have anchored := Loaded.anchored found ram slots
        rw [← slots] at found readable
        rcases Attempts.interrupted anchored found readable
          attempts with ⟨fitsAfter, left, foundLeft, material⟩
        refine ⟨fitsAfter, left, foundLeft, ?_⟩
        rcases material with same | ⟨goal, member, same⟩
        · rw [same]
          exact ⟨⟨rfl, rfl⟩, rfl⟩
        · rw [same]
          exact Loaded.plan_same member
  | minted derived blank ram slots attempt =>
    rw [loaded?_blank blank] at found
    cases found

/-- Without faults, a start that finds a record and is not cut succeeds. -/
theorem begin_completes (opens : platform.OpensSealed) (seals : Seals platform)
    {before : Machine} {recorded : Loaded} {result : SecurityResult}
    (faultFree : FaultFree before) (fits : Fits before.slots)
    (found : loaded? platform hardwareId before.slots = some recorded)
    (run : begin platform hardwareId before = .done result after) :
    result = .okReflashable := by
  have began := begin_began opens hardwareId before
  rw [run] at began
  generalize equal : Outcome.done result after = ended at began
  cases began with
  | refused notOk slots unbegun fault =>
    rw [fault fits faultFree] at found
    cases found
  | stopped slots => cases equal
  | @resumed loaded machine lastResult outcome foundLoaded ram slots
      storage random readable attempts =>
      have storable : ∀ goal ∈ loaded.plan,
          goal.2.controllers.Storable := by
        intro goal member
        rw [(Loaded.plan_same member).2]
        exact loaded?_storable foundLoaded
      cases outcome with
      | cut middle => cases equal
      | done inner middle =>
        have ok := Attempts.ok_of_faultFree seals
          (faultFree.later storage
            (random.trans List.drop_zero.symm)) storable attempts
        subst ok
        cases equal
        rfl
  | minted derived blank ram slots attempt =>
    rw [loaded?_blank blank] at found
    cases found

/-! ## Changes -/

section Changes

variable {device : Device} {change : ControllerChange}
  {environment : Environment}

theorem Device.call_done {α : Type} {program : Prog Machine α}
    {value : α} {after : Device}
    (run : device.call program environment = .done value after) :
    ∃ machine, program (device.machine environment) = .done value machine ∧
      after = ⟨machine.ram, machine.slots⟩ := by
  unfold Device.call at run
  split at run
  · rename_i found machine done
    cases run
    exact ⟨machine, done, rfl⟩
  · cases run

theorem Device.call_cut {α : Type} {program : Prog Machine α} {after : Device}
    (run : device.call program environment = .cut after) :
    ∃ machine, program (device.machine environment) = .cut machine ∧
      after = ⟨.cleared, machine.slots⟩ := by
  unfold Device.call at run
  split at run
  · cases run
  · rename_i machine cut
    cases run
    exact ⟨machine, cut, rfl⟩

/-- Only a begun store plans anything. -/
theorem begun_of_plan (nonempty : plan ram change ≠ []) : ram.begun = true := by
  by_contra unbegun
  refine nonempty ?_
  cases change <;> simp [plan, pairedTable, unbegun]

/-- A begun store knows the slot in use. -/
theorem Durable.active (durable : Durable platform hardwareId device)
    (begun : device.ram.begun = true) :
    ∃ active, device.ram.activeSlot = some active := by
  rcases durable.2 with ⟨recorded, _, current⟩
  exact ⟨recorded.chosen, (current begun).anchored.activeSlot⟩

/-- The chain of a change that succeeds ends on the table after it. -/
theorem plan_final (settled : ram.material.controllerRetirementPending = false)
    (nonempty : plan ram change ≠ []) :
    (finalMaterial ram.material (plan ram change)).controllers =
        tableAfter ram change ∧
      (finalMaterial ram.material
        (plan ram change)).controllerRetirementPending = false := by
  have revoked (controllerId : ControllerId)
      (found : revokePlan controllerId ram.material ≠ []) :
      (finalMaterial ram.material
          (revokePlan controllerId ram.material)).controllers =
        (match ram.material.controllers.indexOf controllerId with
          | none => ram.material.controllers
          | some target =>
            ram.material.controllers.set target .zeroed) ∧
      (finalMaterial ram.material (revokePlan controllerId
        ram.material)).controllerRetirementPending = false := by
    unfold revokePlan at found ⊢
    cases indexed : ram.material.controllers.indexOf controllerId with
    | none => simp [indexed] at found
    | some target => exact ⟨rfl, rfl⟩
  cases change with
  | commit pairing =>
    simp only [plan] at nonempty ⊢
    cases paired : pairedTable ram pairing with
    | none => simp [paired] at nonempty
    | some table =>
      simp only [tableAfter, paired, finalMaterial]
      exact ⟨rfl, settled⟩
  | revoke controllerId physicalConfirmed =>
    simp only [plan, resumePlan, settled] at nonempty ⊢
    split at nonempty
    · rename_i admitted
      rw [if_pos admitted]
      exact revoked controllerId nonempty
    · exact absurd rfl nonempty
  | revokeAuthenticated controllerId =>
    simp only [plan, resumePlan, settled] at nonempty ⊢
    split at nonempty
    · rename_i admitted
      rw [if_pos admitted]
      exact revoked controllerId nonempty
    · exact absurd rfl nonempty
  | revokeAll physicalConfirmed =>
    simp only [plan, resumePlan, settled] at nonempty ⊢
    split at nonempty
    · rename_i admitted
      rw [if_pos admitted]
      simp only [Bool.false_eq_true, if_false, revokeEveryPlan,
        tableAfter] at nonempty ⊢
      split at nonempty
      · rename_i used
        rw [if_pos used, if_pos used]
        exact ⟨rfl, rfl⟩
      · exact absurd rfl nonempty
    · exact absurd rfl nonempty

/-- The store after a chain of a change that succeeded. -/
theorem Durable.stored (durable : Durable platform hardwareId device)
    {after : Machine} (nonempty : plan device.ram change ≠ [])
    (attempts : Attempts platform (device.machine environment) (plan device.ram change)
      (.done .ok after)) :
    Durable platform hardwareId ⟨after.ram, after.slots⟩ ∧
      after.ram.material.controllers = tableAfter device.ram change := by
  rcases durable.2 with ⟨recorded, found, current⟩
  have current := current (begun_of_plan nonempty)
  rcases Attempts.stored current.anchored found current.material
    attempts with ⟨last, anchored, lastFound, final, members, _, retired⟩
  have settled :
      device.ram.material.controllerRetirementPending = false := by
    rw [current.material]
    exact current.settled
  have planned := plan_final settled nonempty
  rw [current.material, ← final] at planned
  refine ⟨⟨Attempts.fits durable.1 attempts, last, lastFound, ?_⟩, ?_⟩
  · intro _
    constructor
    · exact anchored
    · exact members
    · by_contra present
      rw [Bool.not_eq_false] at present
      exact nonempty (retired present).1
    · exact planned.2
  · rw [members]
    exact planned.1

/-- A change that is cut leaves the table before it or the table after it. -/
theorem change_interrupted (opens : platform.OpensSealed)
    (durable : Durable platform hardwareId device) {after : Device}
    (run : device.call (change.program platform) environment = .cut after) :
    Fits after.slots ∧
      ∃ left, loaded? platform hardwareId after.slots = some left ∧
        Within device.ram.material (tableAfter device.ram change)
          left.material := by
  rcases Device.call_cut run with ⟨machine, ended, rfl⟩
  have follows := change_follows opens
    (device.machine environment)
    change (Durable.active durable)
  rw [ended] at follows
  rcases follows with ⟨nonempty, attempts⟩ | ⟨_, result, answer, _⟩
  · rcases durable.2 with ⟨recorded, found, current⟩
    have current := current (begun_of_plan nonempty)
    rcases Attempts.interrupted current.anchored found durable.1
      attempts with ⟨fits, left, foundLeft, material⟩
    refine ⟨fits, left, foundLeft, ?_⟩
    rcases material with same | ⟨goal, member, same⟩
    · rw [same, ← current.material]
      exact ⟨⟨rfl, rfl⟩, .inl rfl⟩
    · rw [same]
      exact plan_within member
  · cases answer

/-- A call that only sets its result leaves the store durable. -/
theorem Durable.answered (durable : Durable platform hardwareId device)
    (result : SecurityResult) :
    Durable platform hardwareId
      ⟨{ device.ram with lastResult := result }, device.slots⟩ := by
  rcases durable with ⟨fits, recorded, found, current⟩
  refine ⟨fits, recorded, found, ?_⟩
  intro begun
  rcases current begun with ⟨anchored, material, migrated, settled⟩
  exact ⟨⟨anchored.derived, anchored.key, anchored.activeSlot,
    anchored.generation, anchored.readable⟩, material, migrated, settled⟩

/-- A change that returns `Ok` has stored the table after it. -/
theorem change_stored (opens : platform.OpensSealed)
    (durable : Durable platform hardwareId device) {after : Device}
    (run : device.call (change.program platform) environment = .done .ok after) :
    Durable platform hardwareId after ∧
      after.ram.material.controllers = tableAfter device.ram change := by
  rcases Device.call_done run with ⟨machine, ended, rfl⟩
  have follows := change_follows opens
    (device.machine environment)
    change (Durable.active durable)
  rw [ended] at follows
  rcases follows with ⟨nonempty, attempts⟩ | ⟨empty, result, answer, only⟩
  · exact Durable.stored durable nonempty attempts
  · cases answer
    rcases only rfl with ⟨begun, rfl⟩
    refine ⟨Durable.answered durable .ok, ?_⟩
    have unused :
        device.ram.material.controllers.entries.any (·.valid) = false := by
      by_contra used
      rw [Bool.not_eq_false] at used
      have filled : plan device.ram (.revokeAll true) ≠ [] := by
        have begun : device.ram.begun = true := begun
        simp only [plan, begun, resumePlan]
        split
        · split <;> simp [revokeEveryPlan, used, retirePlan]
        · simp_all
      exact filled empty
    simp [tableAfter, unused, Device.machine]

/-- Without faults every change keeps the store durable. -/
theorem change_durable (opens : platform.OpensSealed) (seals : Seals platform)
    (faultFree : Environment.FaultFree environment)
    (durable : Durable platform hardwareId device) :
    Durable platform hardwareId
      (settle (device.call (change.program platform) environment)) := by
  cases run : device.call (change.program platform) environment with
  | cut after =>
    rcases change_interrupted opens durable run with
      ⟨fits, left, found, _⟩
    rcases Device.call_cut run with ⟨machine, _, rfl⟩
    exact ⟨fits, left, found, by simp [settle, Ram.cleared]⟩
  | done result after =>
    rcases Device.call_done run with ⟨machine, ended, rfl⟩
    have follows := change_follows opens
      (device.machine environment) change (Durable.active durable)
    rw [ended] at follows
    rcases follows with ⟨nonempty, attempts⟩ | ⟨_, answer, equal, _⟩
    · have storable : ∀ goal ∈ plan device.ram change,
          goal.2.controllers.Storable := by
        intro goal member
        rcases durable.2 with ⟨recorded, found, current⟩
        refine plan_storable ?_ member
        rw [(current (begun_of_plan nonempty)).material]
        exact loaded?_storable found
      have machineFaultFree : FaultFree (device.machine environment) := faultFree
      have ok := Attempts.ok_of_faultFree seals machineFaultFree storable
        attempts
      subst ok
      exact (Durable.stored durable nonempty attempts).1
    · cases equal
      exact Durable.answered durable _

end Changes

/-! ## Runs -/

/-- Without faults every start keeps the store durable. -/
theorem begin_durable (opens : platform.OpensSealed)
    (seals : Seals platform) {device : Device} {environment : Environment}
    (faultFree : Environment.FaultFree environment)
    (durable : Durable platform hardwareId device) :
    Durable platform hardwareId
      (settle (device.call (begin platform hardwareId) environment)) := by
  rcases durable with ⟨fits, recorded, found, _⟩
  have machineFaultFree : FaultFree (device.machine environment) := faultFree
  cases run : device.call (begin platform hardwareId) environment with
  | cut after =>
    rcases Device.call_cut run with ⟨machine, ended, rfl⟩
    rcases begin_interrupted opens fits found ended with
      ⟨fitsAfter, left, foundLeft, _⟩
    exact ⟨fitsAfter, left, foundLeft, by simp [settle, Ram.cleared]⟩
  | done result after =>
    rcases Device.call_done run with ⟨machine, ended, rfl⟩
    have ready := begin_completes opens seals machineFaultFree fits found
      ended
    subst ready
    rcases begin_ready opens ended with
      ⟨_, fitsAfter, last, foundLast, current, _⟩
    exact ⟨fitsAfter, last, foundLast, fun _ => current⟩

/-- Drawing a root changes neither the table nor the slots. -/
theorem generatePending_answered (device : Device) (facts : LinkFacts)
    (environment : Environment) :
    ∃ result, settle (device.call (generatePendingControllerRoot facts)
        environment) =
      ⟨{ device.ram with lastResult := result }, device.slots⟩ := by
  cases begun : device.ram.begun <;> cases allowed : facts.all <;>
    cases drawn : nextSource environment.random <;>
    simp [Device.call, Device.machine, settle,
      generatePendingControllerRoot, setResult, modifyRam, randomBytes,
      begun, allowed, drawn]

/-- The invariant holds in every run without faults. -/
theorem exec_durable (opens : platform.OpensSealed)
    (seals : Seals platform) {start : Device}
    (durable : Durable platform hardwareId start) (history : List Input)
    (faultFree : ∀ input ∈ history, Input.FaultFree input) :
    Durable platform hardwareId
      (exec (Device.step platform hardwareId) start history) := by
  induction history using List.reverseRecOn with
  | nil => exact durable
  | append_singleton history input induction =>
    have held := induction fun input member =>
      faultFree input (List.mem_append_left _ member)
    have allowed := faultFree input (by simp)
    rw [exec_concat]
    cases input with
    | begin environment => exact begin_durable opens seals allowed held
    | change change environment =>
      exact change_durable opens seals allowed held
    | generatePending facts environment =>
      rcases generatePending_answered
        (exec (Device.step platform hardwareId) start history) facts
        environment with ⟨result, equal⟩
      rw [Device.step, equal]
      exact Durable.answered held result
    | corrupt slot blob => exact absurd allowed id
    | powerLoss =>
      rcases held with ⟨fits, recorded, found, _⟩
      exact ⟨fits, recorded, found,
        by simp [Device.step, Ram.cleared]⟩

/-- Starts that are cut, one after the other. -/
inductive CutStarts (platform : Platform) (hardwareId : ByteVec 8) :
    Device → Device → Prop where
  | none {device : Device} : CutStarts platform hardwareId device device
  | again {device middle last : Device} {environment : Environment}
      (cut : device.call (begin platform hardwareId) environment = .cut middle)
      (later : CutStarts platform hardwareId middle last) :
      CutStarts platform hardwareId device last

/-- Interrupted starts keep the identity and the table. -/
theorem CutStarts.loaded? (opens : platform.OpensSealed)
    {device last : Device} {recorded : Loaded}
    (cuts : CutStarts platform hardwareId device last) (fits : Fits device.slots)
    (found : loaded? platform hardwareId device.slots = some recorded) :
    Fits last.slots ∧
      ∃ left, loaded? platform hardwareId last.slots = some left ∧
        SameIdentity left.material recorded.material ∧
        left.material.controllers = recorded.material.controllers := by
  induction cuts generalizing recorded with
  | none => exact ⟨fits, recorded, found, ⟨rfl, rfl⟩, rfl⟩
  | again cut later induction =>
    rcases Device.call_cut cut with ⟨machine, ended, rfl⟩
    rcases begin_interrupted opens fits found ended with
      ⟨fitsNext, left, foundLeft, identity, table⟩
    rcases induction fitsNext foundLeft with
      ⟨fitsLast, last, foundLast, lastIdentity, lastTable⟩
    exact ⟨fitsLast, last, foundLast,
      ⟨lastIdentity.1.trans identity.1, lastIdentity.2.trans identity.2⟩,
      lastTable.trans table⟩

/--
Crash atomicity.  After a successful start and any run without faults, a change
that is interrupted at any storage call, followed by any number of interrupted
starts, is undone or done completely by the first start that is not interrupted:
that start succeeds with the identity unchanged and with the table before the
change or the table that the change stores when it returns `Ok`.
-/
theorem interrupted_change_atomic (opens : platform.OpensSealed)
    (seals : Seals platform) {blank started interrupted last final : Device}
    {firstEnvironment environment finalEnvironment : Environment}
    {change : ControllerChange} {result : SecurityResult} (history : List Input)
    (begun : blank.call (begin platform hardwareId) firstEnvironment =
      .done .okReflashable started)
    (faultFree : ∀ input ∈ history, Input.FaultFree input)
    (cut : (exec (Device.step platform hardwareId) started history).call
      (change.program platform) environment = .cut interrupted)
    (cuts : CutStarts platform hardwareId interrupted last)
    (finalFaultFree : Environment.FaultFree finalEnvironment)
    (completed : last.call (begin platform hardwareId) finalEnvironment =
      .done result final) :
    let before := exec (Device.step platform hardwareId) started history
    result = .okReflashable ∧
      SameIdentity final.ram.material before.ram.material ∧
      (final.ram.material.controllers = before.ram.material.controllers ∨
        final.ram.material.controllers = tableAfter before.ram change) ∧
      ∀ uninterrupted after,
        before.call (change.program platform) uninterrupted =
            .done .ok after →
          after.ram.material.controllers =
            tableAfter before.ram change := by
  intro before
  have startDurable : Durable platform hardwareId started := by
    rcases Device.call_done begun with ⟨machine, ended, rfl⟩
    rcases begin_ready opens ended with
      ⟨_, fits, recorded, found, current, _⟩
    exact ⟨fits, recorded, found, fun _ => current⟩
  have durable : Durable platform hardwareId before :=
    exec_durable opens seals startDurable history faultFree
  rcases change_interrupted opens durable cut with
    ⟨fitsLeft, left, foundLeft, identity, table⟩
  rcases CutStarts.loaded? opens cuts fitsLeft foundLeft with
    ⟨fitsLast, loaded, foundLast, lastIdentity, lastTable⟩
  rcases Device.call_done completed with ⟨machine, ended, rfl⟩
  have machineFaultFree : FaultFree (last.machine finalEnvironment) := finalFaultFree
  have ready := begin_completes opens seals machineFaultFree fitsLast
    foundLast ended
  subst ready
  rcases begin_ready opens ended with
    ⟨_, _, recorded, _, current, kept⟩
  rcases kept loaded foundLast with ⟨keptIdentity, keptTable⟩
  have finalTable : machine.ram.material.controllers =
      left.material.controllers := by
    rw [current.material, keptTable, lastTable]
  refine ⟨rfl, ?_, ?_, ?_⟩
  · rw [current.material]
    exact ⟨keptIdentity.1.trans (lastIdentity.1.trans identity.1),
      keptIdentity.2.trans (lastIdentity.2.trans identity.2)⟩
  · rw [finalTable]
    exact table
  · intro uninterrupted after stored
    exact (change_stored opens durable stored).2

/-- A pairing cut while its record was written, then a start. -/
theorem interrupted_pairing_atomic :
    ∃ interrupted final,
      sampleDevice.call
          ((ControllerChange.commit samplePairing).program
            maskingPlatform) ⟨[.cut .written], []⟩ = .cut interrupted ∧
      interrupted.call (begin maskingPlatform sampleHardwareId)
          calmEnvironment = .done .okReflashable final ∧
      SameIdentity final.ram.material sampleDevice.ram.material := by
  have started : ∃ started, blankDevice.call
      (begin maskingPlatform sampleHardwareId) calmEnvironment =
        .done .okReflashable started :=
    Outcome.eq_done (by decide +kernel)
  rcases started with ⟨started, begun⟩
  have same : sampleDevice = started := by
    rw [sampleDevice, begun]
    rfl
  have cut : ∃ interrupted, sampleDevice.call
      ((ControllerChange.commit samplePairing).program maskingPlatform)
        ⟨[.cut .written], []⟩ = .cut interrupted :=
    Outcome.eq_cut (by decide +kernel)
  rcases cut with ⟨interrupted, cut⟩
  have slots : interrupted = settle (sampleDevice.call
      ((ControllerChange.commit samplePairing).program maskingPlatform)
        ⟨[.cut .written], []⟩) := by
    rw [cut]
    rfl
  have completed : ∃ final, interrupted.call
      (begin maskingPlatform sampleHardwareId) calmEnvironment =
        .done .okReflashable final := by
    rw [slots]
    exact Outcome.eq_done (by decide +kernel)
  rcases completed with ⟨final, completed⟩
  have calm : Environment.FaultFree calmEnvironment := by
    constructor
    · intro outcome member
      cases member
    · intro source member
      rw [List.eq_of_mem_replicate member]
      simp
  have sealing : Seals maskingPlatform := fun _ _ _ _ => rfl
  refine ⟨interrupted, final, cut, completed, ?_⟩
  rw [same] at cut ⊢
  have atomic := interrupted_change_atomic maskingPlatform_opens sealing
    [] begun (by simp) cut .none calm completed
  exact atomic.2.1

end Kitsu.Security.CrashAtomicity
