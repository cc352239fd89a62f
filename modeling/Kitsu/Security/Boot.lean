import Kitsu.Security.Transaction

/-!
# What starting the store can do

`loaded?` is the record a start finds: the newer of the two readable slots.
`Began` lists the ways a start can end.  It is refused with the slots as they
were; or it takes the record it found, finishes a retirement that was left
pending and replaces a record of the older firmware, each as attempts on the
other slot; or it makes an identity for a blank board.
-/

namespace Kitsu.Security.Boot

open Kitsu.Lib.ByteString
open Kitsu.Lib.Crash
open Kitsu.Lib.TwoSlot
open Kitsu.Security.Record
open Kitsu.Security.Store
open Kitsu.Security.Transaction

variable (platform : Platform)

/-- What a start finds. -/
structure Loaded where
  key : Secret
  chosen : Slot
  generation : UInt32
  material : Material
  retiredMaterialPresent : Bool

/-- The generations of the readable slots. -/
def generations (key : Secret) (slots : Slot → Bytes) :
    Slot → Option UInt32 :=
  fun slot => (checkBlob platform key (slots slot)).generation?

/-- The record a start takes, if it can read both slots. -/
def loaded? (hardwareId : ByteVec 8) (slots : Slot → Bytes) :
    Option Loaded :=
  match platform.deriveWrappingKey hardwareId with
  | none => none
  | some key =>
    match newest (generations platform key slots) with
    | none => none
    | some chosen =>
      match checkBlob platform key (slots chosen) with
      | .valid generation plain =>
        (decodeLoaded plain).map fun decoded =>
          { key := key
            chosen := chosen
            generation := generation
            material := decoded.1
            retiredMaterialPresent := decoded.2 }
      | _ => none

/-- The record an attempt tries to store. -/
def Loaded.next (recorded : Loaded) (goal : Material) : Loaded where
  key := recorded.key
  chosen := recorded.chosen.other
  generation := recorded.generation + 1
  material := goal
  retiredMaterialPresent := false

/-- The members after the record was taken. -/
def Loaded.ram (loaded : Loaded) (lastResult : SecurityResult) : Ram :=
  { Ram.cleared with
    material := loaded.material
    wrappingKey := loaded.key
    lastResult := lastResult
    activeSlot := some loaded.chosen
    generation := loaded.generation }

/-- The material of a migration before its retirement. -/
def migrating (material : Material) : Material :=
  { material with controllerRetirementPending := true }

/-- The attempts of a start that found a record. -/
def Loaded.plan (loaded : Loaded) : List (Nat × Material) :=
  (if loaded.material.controllerRetirementPending then
    [(4, finished loaded.material)] else []) ++
  (if loaded.retiredMaterialPresent then
    [(2, migrating loaded.material), (4, finished loaded.material)]
  else [])

/-- The end of a start that found a record. -/
def finishing : Outcome Machine SecurityResult →
    Outcome Machine SecurityResult
  | .done .ok after =>
    .done .okReflashable { after with
      ram := { after.ram with
        begun := true
        controllerCount := after.ram.material.controllers.count
        lastResult := .okReflashable } }
  | .done result after =>
    .done result { after with
      ram := { Ram.cleared with lastResult := result } }
  | .cut after => .cut after

/-- The end of a start that made an identity. -/
def minting : Outcome Machine SecurityResult →
    Outcome Machine SecurityResult
  | .done .ok after =>
    .done .okReflashable { after with
      ram := { after.ram with
        begun := true
        controllerCount := after.ram.material.controllers.count
        lastResult := .okReflashable } }
  | .done result after =>
    .done result { after with ram := { after.ram with begun := false } }
  | .cut after => .cut after

/-- How a start can end. -/
inductive Began (hardwareId : ByteVec 8) (before : Machine) :
    Outcome Machine SecurityResult → Prop where
  | refused {result : SecurityResult} {after : Machine}
      (notOk : result ≠ .okReflashable)
      (slots : after.slots = before.slots)
      (unbegun : after.ram.begun = false)
      (fault : (∀ slot, (before.slots slot).length ≤ kSecurityBlobCapacity) →
        FaultFree before → loaded? platform hardwareId before.slots = none) :
      Began hardwareId before (.done result after)
  | stopped {after : Machine} (slots : after.slots = before.slots) :
      Began hardwareId before (.cut after)
  | resumed {loaded : Loaded} {machine : Machine}
      {lastResult : SecurityResult}
      {outcome : Outcome Machine SecurityResult}
      (found : loaded? platform hardwareId before.slots = some loaded)
      (ram : machine.ram = loaded.ram lastResult)
      (slots : machine.slots = before.slots)
      (storage : machine.storage = before.storage.drop 3)
      (random : machine.random = before.random)
      (readable : ∀ slot, (before.slots slot).length ≤ kSecurityBlobCapacity)
      (attempts : Attempts platform machine loaded.plan outcome) :
      Began hardwareId before (finishing outcome)
  | minted {key : Secret} {machine : Machine}
      {outcome : Outcome Machine SecurityResult}
      (derived : platform.deriveWrappingKey hardwareId = some key)
      (blank : ∀ slot, before.slots slot = [])
      (ram : machine.ram.wrappingKey = key ∧ machine.ram.activeSlot = none ∧
        machine.ram.material.controllers = .empty ∧
        machine.ram.material.controllerRetirementPending = false)
      (slots : machine.slots = before.slots)
      (attempt : Attempt platform 2 machine machine.ram.material outcome) :
      Began hardwareId before (minting outcome)

variable {platform}

theorem checkBlob_ne_readFailed (key : Secret) (blob : Bytes) :
    checkBlob platform key blob ≠ .readFailed := by
  unfold checkBlob
  split
  · simp
  · split <;> simp

/-- Looking at a slot: it is judged, it cannot be read, or the power is cut. -/
theorem validateSlot_cases (slot : Slot) (machine : Machine) :
    (∃ lastResult, validateSlot platform slot machine =
        .done (checkBlob platform machine.ram.wrappingKey (machine.slots slot))
          { machine with
            ram := { machine.ram with lastResult := lastResult }
            storage := machine.storage.tail } ∧
      (machine.slots slot).length ≤ kSecurityBlobCapacity) ∨
    (∃ after, validateSlot platform slot machine =
        .done .readFailed after ∧ after.slots = machine.slots ∧
      after.ram.begun = machine.ram.begun ∧
      ((machine.slots slot).length ≤ kSecurityBlobCapacity → ¬FaultFree machine)) ∨
    ∃ after, validateSlot platform slot machine = .cut after ∧
      after.slots = machine.slots := by
  let unread : Machine :=
    { machine with
      ram := { machine.ram with lastResult := .storageReadFailed }
      storage := machine.storage.tail }
  cases reading : nextOutcome machine.storage with
  | failed residue =>
    refine .inr (.inl ⟨unread, ?_, rfl, rfl, ?_⟩)
    · simp [validateSlot, readSlot, reading, modifyRam, unread]
    · intro _ faultFree
      exact not_failed_of_all faultFree.1 reading
  | cut residue =>
    refine .inr (.inr
      ⟨{ machine with storage := machine.storage.tail }, ?_, rfl⟩)
    simp [validateSlot, readSlot, reading]
  | complete =>
    by_cases sized :
        (machine.slots slot).length ≤ kSecurityBlobCapacity
    · left
      by_cases corrupt : checkBlob platform machine.ram.wrappingKey
          (machine.slots slot) = .corrupt
      · exact ⟨.corruptStorage, by simp [validateSlot, readSlot,
          reading, sized, corrupt, modifyRam], sized⟩
      · exact ⟨machine.ram.lastResult, by simp [validateSlot, readSlot,
          reading, sized, corrupt], sized⟩
    · refine .inr (.inl ⟨unread, ?_, rfl, rfl, ?_⟩)
      · simp [validateSlot, readSlot, reading, sized, modifyRam, unread]
      · intro small
        exact absurd small sized

/-! ## Taking a record -/

variable {result : SecurityResult}

theorem finishing_failed {after : Machine} (notOk : result ≠ .ok) :
    finishing (.done result after) =
      .done result { after with
        ram := { Ram.cleared with lastResult := result } } := by
  cases result <;> first | rfl | exact absurd rfl notOk

theorem minting_failed {after : Machine} (notOk : result ≠ .ok) :
    minting (.done result after) =
      .done result { after with
        ram := { after.ram with begun := false } } := by
  cases result <;> first | rfl | exact absurd rfl notOk

/-- A stage of a start: the next one follows, or the members are cleared. -/
def stage (first second : Prog Machine SecurityResult) :
    Prog Machine SecurityResult := do
  let result ← first
  if result ≠ .ok then
    clear
    setResult result
  else second

theorem stage_apply (first second : Prog Machine SecurityResult)
    (before : Machine) :
    stage first second before =
      match first before with
      | .done result after =>
        (if result ≠ .ok then do
          clear
          setResult result
        else second : Prog Machine SecurityResult) after
      | .cut after => .cut after := by
  rw [stage, Prog.bind_apply]
  cases first before <;> rfl

theorem stage_attempts {before : Machine} {cost : Nat} {goal : Material}
    {first second : Prog Machine SecurityResult} {rest : List (Nat × Material)}
    (attempt : Attempt platform cost before goal (first before))
    (later : ∀ middle, first before = .done .ok middle →
      ∃ outcome, Attempts platform middle rest outcome ∧
        second middle = finishing outcome) :
    ∃ outcome, Attempts platform before ((cost, goal) :: rest) outcome ∧
      stage first second before = finishing outcome := by
  rw [stage_apply]
  cases run : first before with
  | cut after =>
    rw [run] at attempt
    exact ⟨_, .stop attempt (by simp), rfl⟩
  | done result after =>
    rw [run] at attempt
    by_cases stored : result = .ok
    · subst stored
      rcases later after run with ⟨outcome, attempts, equal⟩
      exact ⟨outcome, .next attempt attempts, by simpa using equal⟩
    · refine ⟨_, .stop attempt (by simpa using stored), ?_⟩
      simp [stored, finishing_failed stored, clear, setResult, modifyRam]

/-- The end of a retirement at the start. -/
theorem retire_stage (opens : platform.OpensSealed) {before : Machine}
    {active : Slot} {second : Prog Machine SecurityResult}
    {rest : List (Nat × Material)}
    (pending : before.ram.material.controllerRetirementPending = true)
    (activeSlot : before.ram.activeSlot = some active) (later : ∀ middle : Machine,
      middle.ram.material = finished before.ram.material →
      middle.ram.activeSlot ≠ none →
      ∃ outcome, Attempts platform middle rest outcome ∧
        second middle = finishing outcome) :
    ∃ outcome,
      Attempts platform before
        ((4, finished before.ram.material) :: rest) outcome ∧
      stage (retirePreviousSlot platform) second before =
        finishing outcome := by
  have attempt := retire_attempt opens pending activeSlot
  refine stage_attempts attempt ?_
  intro middle stored
  rw [stored] at attempt
  cases attempt with
  | failed notOk => exact absurd rfl notOk
  | stored written changed members remaining sources completed =>
    refine later middle ?_ ?_
    · rw [members]
      rfl
    · rw [members]
      simp [Ram.persisted]

theorem finishBegin_attempts (before : Machine) :
    ∃ outcome, Attempts platform before [] outcome ∧
      finishBegin before = finishing outcome :=
  ⟨.done .ok before, .done, rfl⟩

theorem migrate_eq_stage (opens : platform.OpensSealed) (before : Machine) :
    migrate platform before =
      stage (store platform (migrating before.ram.material))
        (stage (retirePreviousSlot platform) finishBegin) before := by
  have attempt := persist_attempt opens
    (Machine.withMaterial before (migrating before.ram.material))
  have unfolded : migrate platform before =
      stage (persist platform)
        (stage (retirePreviousSlot platform) finishBegin)
        (Machine.withMaterial before (migrating before.ram.material)) :=
    rfl
  rw [unfolded, stage_apply, stage_apply, store]
  generalize persist platform (Machine.withMaterial before _) = outcome
    at attempt
  cases attempt with
  | stored written changed members rest sources completed => rfl
  | failed notOk unready changed left members fault =>
    simp [rollBack_failed notOk, notOk, clear, setResult, modifyRam]
  | interrupted changed left => rfl

theorem migrate_attempts (opens : platform.OpensSealed) (before : Machine) :
    ∃ outcome,
      Attempts platform before
        [(2, migrating before.ram.material),
          (4, finished before.ram.material)] outcome ∧
      migrate platform before = finishing outcome := by
  rw [migrate_eq_stage opens]
  have attempt := store_attempt opens before
    (migrating before.ram.material)
  refine stage_attempts attempt ?_
  intro middle stored
  rw [stored] at attempt
  cases attempt with
  | failed notOk => exact absurd rfl notOk
  | stored written changed members remaining sources completed =>
    have material : middle.ram.material =
        migrating before.ram.material := by
      rw [members]
      rfl
    have activeSlot : middle.ram.activeSlot =
        some before.ram.target := by
      rw [members]
      rfl
    have pending :
        middle.ram.material.controllerRetirementPending = true := by
      rw [material]
      rfl
    have retired := retire_stage opens pending activeSlot
      (fun later _ _ => finishBegin_attempts later)
    rw [material] at retired
    exact retired

theorem resumeLoaded_eq (retiredMaterialPresent : Bool) {before : Machine}
    (pending : before.ram.material.controllerRetirementPending = true) :
    resumeLoaded platform retiredMaterialPresent before =
      stage (retirePreviousSlot platform)
        (if retiredMaterialPresent then migrate platform
          else finishBegin) before := by
  simp only [resumeLoaded, Prog.bind_apply, Prog.get_apply, pending,
    if_true, stage_apply]
  cases retirePreviousSlot platform before with
  | cut after => rfl
  | done result after => rfl

/-- Taking a record is its plan. -/
theorem resumeLoaded_attempts (opens : platform.OpensSealed)
    {loaded : Loaded} {before : Machine} {lastResult : SecurityResult}
    (ram : before.ram = loaded.ram lastResult) :
    ∃ outcome, Attempts platform before loaded.plan outcome ∧
      resumeLoaded platform loaded.retiredMaterialPresent before =
        finishing outcome := by
  have material : before.ram.material = loaded.material := by
    rw [ram]
    rfl
  have activeSlot : before.ram.activeSlot = some loaded.chosen := by
    rw [ram]
    rfl
  by_cases pending :
      before.ram.material.controllerRetirementPending = true
  · rw [resumeLoaded_eq _ pending]
    have goals : loaded.plan =
        (4, finished before.ram.material) ::
          (if loaded.retiredMaterialPresent then
            [(2, migrating loaded.material),
              (4, finished loaded.material)] else []) := by
      rw [material] at pending ⊢
      simp [Loaded.plan, pending]
    rw [goals]
    refine retire_stage opens pending activeSlot ?_
    intro middle same _
    cases loaded.retiredMaterialPresent with
    | false => exact finishBegin_attempts middle
    | true =>
      have attempts := migrate_attempts opens middle
      rw [same, material] at attempts
      exact attempts
  · rw [Bool.not_eq_true] at pending
    have goals : loaded.plan =
        (if loaded.retiredMaterialPresent then
          [(2, migrating loaded.material),
            (4, finished loaded.material)] else []) := by
      rw [material] at pending
      simp [Loaded.plan, pending]
    rw [goals]
    simp only [resumeLoaded, Prog.bind_apply, Prog.get_apply, pending]
    cases loaded.retiredMaterialPresent with
    | false => exact finishBegin_attempts before
    | true =>
      have attempts := migrate_attempts opens before
      rw [material] at attempts
      exact attempts

/-! ## The start -/

/-- The members of a start that has only derived its key. -/
def keyed (key : Secret) (lastResult : SecurityResult) : Ram :=
  { Ram.cleared with wrappingKey := key, lastResult := lastResult }

/-- A machine on which a start has only looked at `count` slots. -/
structure Looking (key : Secret) (before : Machine) (count : Nat)
    (machine : Machine) : Prop where
  ram : ∃ lastResult, machine.ram = keyed key lastResult
  slots : machine.slots = before.slots
  storage : machine.storage = before.storage.drop count
  random : machine.random = before.random

theorem Looking.faultFree {key : Secret} {before machine : Machine}
    {count : Nat} (looking : Looking key before count machine)
    (faultFree : FaultFree before) : FaultFree machine :=
  faultFree.later looking.storage
    (looking.random.trans (List.drop_zero).symm)

/-- Looking at one more slot. -/
theorem Looking.validateSlot {key : Secret} {before machine : Machine}
    {count : Nat} (looking : Looking key before count machine) (slot : Slot) :
    (∃ after, validateSlot platform slot machine =
        .done (checkBlob platform key (before.slots slot)) after ∧
      Looking key before (count + 1) after ∧
      (before.slots slot).length ≤ kSecurityBlobCapacity) ∨
    (∃ after, Store.validateSlot platform slot machine =
        .done .readFailed after ∧ after.slots = before.slots ∧
      after.ram.begun = false ∧
      ((before.slots slot).length ≤ kSecurityBlobCapacity → ¬FaultFree before)) ∨
    ∃ after, Store.validateSlot platform slot machine = .cut after ∧
      after.slots = before.slots := by
  rcases looking.ram with ⟨lastResult, ram⟩
  have keyEqual : machine.ram.wrappingKey = key := by
    rw [ram]
    rfl
  rcases validateSlot_cases slot machine with
    ⟨result, run, sized⟩ | ⟨after, run, same, unbegun, fault⟩ |
      ⟨after, run, same⟩
  · left
    rw [keyEqual, looking.slots] at run
    rw [looking.slots] at sized
    refine ⟨_, run, ?_, sized⟩
    constructor
    · refine ⟨result, ?_⟩
      rw [ram]
      rfl
    · rfl
    · simp only [looking.storage]
      rw [← List.drop_one, List.drop_drop]
    · exact looking.random
  · refine .inr (.inl ⟨after, run, same.trans looking.slots, ?_, ?_⟩)
    · rw [unbegun, ram]
      rfl
    · rw [looking.slots] at fault
      intro small faultFree
      exact fault small (looking.faultFree faultFree)
  · exact .inr (.inr ⟨after, run, same.trans looking.slots⟩)

variable {key : Secret}

theorem loaded?_of_newest {hardwareId : ByteVec 8} {slots : Slot → Bytes}
    {chosen : Slot} {generation : UInt32} {plain : ByteVec kPlainBytes}
    (derived : platform.deriveWrappingKey hardwareId = some key)
    (newer : newest (generations platform key slots) = some chosen)
    (valid : checkBlob platform key (slots chosen) = .valid generation plain) :
    loaded? platform hardwareId slots =
      (decodeLoaded plain).map fun decoded =>
        { key := key
          chosen := chosen
          generation := generation
          material := decoded.1
          retiredMaterialPresent := decoded.2 } := by
  simp [loaded?, derived, newer, valid]

theorem valid_of_newest {slots : Slot → Bytes} {chosen : Slot}
    (newer : newest (generations platform key slots) = some chosen) :
    ∃ generation plain, checkBlob platform key (slots chosen) =
      .valid generation plain := by
  rcases newest_readable newer with ⟨generation, readable⟩
  simp only [generations] at readable
  cases check : checkBlob platform key (slots chosen) with
  | readFailed => simp [check, SlotCheck.generation?] at readable
  | empty => simp [check, SlotCheck.generation?] at readable
  | corrupt => simp [check, SlotCheck.generation?] at readable
  | valid found plain => exact ⟨found, plain, rfl⟩

variable {machine : Machine}

/-- The branch that found a record. -/
theorem beginLoaded_began (opens : platform.OpensSealed)
    {hardwareId : ByteVec 8} {before : Machine} {chosen : Slot}
    (derived : platform.deriveWrappingKey hardwareId = some key)
    (looking : Looking key before 2 machine)
    (newer : newest (generations platform key before.slots) =
      some chosen) (readable : ∀ slot,
      (before.slots slot).length ≤ kSecurityBlobCapacity) :
    Began platform hardwareId before
      (beginLoaded platform chosen machine) := by
  rcases valid_of_newest newer with ⟨generation, plain, valid⟩
  have found := loaded?_of_newest derived newer valid
  rw [beginLoaded, Prog.bind_apply]
  rcases looking.validateSlot chosen with
    ⟨after, run, looked, _⟩ | ⟨after, run, same, unbegun, fault⟩ |
      ⟨after, run, same⟩
  · rw [run, valid]
    simp only
    cases decoded : decodeLoaded plain with
    | none =>
      rcases looked.ram with ⟨lastResult, ram⟩
      refine .refused (by decide) looked.slots ?_ ?_
      · simp [ram, keyed, Ram.cleared]
      · intro _ _
        rw [found, decoded]
        rfl
    | some pair =>
      rcases pair with ⟨material, retiredMaterialPresent⟩
      rw [decoded] at found
      rcases looked.ram with ⟨lastResult, ram⟩
      let loaded : Loaded :=
        { key := key
          chosen := chosen
          generation := generation
          material := material
          retiredMaterialPresent := retiredMaterialPresent }
      let middle : Machine :=
        { after with ram := loaded.ram lastResult }
      have attempts := resumeLoaded_attempts opens
        (show middle.ram = loaded.ram lastResult from rfl)
      rcases attempts with ⟨outcome, attempts, equal⟩
      have unfolded :
          (do
            modifyRam fun ram =>
              { ram with
                material := material
                activeSlot := some chosen
                generation := generation }
            resumeLoaded platform retiredMaterialPresent :
              Prog Machine SecurityResult) after =
            resumeLoaded platform loaded.retiredMaterialPresent
              middle := by
        simp only [Prog.bind_apply, modifyRam, Prog.modify_apply, ram]
        rfl
      simp only
      rw [unfolded, equal]
      exact .resumed found
        (show middle.ram = loaded.ram lastResult from rfl)
        looked.slots looked.storage looked.random readable attempts
  · rw [run]
    refine .refused (by decide) same ?_ ?_
    · exact unbegun
    · intro small faultFree
      exact absurd faultFree (fault (small chosen))
  · rw [run]
    exact .stopped same

/-- The branch that found two empty slots. -/
theorem beginBlank_began (opens : platform.OpensSealed) {hardwareId : ByteVec 8}
    {before : Machine} (derived : platform.deriveWrappingKey hardwareId = some key)
    (looking : Looking key before 2 machine)
    (blank : ∀ slot, before.slots slot = []) :
    Began platform hardwareId before (beginBlank platform machine) := by
  have nothing : loaded? platform hardwareId before.slots = none := by
    have unreadable : newest (generations platform key before.slots) =
        none := by
      simp [newest, generations, blank, checkBlob, SlotCheck.generation?]
    simp [loaded?, derived, unreadable]
  rcases looking.ram with ⟨lastResult, ram⟩
  cases idDrawn : nextSource machine.random with
  | none =>
    have run : beginBlank platform machine =
        answered { machine with random := machine.random.tail }
          .cryptoFailed := by
      simp [beginBlank, randomBytes, idDrawn, setResult_apply]
    rw [run]
    refine .refused (by decide) looking.slots ?_ (fun _ _ => nothing)
    simp [ram, keyed, Ram.cleared]
  | some idSource =>
    let named : Material :=
      { Material.zeroed with deviceId := .generate _ idSource }
    cases secretDrawn : nextSource machine.random.tail with
    | none =>
      have run : beginBlank platform machine =
          answered (Machine.withMaterial
            { machine with random := machine.random.tail.tail }
            named) .cryptoFailed := by
        simp [beginBlank, randomBytes, idDrawn, secretDrawn,
          setResult_apply, modifyRam, Machine.withMaterial, named,
          ram, keyed, Ram.cleared]
      rw [run]
      refine .refused (by decide) looking.slots ?_
        (fun _ _ => nothing)
      simp [Machine.withMaterial, ram, keyed, Ram.cleared]
    | some secretSource =>
      let middle : Machine :=
        { ram :=
            { keyed key lastResult with
              begun := true
              material :=
                { named with
                  deviceSecret := .generate _ secretSource } }
          slots := machine.slots
          storage := machine.storage
          random := machine.random.tail.tail }
      have run : beginBlank platform machine =
          minting (persist platform middle) := by
        have unfolded : beginBlank platform machine =
            (do
              let persisted ← persist platform
              if persisted ≠ .ok then
                modifyRam fun ram => { ram with begun := false }
                pure persisted
              else finishBegin : Prog Machine SecurityResult)
              middle := by
          simp [beginBlank, randomBytes, idDrawn, secretDrawn,
            modifyRam, middle, named, ram, keyed, Ram.cleared]
        rw [unfolded, Prog.bind_apply]
        cases persist platform middle with
        | cut after => rfl
        | done result after => cases result <;> rfl
      rw [run]
      refine .minted derived blank ⟨rfl, rfl, rfl, rfl⟩ ?_
        (persist_attempt opens middle)
      exact looking.slots

/-- The start once both slots have been looked at. -/
theorem beginChecked_began (opens : platform.OpensSealed)
    {hardwareId : ByteVec 8} {before : Machine}
    (derived : platform.deriveWrappingKey hardwareId = some key)
    (looking : Looking key before 2 machine) (readable : ∀ slot,
      (before.slots slot).length ≤ kSecurityBlobCapacity) :
    Began platform hardwareId before
      (beginChecked platform (checkBlob platform key (before.slots .first))
        (checkBlob platform key (before.slots .second)) machine) := by
  have same : checkedGenerations
      (checkBlob platform key (before.slots .first))
      (checkBlob platform key (before.slots .second)) =
        generations platform key before.slots := by
    funext slot
    cases slot <;> rfl
  cases newer : newest (generations platform key before.slots) with
  | some chosen =>
    have branch : beginChecked platform
        (checkBlob platform key (before.slots .first))
        (checkBlob platform key (before.slots .second)) =
          beginLoaded platform chosen := by
      simp [beginChecked, same, newer]
    rw [branch]
    exact beginLoaded_began opens derived looking newer readable
  | none =>
    by_cases blank : ∀ slot, before.slots slot = []
    · have branch : beginChecked platform
          (checkBlob platform key (before.slots .first))
          (checkBlob platform key (before.slots .second)) =
            beginBlank platform := by
        rw [beginChecked, same, newer]
        simp [blank, checkBlob, SlotCheck.nonempty]
      rw [branch]
      exact beginBlank_began opens derived looking blank
    · have branch : beginChecked platform
          (checkBlob platform key (before.slots .first))
          (checkBlob platform key (before.slots .second)) =
            setResult .corruptStorage := by
        rcases not_forall.mp blank with ⟨slot, filled⟩
        have nonempty : (checkBlob platform key
            (before.slots slot)).nonempty = true := by
          simp only [checkBlob, filled, if_false]
          split <;> rfl
        cases slot <;> simp [beginChecked, same, newer, nonempty]
      rw [branch, setResult_apply]
      rcases looking.ram with ⟨lastResult, ram⟩
      refine .refused (by decide) looking.slots ?_ ?_
      · simp [ram, keyed, Ram.cleared]
      · intro _ _
        simp [loaded?, derived, newer]

/-- Every start ends in one of the listed ways. -/
theorem begin_began (opens : platform.OpensSealed)
    (hardwareId : ByteVec 8) (before : Machine) :
    Began platform hardwareId before
      (begin platform hardwareId before) := by
  cases derived : platform.deriveWrappingKey hardwareId with
  | none =>
    have run : begin platform hardwareId before =
        answered { before with ram := .cleared }
          .wrappingRootUnavailable := by
      simp [begin, derived, clear, modifyRam, setResult_apply]
    rw [run]
    refine .refused (by decide) rfl rfl ?_
    simp [loaded?, derived]
  | some key =>
    let start : Machine := { before with ram := keyed key .ok }
    have looking : Looking key before 0 start :=
      ⟨⟨_, rfl⟩, rfl, rfl, rfl⟩
    have unfolded : begin platform hardwareId before =
        (do
          let first ← validateSlot platform .first
          if first = .readFailed then setResult .storageReadFailed
          else
            modifyRam fun ram => { ram with lastResult := .ok }
            let second ← validateSlot platform .second
            if second = .readFailed then setResult .storageReadFailed
            else beginChecked platform first second :
              Prog Machine SecurityResult) start := by
      simp [begin, derived, clear, modifyRam, start, keyed]
    rw [unfolded, Prog.bind_apply]
    rcases looking.validateSlot .first with
      ⟨after, run, looked, firstSized⟩ |
        ⟨after, run, same, unbegun, fault⟩ | ⟨after, run, same⟩
    · rw [run]
      simp only [checkBlob_ne_readFailed, if_false]
      let again : Machine :=
        { after with ram := { after.ram with lastResult := .ok } }
      have lookingAgain : Looking key before 1 again := by
        rcases looked.ram with ⟨lastResult, ram⟩
        refine ⟨⟨.ok, ?_⟩, looked.slots, looked.storage, looked.random⟩
        simp only [again, ram]
        rfl
      have unfoldedAgain :
          (do
            modifyRam fun ram => { ram with lastResult := .ok }
            let second ← validateSlot platform .second
            if second = .readFailed then setResult .storageReadFailed
            else
              beginChecked platform
                (checkBlob platform key (before.slots .first)) second :
              Prog Machine SecurityResult) after =
          (do
            let second ← validateSlot platform .second
            if second = .readFailed then setResult .storageReadFailed
            else
              beginChecked platform
                (checkBlob platform key (before.slots .first)) second :
              Prog Machine SecurityResult) again :=
        rfl
      rw [unfoldedAgain, Prog.bind_apply]
      rcases lookingAgain.validateSlot .second with
        ⟨last, run, looked, secondSized⟩ |
          ⟨last, run, same, unbegun, fault⟩ | ⟨last, run, same⟩
      · rw [run]
        simp only [checkBlob_ne_readFailed, if_false]
        refine beginChecked_began opens derived looked ?_
        intro slot
        cases slot with
        | first => exact firstSized
        | second => exact secondSized
      · rw [run]
        refine .refused (by decide) same ?_ ?_
        · exact unbegun
        · intro small faultFree
          exact absurd faultFree (fault (small .second))
      · rw [run]
        exact .stopped same
    · rw [run]
      refine .refused (by decide) same ?_ ?_
      · exact unbegun
      · intro small faultFree
        exact absurd faultFree (fault (small .first))
    · rw [run]
      exact .stopped same

/-- A start that does not succeed leaves the store unusable. -/
theorem begin_unready (opens : platform.OpensSealed) {hardwareId : ByteVec 8}
    {before after : Machine}
    (run : begin platform hardwareId before = .done result after)
    (notOk : result ≠ .okReflashable) : after.ram.begun = false := by
  have began := begin_began opens hardwareId before
  rw [run] at began
  generalize equal : Outcome.done result after = ended at began
  cases began with
  | refused _ slots unbegun fault =>
    cases equal
    exact unbegun
  | stopped slots => cases equal
  | @resumed loaded machine lastResult outcome found ram slots storage
      random readable attempts =>
      cases outcome with
      | cut middle => cases equal
      | done inner middle =>
        by_cases stored : inner = .ok
        · subst stored
          cases equal
          exact absurd rfl notOk
        · rw [finishing_failed stored] at equal
          cases equal
          rfl
  | @minted key machine outcome derived blank ram slots attempt =>
    cases outcome with
    | cut middle => cases equal
    | done inner middle =>
      cases inner <;> cases equal <;> first
        | exact absurd rfl notOk
        | rfl

end Kitsu.Security.Boot

/-!
# The record behind the members

A begun store is anchored: the slot in use holds a readable record, of the
generation in the members.  An attempt writes the next generation into the other
slot, so the anchor survives it; what a later start would load is then the
anchor's record or the one the attempt tried to store, depending on what the
write left behind.
-/

namespace Kitsu.Security.Anchor

open Kitsu.Lib.ByteString
open Kitsu.Lib.Crash
open Kitsu.Lib.TwoSlot
open Kitsu.Security.Record
open Kitsu.Security.Store
open Kitsu.Security.Transaction
open Kitsu.Security.Boot

variable {platform : Platform} {hardwareId : ByteVec 8}

/-! ## Anchors -/

/-- The slot in use holds a readable record of the members' generation. -/
structure Anchored (platform : Platform) (hardwareId : ByteVec 8)
    (ram : Ram) (slots : Slot → Bytes) (recorded : Loaded) : Prop where
  derived : platform.deriveWrappingKey hardwareId = some recorded.key
  key : ram.wrappingKey = recorded.key
  activeSlot : ram.activeSlot = some recorded.chosen
  generation : ram.generation = recorded.generation
  readable : ∃ plain,
    checkBlob platform recorded.key (slots recorded.chosen) =
        .valid recorded.generation plain ∧
      decodeLoaded plain =
        some (recorded.material, recorded.retiredMaterialPresent)

section Loading

variable {ram : Ram} {slots : Slot → Bytes} {recorded : Loaded}
  {goal : Material} {blob : Bytes}

theorem Anchored.target
    (anchored : Anchored platform hardwareId ram slots recorded) :
    ram.target = recorded.chosen.other := by
  simp [Ram.target, anchored.activeSlot]

theorem loaded?_eq_some
    (derived : platform.deriveWrappingKey hardwareId = some recorded.key)
    (newer : newest (generations platform recorded.key slots) =
      some recorded.chosen) (readable : ∃ plain,
      checkBlob platform recorded.key (slots recorded.chosen) =
          .valid recorded.generation plain ∧ decodeLoaded plain =
          some (recorded.material, recorded.retiredMaterialPresent)) :
    loaded? platform hardwareId slots = some recorded := by
  rcases readable with ⟨plain, valid, decoded⟩
  rw [loaded?_of_newest derived newer valid, decoded]
  rfl

/-- What a start loads is the record of the slot it chooses. -/
theorem loaded?_iff :
    loaded? platform hardwareId slots = some recorded ↔
      platform.deriveWrappingKey hardwareId = some recorded.key ∧
      newest (generations platform recorded.key slots) =
        some recorded.chosen ∧
      ∃ plain,
        checkBlob platform recorded.key (slots recorded.chosen) =
            .valid recorded.generation plain ∧
          decodeLoaded plain =
            some (recorded.material, recorded.retiredMaterialPresent) := by
  constructor
  · intro found
    unfold loaded? at found
    cases derived : platform.deriveWrappingKey hardwareId with
    | none => simp [derived] at found
    | some key =>
      cases newer : newest (generations platform key slots) with
      | none => simp [derived, newer] at found
      | some chosen =>
        rcases valid_of_newest newer with ⟨generation, plain, valid⟩
        simp only [derived, newer, valid,
          Option.map_eq_some_iff] at found
        rcases found with ⟨⟨material, retired⟩, decoded, rfl⟩
        exact ⟨rfl, newer, plain, valid, decoded⟩
  · rintro ⟨derived, newer, readable⟩
    exact loaded?_eq_some derived newer readable

/-- The next generation, once stored, is what a start loads. -/
theorem Anchored.loaded?_stored
    (anchored : Anchored platform hardwareId ram slots recorded)
    (written : Sealed platform recorded.key (recorded.generation + 1) goal blob) :
    loaded? platform hardwareId
        (Function.update slots recorded.chosen.other blob) =
      some (recorded.next goal) := by
  rcases anchored.readable with ⟨plain, valid, _⟩
  rcases written.check with ⟨newPlain, newValid, newDecoded⟩
  refine loaded?_iff.mpr ⟨anchored.derived, ?_, newPlain, ?_, newDecoded⟩
  · have anchor : generations platform recorded.key
        (Function.update slots recorded.chosen.other blob)
        recorded.chosen = some recorded.generation := by
      simp [generations, valid, SlotCheck.generation?]
    refine newest_of_other_succ anchor ?_
    simp [generations, newValid, Loaded.next, SlotCheck.generation?]
  · simpa [Loaded.next] using newValid

/-- When the other slot is lost, a start loads the anchor. -/
theorem Anchored.loaded?_lost
    (anchored : Anchored platform hardwareId ram slots recorded)
    (lost : Unreadable platform recorded.key blob) :
    loaded? platform hardwareId
        (Function.update slots recorded.chosen.other blob) =
      some recorded := by
  rcases anchored.readable with ⟨plain, valid, decoded⟩
  refine loaded?_iff.mpr ⟨anchored.derived, ?_, plain, ?_, decoded⟩
  · have anchor : generations platform recorded.key
        (Function.update slots recorded.chosen.other blob)
        recorded.chosen = some recorded.generation := by
      simp [generations, valid, SlotCheck.generation?]
    refine newest_of_other_none anchor ?_
    simpa [generations] using lost.generation?
  · simpa using valid

end Loading

/-! ## Attempts from an anchor -/

/-- Every slot can be read in one piece. -/
def Fits (slots : Slot → Bytes) : Prop :=
  ∀ slot, (slots slot).length ≤ kSecurityBlobCapacity

/-- What a write into the other slot left there. -/
def LeftBehind (platform : Platform) (before : Machine) (goal : Material)
    (now : Bytes) : Prop :=
  now = before.slots before.ram.target ∨
    Unreadable platform before.ram.wrappingKey now ∨
    Sealed platform before.ram.wrappingKey (before.ram.generation + 1)
      goal now

section Attempts

variable {before after : Machine} {recorded : Loaded} {goal : Material}
  {cost : Nat} {now : Bytes}

theorem LeftBehind.fits (fits : Fits before.slots)
    (left : LeftBehind platform before goal now) (slots : after.slots =
      Function.update before.slots before.ram.target now) : Fits after.slots := by
  intro slot
  rw [slots]
  by_cases changed : slot = before.ram.target
  · subst changed
    rw [Function.update_self]
    rcases left with rfl | unreadable | written
    · exact fits _
    · exact unreadable.2
    · exact written.sized
  · rw [Function.update_of_ne changed]
    exact fits slot

/-- A write into the other slot does not move the anchor. -/
theorem Anchored.written
    (anchored : Anchored platform hardwareId before.ram before.slots recorded)
    (slots : after.slots = Function.update before.slots before.ram.target now) :
    Anchored platform hardwareId before.ram after.slots recorded := by
  constructor
  · exact anchored.derived
  · exact anchored.key
  · exact anchored.activeSlot
  · exact anchored.generation
  · rw [slots, anchored.target, Function.update_of_ne (ne_other _)]
    exact anchored.readable

/-- What a start loads after a write that may not have been completed. -/
theorem LeftBehind.loaded?
    (anchored : Anchored platform hardwareId before.ram before.slots recorded)
    (left : LeftBehind platform before goal now) (slots : after.slots =
      Function.update before.slots before.ram.target now) :
    after.slots = before.slots ∨
      loaded? platform hardwareId after.slots = some recorded ∨
      loaded? platform hardwareId after.slots =
        some (recorded.next goal) := by
  rcases left with rfl | unreadable | written
  · left
    rw [slots, Function.update_eq_self]
  · rw [anchored.key] at unreadable
    rw [slots, anchored.target]
    exact .inr (.inl (anchored.loaded?_lost unreadable))
  · rw [anchored.key, anchored.generation] at written
    rw [slots, anchored.target]
    exact .inr (.inr (anchored.loaded?_stored written))

/-- A stored record is the new anchor, and what a start loads. -/
theorem Attempt.anchored
    (anchored : Anchored platform hardwareId before.ram before.slots recorded)
    (attempt : Attempt platform cost before goal (.done .ok after)) :
    Anchored platform hardwareId after.ram after.slots
        (recorded.next goal) ∧
      loaded? platform hardwareId after.slots =
        some (recorded.next goal) ∧
      after.ram.material = goal ∧
      after.ram.begun = before.ram.begun := by
  cases attempt with
  | failed notOk => exact absurd rfl notOk
  | stored written slots members storage random calls =>
    rw [anchored.key, anchored.generation] at written
    have found : loaded? platform hardwareId after.slots =
        some (recorded.next goal) := by
      rw [slots, anchored.target]
      exact anchored.loaded?_stored written
    have parts := loaded?_iff.mp found
    refine ⟨?_, found, ?_, ?_⟩
    · constructor
      · exact parts.1
      · rw [members]
        exact anchored.key
      · rw [members]
        exact congrArg some anchored.target
      · rw [members]
        exact congrArg (· + 1) anchored.generation
      · exact parts.2.2
    · rw [members]
      rfl
    · rw [members]
      rfl

end Attempts

end Kitsu.Security.Anchor
