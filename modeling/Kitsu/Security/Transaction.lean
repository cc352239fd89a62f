import Kitsu.Security.Store

/-!
# What a storage transaction can do

Every change of the store is a sequence of attempts to put the next generation
into the slot that is not in use.  `Attempt` lists the ways an attempt can end:
the record was stored and read back, the call failed with the members as they
were, or the power was cut.  In the last two cases the target slot is as it was,
unreadable, or holds the new record.  `Attempts` chains them, and the theorems
of the last section express every public call of the store in these terms.
-/

namespace Kitsu.Security.Transaction

open Kitsu.Lib.ByteString
open Kitsu.Lib.Crash
open Kitsu.Lib.TwoSlot
open Kitsu.Ble.Permissions
open Kitsu.Security.Record
open Kitsu.Security.Store

variable (platform : Platform)

/-- The blob is a record of this generation and material. -/
def Sealed (key : Secret) (generation : UInt32) (material : Material)
    (blob : Bytes) : Prop :=
  ∃ plain, encodePlain material = some plain ∧
    validateBlob platform key blob = some (generation, plain)

/-- The blob fits a slot and holds no record. -/
def Unreadable (key : Secret) (blob : Bytes) : Prop :=
  validateBlob platform key blob = none ∧
    blob.length ≤ kSecurityBlobCapacity

/--
The write stores its record and the caller is nevertheless told that it
failed: the write itself reports a failure, or the read-back does.
-/
def unreported : List StorageOutcome → Bool
  | .failed .written :: _ => true
  | .complete :: .failed _ :: _ => true
  | _ => false

/-- The call completes. -/
def StorageOutcome.isComplete : StorageOutcome → Bool
  | .complete => true
  | _ => false

/-- No call of this environment reports a failure. -/
def FaultFree (machine : Machine) : Prop :=
  (∀ outcome ∈ machine.storage, ∀ residue, outcome ≠ .failed residue) ∧
    ∀ source ∈ machine.random, source ≠ none

/-- The platform can seal every body. -/
def Seals : Prop :=
  ∀ key generation nonce plain,
    (platform.sealRecord key generation nonce plain).isSome

/--
How an attempt to store `goal` as the next generation can end.  `cost` is the
number of storage calls of an attempt that succeeds; the last two are the write
and its read-back.
-/
inductive Attempt (cost : Nat) (before : Machine) (goal : Material) :
    Outcome Machine SecurityResult → Prop where
  | stored {after : Machine} {blob : Bytes}
      (written : Sealed platform before.ram.wrappingKey
        (before.ram.generation + 1) goal blob)
      (slots : after.slots = Function.update before.slots before.ram.target blob)
      (ram : after.ram =
        Ram.persisted { before.ram with material := goal })
      (storage : after.storage = before.storage.drop cost)
      (random : after.random = before.random.tail)
      (calls : (before.storage.take cost).all StorageOutcome.isComplete = true) :
      Attempt cost before goal (.done .ok after)
  | failed {after : Machine} {result : SecurityResult} {now : Bytes}
      (notOk : result ≠ .ok)
      (unready : result ≠ .okReflashable)
      (slots : after.slots = Function.update before.slots before.ram.target now)
      (left : now = before.slots before.ram.target ∨
        Unreadable platform before.ram.wrappingKey now ∨
        Sealed platform before.ram.wrappingKey
            (before.ram.generation + 1) goal now ∧
          unreported (before.storage.drop (cost - 2)) = true ∧
          nextSource before.random ≠ none)
      (ram : after.ram = { before.ram with lastResult := result })
      (fault : Seals platform → FaultFree before → ¬goal.controllers.Storable) :
      Attempt cost before goal (.done result after)
  | interrupted {after : Machine} {now : Bytes}
      (slots : after.slots = Function.update before.slots before.ram.target now)
      (left : now = before.slots before.ram.target ∨
        Unreadable platform before.ram.wrappingKey now ∨
        Sealed platform before.ram.wrappingKey
          (before.ram.generation + 1) goal now) :
      Attempt cost before goal (.cut after)

section Residues

variable {platform} {key : Secret} {old new : Bytes}

theorem unreadable_nil : Unreadable platform key [] :=
  ⟨rfl, Nat.zero_le _⟩

theorem leaves_cases (residue : Residue) :
    residue.leaves platform key old new = old ∨
      Unreadable platform key
        (residue.leaves platform key old new) ∨
      residue = .written ∧
        residue.leaves platform key old new = new := by
  cases residue with
  | kept => exact .inl rfl
  | written => exact .inr (.inr ⟨rfl, rfl⟩)
  | emptied => exact .inr (.inl unreadable_nil)
  | torn blob =>
    refine .inr (.inl ?_)
    simp only [Residue.leaves]
    split
    · exact unreadable_nil
    · rename_i unopened
      rcases not_or.mp unopened with ⟨unopened, sized⟩
      exact ⟨by simpa using unopened, Nat.not_lt.mp sized⟩

end Residues

variable {before : Machine}

section Outcomes

variable {storage : List StorageOutcome} {residue : Residue}

theorem not_failed_of_all (faultFree : ∀ outcome ∈ storage, ∀ residue,
      outcome ≠ .failed residue) : nextOutcome storage ≠ .failed residue := by
  cases storage with
  | nil => simp [nextOutcome]
  | cons outcome rest => exact faultFree outcome (by simp) residue

theorem unreported_of_write (writing : nextOutcome storage = .failed .written) :
    unreported storage = true := by
  cases storage with
  | nil => simp [nextOutcome] at writing
  | cons outcome rest =>
    simp only [nextOutcome] at writing
    simp [writing, unreported]

theorem unreported_of_read (writing : nextOutcome storage = .complete)
    (reading : nextOutcome storage.tail = .failed residue) :
    unreported storage = true := by
  cases storage with
  | nil => simp [nextOutcome] at reading
  | cons outcome rest =>
    cases rest with
    | nil => simp [nextOutcome] at reading
    | cons readback rest =>
      simp only [nextOutcome, List.tail_cons] at writing reading
      simp [writing, reading, unreported]

theorem take_two_complete (writing : nextOutcome storage = .complete)
    (reading : nextOutcome storage.tail = .complete) :
    (storage.take 2).all StorageOutcome.isComplete = true := by
  cases storage with
  | nil => rfl
  | cons outcome rest =>
    cases rest with
    | nil =>
      simp only [nextOutcome] at writing
      simp [writing, StorageOutcome.isComplete]
    | cons readback rest =>
      simp only [nextOutcome, List.tail_cons] at writing reading
      simp [writing, reading, StorageOutcome.isComplete]

theorem FaultFree.later {after : Machine} (faultFree : FaultFree before)
    {count drawn : Nat} (storage : after.storage = before.storage.drop count)
    (random : after.random = before.random.drop drawn) : FaultFree after := by
  constructor
  · intro outcome member
    rw [storage] at member
    exact faultFree.1 outcome (List.mem_of_mem_drop member)
  · intro source member
    rw [random] at member
    exact faultFree.2 source (List.mem_of_mem_drop member)

end Outcomes

/-! ## One record -/

variable {platform}

section Reading

variable {key : Secret} {generation : UInt32} {material : Material}
  {blob : Bytes}

theorem Sealed.check (written : Sealed platform key generation material blob) :
    ∃ plain, checkBlob platform key blob = .valid generation plain ∧
      decodeLoaded plain = some (material, false) := by
  rcases written with ⟨plain, encoded, validated⟩
  have nonempty : blob ≠ [] := by
    rintro rfl
    simp [validateBlob] at validated
  refine ⟨plain, ?_, decodeLoaded_encodePlain encoded⟩
  simp [checkBlob, nonempty, validated]

theorem Unreadable.generation? (unreadable : Unreadable platform key blob) :
    (checkBlob platform key blob).generation? = none := by
  unfold checkBlob
  split
  · rfl
  · rw [unreadable.1]
    rfl

theorem Sealed.sized (written : Sealed platform key generation material blob) :
    blob.length ≤ kSecurityBlobCapacity := by
  rcases written with ⟨plain, _, validated⟩
  unfold validateBlob at validated
  split at validated
  · simp at validated
  · rename_i wellFormed
    have length_eq : blob.length = kOuterHeaderBytes + kPlainBytes := by
      by_contra different
      exact wellFormed (.inl different)
    rw [length_eq]
    decide

end Reading

/-- Drawing a nonce and sealing the members' material. -/
theorem encodeNext_cases (opens : platform.OpensSealed)
    (before : Machine) (generation : UInt32) :
    (∃ random, encodeNext platform generation before =
        .done none { before with random := random } ∧
      (Seals platform → FaultFree before →
        ¬before.ram.material.controllers.Storable)) ∨
    ∃ blob, encodeNext platform generation before =
        .done (some blob) { before with random := before.random.tail } ∧
      Sealed platform before.ram.wrappingKey generation
        before.ram.material blob ∧
      blob.length ≤ kSecurityBlobCapacity ∧
      nextSource before.random ≠ none := by
  cases encoded : encodePlain before.ram.material with
  | none =>
    refine .inl ⟨before.random, ?_, ?_⟩
    · simp [encodeNext, encoded]
    · intro _ _ storable
      rcases encodePlain_storable storable with ⟨plain, stored⟩
      simp [stored] at encoded
  | some plain =>
    cases drawn : nextSource before.random with
    | none =>
      refine .inl ⟨before.random.tail, ?_, ?_⟩
      · simp [encodeNext, encoded, randomBytes, drawn]
      · intro _ faultFree _
        cases sources : before.random with
        | nil => simp [nextSource, sources] at drawn
        | cons source rest =>
          simp only [nextSource, sources] at drawn
          exact faultFree.2 source (by simp [sources]) drawn
    | some source =>
      cases record : encode platform before.ram.wrappingKey generation
          before.ram.material
          (.generate kSecurityNonceBytes source) with
      | none =>
        refine .inl ⟨before.random.tail, ?_, ?_⟩
        · simp [encodeNext, encoded, randomBytes, drawn, record]
        · intro seals _ _
          simp only [encode, encoded, Option.bind_eq_bind,
            Option.bind_some, Option.bind_eq_none_iff] at record
          rcases Option.isSome_iff_exists.mp
            (seals before.ram.wrappingKey generation
              (.generate kSecurityNonceBytes source) plain) with
            ⟨output, sealedOutput⟩
          exact absurd (record output sealedOutput) (by simp)
      | some blob =>
        refine .inr ⟨blob, ?_, ?_, ?_, by simp⟩
        · simp [encodeNext, encoded, randomBytes, drawn, record]
        · exact validateBlob_encode platform _ opens record
        · rw [length_encode platform _ record]
          decide

/-- Writing a record and reading it back is an attempt to store it. -/
theorem persist_attempt (opens : platform.OpensSealed) (before : Machine) :
    Attempt platform 2 before before.ram.material
      (persist platform before) := by
  have unchanged := (Function.update_eq_self before.ram.target before.slots).symm
  rcases encodeNext_cases opens before (before.ram.generation + 1) with
    ⟨random, encoded, fault⟩ | ⟨blob, encoded, written, sized, drawn⟩
  · have run : persist platform before =
        .done .cryptoFailed { before with
          ram := { before.ram with lastResult := .cryptoFailed }
          random := random } := by
      simp [persist, encoded, setResult, modifyRam]
    rw [run]
    exact .failed (by decide) (by decide) unchanged (.inl rfl) rfl fault
  · rcases written.check with ⟨plain, checked, _⟩
    cases writing : nextOutcome before.storage with
    | failed residue =>
      have run : persist platform before =
          .done .storageWriteFailed
            { ram := { before.ram with
                lastResult := .storageWriteFailed }
              slots := Function.update before.slots before.ram.target
                (residue.leaves platform before.ram.wrappingKey
                  (before.slots before.ram.target) blob)
              storage := before.storage.tail
              random := before.random.tail } := by
          simp [persist, encoded, setResult, modifyRam, changeSlot,
          Machine.changed, writing]
      rw [run]
      refine .failed (by decide) (by decide) rfl ?_ rfl ?_
      · rcases leaves_cases residue with kept | unreadable | stored
        · exact .inl kept
        · exact .inr (.inl unreadable)
        · rcases stored with ⟨rfl, stored⟩
          refine .inr (.inr ⟨?_, unreported_of_write writing, drawn⟩)
          rwa [stored]
      · intro _ faultFree _
        exact not_failed_of_all faultFree.1 writing
    | cut residue =>
      have run : persist platform before =
          .cut
            { ram := before.ram
              slots := Function.update before.slots before.ram.target
                (residue.leaves platform before.ram.wrappingKey
                  (before.slots before.ram.target) blob)
              storage := before.storage.tail
              random := before.random.tail } := by
          simp [persist, encoded, changeSlot, Machine.changed, writing]
      rw [run]
      refine .interrupted rfl ?_
      rcases leaves_cases residue with kept | unreadable | stored
      · exact .inl kept
      · exact .inr (.inl unreadable)
      · rw [stored.2]
        exact .inr (.inr written)
    | complete =>
      cases reading : nextOutcome before.storage.tail with
      | failed residue =>
        have run : persist platform before =
            .done .readbackFailed
              { ram := { before.ram with
                  lastResult := .readbackFailed }
                slots := Function.update before.slots
                  before.ram.target blob
                storage := before.storage.tail.tail
                random := before.random.tail } := by
          simp [persist, encoded, setResult, modifyRam, changeSlot,
            Machine.changed, writing, reading, validateSlot, readSlot]
        rw [run]
        refine .failed (by decide) (by decide) rfl
          (.inr (.inr ⟨written, ?_, drawn⟩)) rfl ?_
        · exact unreported_of_read writing reading
        · intro _ faultFree _
          refine not_failed_of_all ?_ reading
          intro outcome member
          exact faultFree.1 outcome (List.mem_of_mem_tail member)
      | cut residue =>
        have run : persist platform before =
            .cut
              { ram := { before.ram with lastResult := .ok }
                slots := Function.update before.slots
                  before.ram.target blob
                storage := before.storage.tail.tail
                random := before.random.tail } := by
          simp [persist, encoded, modifyRam, changeSlot,
            Machine.changed, writing, reading, validateSlot, readSlot]
        rw [run]
        exact .interrupted rfl (.inr (.inr written))
      | complete =>
        have run : persist platform before =
            .done .ok
              { ram := before.ram.persisted
                slots := Function.update before.slots
                  before.ram.target blob
                storage := before.storage.tail.tail
                random := before.random.tail } := by
          simp [persist, encoded, modifyRam, changeSlot,
            Machine.changed, writing, reading,
            validateSlot, readSlot, sized, checked, Ram.persisted, Ram.target]
        rw [run]
        refine .stored written rfl rfl ?_ rfl ?_
        · simp only [← List.drop_one, List.drop_drop]
        · exact take_two_complete writing reading

/-! ## Attempts of the public calls -/

/-- Restore the material of a call that did not succeed. -/
def rollBack (material : Material) :
    Outcome Machine SecurityResult → Outcome Machine SecurityResult
  | .done .ok after => .done .ok after
  | .done result after =>
    .done result { after with
      ram := { after.ram with material := material } }
  | .cut after => .cut after

theorem rollBack_failed {material : Material} {result : SecurityResult}
    {after : Machine} (notOk : result ≠ .ok) :
    rollBack material (.done result after) =
      .done result { after with
        ram := { after.ram with material := material } } := by
  cases result <;> first | rfl | exact absurd rfl notOk

/--
An attempt made after some calls that touched only its target slot, by a caller
that restores the material when it fails, is one longer attempt.
-/
theorem Attempt.rollBack {before middle : Machine} {goal : Material}
    {outcome : Outcome Machine SecurityResult} {offset : Nat} {start : Bytes}
    (attempt : Attempt platform 2 middle goal outcome)
    (ram : middle.ram = { before.ram with material := goal })
    (slots : middle.slots = Function.update before.slots before.ram.target start)
    (started : start = before.slots before.ram.target ∨
      Unreadable platform before.ram.wrappingKey start)
    (storage : middle.storage = before.storage.drop offset)
    (random : middle.random = before.random)
    (calls : (before.storage.take offset).all StorageOutcome.isComplete = true) :
    Attempt platform (offset + 2) before goal
      (rollBack before.ram.material outcome) := by
  have target : middle.ram.target = before.ram.target := by
    rw [ram]
    rfl
  have key : middle.ram.wrappingKey = before.ram.wrappingKey := by
    rw [ram]
  have generation : middle.ram.generation = before.ram.generation := by
    rw [ram]
  have overwrite (blob : Bytes) :
      Function.update middle.slots middle.ram.target blob =
        Function.update before.slots before.ram.target blob := by
    rw [slots, target, Function.update_idem]
  have startSlot : middle.slots middle.ram.target = start := by
    rw [slots, target, Function.update_self]
  cases attempt with
  | stored written changed members rest sources completed =>
    rw [key, generation] at written
    rw [overwrite] at changed
    refine .stored written changed ?_ ?_ ?_ ?_
    · rw [members, ram]
    · rw [rest, storage, List.drop_drop]
    · rw [sources, random]
    · rw [storage] at completed
      rw [List.take_add, List.all_append, calls, completed]
      rfl
  | failed notOk unready changed left members fault =>
    rw [key, generation, startSlot, storage, List.drop_drop] at left
    rw [overwrite] at changed
    rw [rollBack_failed notOk]
    refine .failed notOk unready changed ?_ ?_ ?_
    · rcases left with rfl | unreadable | ⟨written, silent⟩
      · exact started.imp id .inl
      · exact .inr (.inl unreadable)
      · rw [random] at silent
        exact .inr (.inr ⟨written, silent⟩)
    · simp [members, ram]
    · intro seals faultFree
      exact fault seals (faultFree.later storage
        (random.trans (List.drop_zero).symm))
  | interrupted changed left =>
    rw [key, generation, startSlot] at left
    rw [overwrite] at changed
    refine .interrupted changed ?_
    rcases left with rfl | unreadable | written
    · exact started.imp id .inl
    · exact .inr (.inl unreadable)
    · exact .inr (.inr written)

/-- The material once its retirement is finished. -/
def finished (material : Material) : Material :=
  { material with controllerRetirementPending := false }

/-- The closing lines of a retirement restore the pending bit on failure. -/
theorem finalize_rollBack (opens : platform.OpensSealed) {middle : Machine}
    (pending : before.ram.material.controllerRetirementPending = true)
    (ram : middle.ram =
      { before.ram with material := finished before.ram.material }) :
    (do
      let finalized ← persist platform
      if finalized ≠ .ok then
        setPending true
        pure finalized
      else setResult .ok : Prog Machine SecurityResult) middle =
      rollBack before.ram.material (persist platform middle) := by
  have attempt := persist_attempt opens middle
  rw [Prog.bind_apply]
  generalize persist platform middle = outcome at attempt
  cases attempt with
  | stored written changed members rest sources completed =>
    rename_i after blob
    rcases after with ⟨afterRam, slots, storage, random⟩
    subst members
    rfl
  | failed notOk unready changed left members fault =>
    rename_i after result now
    rw [rollBack_failed notOk]
    rcases after with ⟨afterRam, slots, storage, random⟩
    simp only [ram] at members
    subst members
    simp [notOk, setPending, modifyRam, finished, ← pending]
  | interrupted changed left => rfl

variable {active : Slot}

theorem retire_attempt (opens : platform.OpensSealed)
    (pending : before.ram.material.controllerRetirementPending = true)
    (activeSlot : before.ram.activeSlot = some active) :
    Attempt platform 4 before (finished before.ram.material)
      (retirePreviousSlot platform before) := by
  have target : before.ram.target = active.other := by
    simp [Ram.target, activeSlot]
  have emptied : Unreadable platform before.ram.wrappingKey [] :=
    unreadable_nil
  have cleared (residue : Residue) :
      residue.leaves platform before.ram.wrappingKey
          (before.slots before.ram.target) [] =
        before.slots before.ram.target ∨
      Unreadable platform before.ram.wrappingKey
        (residue.leaves platform before.ram.wrappingKey
          (before.slots before.ram.target) []) := by
    rcases leaves_cases residue with kept | unreadable | ⟨_, stored⟩
    · exact .inl kept
    · exact .inr unreadable
    · rw [stored]
      exact .inr emptied
  cases clearing : nextOutcome before.storage with
  | failed residue =>
    have run : retirePreviousSlot platform before =
        .done .storageWriteFailed
          { ram := { before.ram with lastResult := .storageWriteFailed }
            slots := Function.update before.slots before.ram.target
              (residue.leaves platform before.ram.wrappingKey
                (before.slots before.ram.target) [])
            storage := before.storage.tail
            random := before.random } := by
      simp [retirePreviousSlot, pending, activeSlot, target, setResult,
        modifyRam, changeSlot, Machine.changed, clearing]
    rw [run]
    refine .failed (by decide) (by decide) rfl ?_ rfl ?_
    · exact (cleared residue).imp id .inl
    · intro _ faultFree _
      exact not_failed_of_all faultFree.1 clearing
  | cut residue =>
    have run : retirePreviousSlot platform before =
        .cut
          { ram := before.ram
            slots := Function.update before.slots before.ram.target
              (residue.leaves platform before.ram.wrappingKey
                (before.slots before.ram.target) [])
            storage := before.storage.tail
            random := before.random } := by
      simp [retirePreviousSlot, pending, activeSlot, target,
        changeSlot, Machine.changed, clearing]
    rw [run]
    exact .interrupted rfl ((cleared residue).imp id .inl)
  | complete =>
    cases reading : nextOutcome before.storage.tail with
    | failed residue =>
      have run : retirePreviousSlot platform before =
          .done .storageReadFailed
            { ram := { before.ram with
                lastResult := .storageReadFailed }
              slots := Function.update before.slots
                before.ram.target []
              storage := before.storage.tail.tail
              random := before.random } := by
        simp [retirePreviousSlot, pending, activeSlot, target,
          setResult, modifyRam, changeSlot, Machine.changed, clearing,
          readSlot, reading]
      rw [run]
      refine .failed (by decide) (by decide) rfl (.inr (.inl emptied)) rfl ?_
      intro _ faultFree _
      refine not_failed_of_all ?_ reading
      intro outcome member
      exact faultFree.1 outcome (List.mem_of_mem_tail member)
    | cut residue =>
      have run : retirePreviousSlot platform before =
          .cut
            { ram := before.ram
              slots := Function.update before.slots
                before.ram.target []
              storage := before.storage.tail.tail
              random := before.random } := by
        simp [retirePreviousSlot, pending, activeSlot, target,
          changeSlot, Machine.changed, clearing, readSlot, reading]
      rw [run]
      exact .interrupted rfl (.inr (.inl emptied))
    | complete =>
      let middle : Machine :=
        { ram := { before.ram with
            material := finished before.ram.material }
          slots := Function.update before.slots before.ram.target []
          storage := before.storage.tail.tail
          random := before.random }
      have run : retirePreviousSlot platform before =
          rollBack before.ram.material (persist platform middle) := by
        rw [← finalize_rollBack opens pending
          (show middle.ram = _ from rfl)]
        simp [retirePreviousSlot, pending, activeSlot, target,
          changeSlot, Machine.changed, clearing, readSlot, reading,
          setPending, modifyRam, middle, finished]
      rw [run]
      exact (persist_attempt opens middle).rollBack rfl rfl
        (.inr emptied) (by simp [middle, ← List.drop_one]) rfl
        (take_two_complete clearing reading)

/-! ## Chains of attempts -/

/--
Attempts made one after the other, each from the state the last one stored,
until one does not succeed.
-/
inductive Attempts (platform : Platform) :
    Machine → List (Nat × Material) →
      Outcome Machine SecurityResult → Prop where
  | done {before : Machine} :
      Attempts platform before [] (.done .ok before)
  | stop {before : Machine} {cost : Nat} {goal : Material}
      {rest : List (Nat × Material)}
      {outcome : Outcome Machine SecurityResult}
      (attempt : Attempt platform cost before goal outcome)
      (stopped : ∀ after, outcome ≠ .done .ok after) :
      Attempts platform before ((cost, goal) :: rest) outcome
  | next {before middle : Machine} {cost : Nat} {goal : Material}
      {rest : List (Nat × Material)}
      {outcome : Outcome Machine SecurityResult}
      (attempt : Attempt platform cost before goal (.done .ok middle))
      (later : Attempts platform middle rest outcome) :
      Attempts platform before ((cost, goal) :: rest) outcome

/-- One attempt is a chain of length one. -/
theorem Attempt.single {cost : Nat} {goal : Material}
    {outcome : Outcome Machine SecurityResult}
    (attempt : Attempt platform cost before goal outcome) :
    Attempts platform before [(cost, goal)] outcome := by
  cases outcome with
  | cut after => exact .stop attempt (by simp)
  | done result after =>
    by_cases stored : result = .ok
    · subst stored
      exact .next attempt .done
    · exact .stop attempt (by simpa using stored)

/-- A call that only sets its result. -/
def answered (before : Machine) (result : SecurityResult) :
    Outcome Machine SecurityResult :=
  .done result { before with
    ram := { before.ram with lastResult := result } }

theorem setResult_apply (before : Machine) (result : SecurityResult) :
    setResult result before = answered before result :=
  rfl

/-- Run a program after an attempt that stored its goal. -/
theorem Attempt.andThen {cost : Nat} {goal : Material}
    {first : Prog Machine SecurityResult} {second : Prog Machine SecurityResult}
    {rest : List (Nat × Material)}
    (attempt : Attempt platform cost before goal (first before))
    (later : ∀ middle, first before = .done .ok middle →
      Attempts platform middle rest (second middle)) :
    Attempts platform before ((cost, goal) :: rest) ((do
        let result ← first
        if result ≠ .ok then pure result else second :
          Prog Machine SecurityResult) before) := by
  rw [Prog.bind_apply]
  cases run : first before with
  | cut after =>
    rw [run] at attempt
    exact .stop attempt (by simp)
  | done result after =>
    rw [run] at attempt
    by_cases stored : result = .ok
    · subst stored
      exact .next attempt (by simpa using later after run)
    · simp only [ne_eq, stored, not_false_eq_true, if_true, Prog.pure_apply]
      exact .stop attempt (by simpa using stored)

/-- The material with another table and the pending bit set. -/
def retiring (material : Material) (table : ControllerTable) : Material :=
  { material with
    controllers := table, controllerRetirementPending := true }

/-- The attempts that replace the table and retire the slot of the old one. -/
def retirePlan (material : Material) (table : ControllerTable) :
    List (Nat × Material) :=
  [(2, retiring material table), (4, finished (retiring material table))]

/-- The members of a machine with another material. -/
def Machine.withMaterial (machine : Machine) (material : Material) :
    Machine :=
  { machine with ram := { machine.ram with material := material } }

/-- Storing another material, restoring the members if that fails. -/
def store (platform : Platform) (goal : Material) :
    Prog Machine SecurityResult :=
  fun before => rollBack before.ram.material
    (persist platform (Machine.withMaterial before goal))

theorem store_attempt (opens : platform.OpensSealed) (before : Machine)
    (goal : Material) :
    Attempt platform 2 before goal (store platform goal before) :=
  Attempt.rollBack (persist_attempt opens (Machine.withMaterial before goal))
    rfl (Function.update_eq_self _ _).symm (.inl rfl)
    (List.drop_zero).symm rfl rfl

theorem retireTable_attempts (opens : platform.OpensSealed)
    (table : ControllerTable)
    (settled : before.ram.material.controllerRetirementPending = false) :
    Attempts platform before (retirePlan before.ram.material table)
      (retireTable platform table before) := by
  let goal := retiring before.ram.material table
  have run : retireTable platform table before =
      (do
        let result ← store platform goal
        if result ≠ .ok then pure result
        else retirePreviousSlot platform :
          Prog Machine SecurityResult) before := by
    have attempt := persist_attempt opens
      (Machine.withMaterial before goal)
    have unfolded : retireTable platform table before =
        (do
          let result ← persist platform
          if result ≠ .ok then
            setControllers before.ram.material.controllers
            setPending false
            pure result
          else retirePreviousSlot platform :
            Prog Machine SecurityResult)
          (Machine.withMaterial before goal) :=
      rfl
    rw [unfolded, Prog.bind_apply, Prog.bind_apply, store]
    generalize persist platform (Machine.withMaterial before goal) =
      outcome at attempt
    cases attempt with
    | stored written changed members rest sources completed => rfl
    | failed notOk unready changed left members fault =>
      rename_i after result now
      rcases after with ⟨afterRam, slots, storage, random⟩
      simp only [Machine.withMaterial] at members
      subst members
      simp [rollBack_failed notOk, notOk, goal, retiring, ← settled,
        setControllers, setPending, modifyRam]
    | interrupted changed left => rfl
  rw [run]
  refine (store_attempt opens before goal).andThen ?_
  intro middle stored
  have attempt := store_attempt opens before goal
  rw [stored] at attempt
  cases attempt with
  | failed notOk => exact absurd rfl notOk
  | stored written changed members rest sources completed =>
    have pending :
        middle.ram.material.controllerRetirementPending = true := by
      rw [members]
      rfl
    have activeSlot : middle.ram.activeSlot = some before.ram.target := by
      rw [members]
      rfl
    have material : middle.ram.material = goal := by
      rw [members]
      rfl
    have retire := retire_attempt opens pending activeSlot
    rw [material] at retire
    exact retire.single

/-! ## The plan of a change -/

/-- The attempts of a revocation that finds no retirement pending. -/
def revokePlan (controllerId : ControllerId) (material : Material) :
    List (Nat × Material) :=
  match material.controllers.indexOf controllerId with
  | none => []
  | some target =>
    retirePlan material (material.controllers.set target .zeroed)

/-- The attempts of a revocation of every controller. -/
def revokeEveryPlan (material : Material) : List (Nat × Material) :=
  if material.controllers.entries.any (·.valid) then
    retirePlan material .empty
  else []

/-- A pending retirement is finished first. -/
def resumePlan (rest : Material → List (Nat × Material))
    (material : Material) : List (Nat × Material) :=
  if material.controllerRetirementPending then
    (4, finished material) :: rest (finished material)
  else rest material

/-- The table a pairing stores, when it is admitted. -/
def pairedTable (ram : Ram) (pairing : PairingCommit) :
    Option ControllerTable :=
  if ram.begun && pairing.role != .invalid && pairing.facts.all &&
      pairing.pairCommitVerified && !pairing.controllerId.allZero &&
      !pairing.pendingRoot.allZero then
    (pairingTarget ram.material.controllers pairing.controllerId).map
      fun target =>
        ram.material.controllers.set target pairing.controller
  else none

/-- The attempts a change makes; a change that is refused makes none. -/
def plan (ram : Ram) : ControllerChange → List (Nat × Material)
  | .commit pairing =>
    match pairedTable ram pairing with
    | none => []
    | some table => [(2, { ram.material with controllers := table })]
  | .revoke controllerId physicalConfirmed =>
    if ram.begun && physicalConfirmed then
      resumePlan (revokePlan controllerId) ram.material
    else []
  | .revokeAuthenticated controllerId =>
    if ram.begun then resumePlan (revokePlan controllerId) ram.material
    else []
  | .revokeAll physicalConfirmed =>
    if ram.begun && physicalConfirmed then
      resumePlan revokeEveryPlan ram.material
    else []

section

variable (opens : platform.OpensSealed)

include opens

theorem commit_eq_store {pairing : PairingCommit} {table : ControllerTable}
    (paired : pairedTable before.ram pairing = some table) :
    commitControllerAfterPairing platform pairing before =
      store platform
        { before.ram.material with controllers := table } before := by
  simp only [pairedTable] at paired
  split at paired
  · rename_i admitted
    simp only [Bool.and_eq_true, bne_iff_ne, Bool.not_eq_true'] at admitted
    rcases admitted with
      ⟨⟨⟨⟨⟨begun, role⟩, authorized⟩, verified⟩, idSet⟩, rootSet⟩
    simp only [Option.map_eq_some_iff] at paired
    rcases paired with ⟨target, found, rfl⟩
    have attempt := persist_attempt opens
      (Machine.withMaterial before { before.ram.material with
        controllers := before.ram.material.controllers.set target
          pairing.controller })
    have unfolded : commitControllerAfterPairing platform pairing before =
        (do
          let persisted ← persist platform
          if persisted ≠ .ok then
            setControllers before.ram.material.controllers
          pure persisted : Prog Machine SecurityResult)
          (Machine.withMaterial before { before.ram.material with
            controllers := before.ram.material.controllers.set target
              pairing.controller }) := by
      simp [commitControllerAfterPairing, begun, role, authorized,
        verified, idSet, rootSet, found, setControllers, modifyRam,
        Machine.withMaterial]
    rw [unfolded, Prog.bind_apply, store]
    generalize persist platform (Machine.withMaterial before _) = outcome
      at attempt
    cases attempt with
    | stored written changed members rest sources completed => rfl
    | failed notOk unready changed left members fault =>
      rename_i after result now
      rcases after with ⟨afterRam, slots, storage, random⟩
      simp only [Machine.withMaterial] at members
      subst members
      simp [rollBack_failed notOk, notOk, setControllers, modifyRam]
    | interrupted changed left => rfl
  · simp at paired

theorem commit_follows (before : Machine) (pairing : PairingCommit) :
    plan before.ram (.commit pairing) ≠ [] ∧
      Attempts platform before (plan before.ram (.commit pairing))
        (commitControllerAfterPairing platform pairing before) ∨
      plan before.ram (.commit pairing) = [] ∧
        ∃ result, result ≠ .ok ∧
          commitControllerAfterPairing platform pairing before =
            answered before result := by
  cases paired : pairedTable before.ram pairing with
  | none =>
    refine .inr ⟨by simp [plan, paired], ?_⟩
    simp only [commitControllerAfterPairing, Prog.bind_apply, Prog.get_apply]
    split_ifs with unbegun role authorized zeros
    · exact ⟨.notBegun, by decide, rfl⟩
    · exact ⟨.invalidArgument, by decide, rfl⟩
    · exact ⟨.authorizationRequired, by decide, rfl⟩
    · exact ⟨.invalidArgument, by decide, rfl⟩
    · have full : pairingTarget before.ram.material.controllers
          pairing.controllerId = none := by
        simp only [pairedTable] at paired
        split at paired
        · simpa using paired
        · simp_all
      rw [full]
      exact ⟨.controllerTableFull, by decide, rfl⟩
  | some table =>
    left
    simp only [plan, paired]
    rw [commit_eq_store opens paired]
    exact ⟨by simp, (store_attempt opens before _).single⟩

/-- A revocation that finds no retirement pending. -/
theorem revokeFound_follows (controllerId : ControllerId)
    (settled : before.ram.material.controllerRetirementPending = false) :
    revokePlan controllerId before.ram.material ≠ [] ∧
      Attempts platform before
        (revokePlan controllerId before.ram.material)
        (revokeFound platform controllerId false before) ∨
      revokePlan controllerId before.ram.material = [] ∧
        revokeFound platform controllerId false before =
          answered before .controllerNotProvisioned := by
  unfold revokePlan revokeFound
  simp only [Prog.bind_apply, Prog.get_apply]
  cases found : before.ram.material.controllers.indexOf controllerId with
  | none => exact .inr ⟨rfl, rfl⟩
  | some target =>
    exact .inl ⟨by simp [retirePlan],
      retireTable_attempts opens _ settled⟩

/-- A revocation that has just finished a pending retirement. -/
theorem revokeResumed_attempts (controllerId : ControllerId)
    (settled : before.ram.material.controllerRetirementPending = false)
    (last : before.ram.lastResult = .ok) :
    Attempts platform before (revokePlan controllerId before.ram.material)
      (revokeFound platform controllerId true before) := by
  unfold revokePlan revokeFound
  simp only [Prog.bind_apply, Prog.get_apply]
  cases found : before.ram.material.controllers.indexOf controllerId with
  | none =>
    have unchanged : answered before .ok = .done .ok before := by
      simp [answered, ← last]
    change Attempts platform before [] (answered before .ok)
    rw [unchanged]
    exact .done
  | some target => exact retireTable_attempts opens _ settled

theorem revokeEvery_follows
    (settled : before.ram.material.controllerRetirementPending = false) :
    revokeEveryPlan before.ram.material ≠ [] ∧
      Attempts platform before (revokeEveryPlan before.ram.material)
        (revokeEvery platform before) ∨
      revokeEveryPlan before.ram.material = [] ∧
        revokeEvery platform before = answered before .ok := by
  unfold revokeEveryPlan revokeEvery
  simp only [Prog.bind_apply, Prog.get_apply]
  split
  · exact .inl ⟨by simp [retirePlan],
      retireTable_attempts opens _ settled⟩
  · exact .inr ⟨rfl, rfl⟩

/-- A program that first finishes a pending retirement follows its plan. -/
theorem resume_attempts {second : Prog Machine SecurityResult}
    {rest : Material → List (Nat × Material)}
    (pending : before.ram.material.controllerRetirementPending = true)
    (activeSlot : before.ram.activeSlot = some active) (later : ∀ middle : Machine,
      middle.ram.material = finished before.ram.material →
      middle.ram.lastResult = .ok →
      Attempts platform middle (rest middle.ram.material) (second middle)) :
    Attempts platform before (resumePlan rest before.ram.material) ((do
        let resumed ← retirePreviousSlot platform
        if resumed ≠ .ok then pure resumed else second :
          Prog Machine SecurityResult) before) := by
  have attempt := retire_attempt opens pending activeSlot
  rw [resumePlan, if_pos pending]
  refine attempt.andThen ?_
  intro middle stored
  rw [stored] at attempt
  cases attempt with
  | failed notOk => exact absurd rfl notOk
  | stored written changed members remaining sources completed =>
    have material : middle.ram.material =
        finished before.ram.material := by
      rw [members]
      rfl
    rw [← material]
    refine later middle material ?_
    rw [members]
    rfl

/-- Revoking a controller of a begun store. -/
theorem revokeController_follows (controllerId : ControllerId)
    (activeSlot : before.ram.activeSlot = some active) :
    resumePlan (revokePlan controllerId) before.ram.material ≠ [] ∧
      Attempts platform before
        (resumePlan (revokePlan controllerId) before.ram.material)
        (revokeController platform controllerId before) ∨
      resumePlan (revokePlan controllerId) before.ram.material = [] ∧
        revokeController platform controllerId before =
          answered before .controllerNotProvisioned := by
  simp only [revokeController, Prog.bind_apply, Prog.get_apply]
  split
  · rename_i pending
    refine .inl ⟨by simp [resumePlan, pending],
      resume_attempts opens pending activeSlot ?_⟩
    intro middle material last
    refine revokeResumed_attempts opens controllerId ?_ last
    rw [material]
    rfl
  · rename_i settled
    rw [Bool.not_eq_true] at settled
    simp only [resumePlan, settled]
    exact revokeFound_follows opens controllerId settled

/-- Revoking every controller of a begun store. -/
theorem revokeEveryResumed_follows
    (activeSlot : before.ram.activeSlot = some active) :
    resumePlan revokeEveryPlan before.ram.material ≠ [] ∧
      Attempts platform before
        (resumePlan revokeEveryPlan before.ram.material)
        ((if before.ram.material.controllerRetirementPending then do
            let resumed ← retirePreviousSlot platform
            if resumed ≠ .ok then pure resumed else revokeEvery platform
          else revokeEvery platform :
            Prog Machine SecurityResult) before) ∨
      resumePlan revokeEveryPlan before.ram.material = [] ∧
        (if before.ram.material.controllerRetirementPending then do
            let resumed ← retirePreviousSlot platform
            if resumed ≠ .ok then pure resumed else revokeEvery platform
          else revokeEvery platform :
            Prog Machine SecurityResult) before = answered before .ok := by
  split
  · rename_i pending
    refine .inl ⟨by simp [resumePlan, pending],
      resume_attempts opens pending activeSlot ?_⟩
    intro middle material last
    have settled :
        middle.ram.material.controllerRetirementPending = false := by
      rw [material]
      rfl
    rcases revokeEvery_follows opens settled with
      ⟨_, attempts⟩ | ⟨empty, answer⟩
    · exact attempts
    · have unchanged : answered middle .ok = .done .ok middle := by
        simp [answered, ← last]
      rw [empty, answer, unchanged]
      exact .done
  · rename_i settled
    rw [Bool.not_eq_true] at settled
    simp only [resumePlan, settled]
    exact revokeEvery_follows opens settled

/--
Every change of a begun store follows its plan.  A change without a plan only
sets its result, and of those only the revocation of an empty table succeeds.
-/
theorem change_follows (before : Machine) (change : ControllerChange)
    (anchored : before.ram.begun = true →
      ∃ active, before.ram.activeSlot = some active) :
    plan before.ram change ≠ [] ∧
      Attempts platform before (plan before.ram change)
        (change.program platform before) ∨
      plan before.ram change = [] ∧
        ∃ result, change.program platform before = answered before result ∧
          (result = .ok → before.ram.begun = true ∧ change = .revokeAll true) := by
  cases change with
  | commit pairing =>
    rcases commit_follows opens before pairing with
      attempts | ⟨empty, result, notOk, refused⟩
    · exact .inl attempts
    · exact .inr ⟨empty, result, refused, fun ok => absurd ok notOk⟩
  | revoke controllerId physicalConfirmed =>
    simp only [ControllerChange.program, plan,
      revokeControllerAfterPhysicalConfirmation, Prog.bind_apply, Prog.get_apply]
    cases begun : before.ram.begun with
    | false => exact .inr ⟨rfl, .notBegun, rfl, by simp⟩
    | true =>
      cases physicalConfirmed with
      | false =>
        exact .inr ⟨rfl, .authorizationRequired, rfl, by simp⟩
      | true =>
        rcases anchored begun with ⟨active, activeSlot⟩
        rcases revokeController_follows opens controllerId
          activeSlot with attempts | ⟨empty, refused⟩
        · exact .inl attempts
        · exact .inr ⟨empty, _, refused, by simp⟩
  | revokeAuthenticated controllerId =>
    simp only [ControllerChange.program, plan,
      revokeAuthenticatedController, Prog.bind_apply, Prog.get_apply]
    cases begun : before.ram.begun with
    | false => exact .inr ⟨rfl, .notBegun, rfl, by simp⟩
    | true =>
      rcases anchored begun with ⟨active, activeSlot⟩
      rcases revokeController_follows opens controllerId
        activeSlot with attempts | ⟨empty, refused⟩
      · exact .inl attempts
      · exact .inr ⟨empty, _, refused, by simp⟩
  | revokeAll physicalConfirmed =>
    simp only [ControllerChange.program, plan,
      revokeAllControllersAfterPhysicalConfirmation, Prog.bind_apply,
      Prog.get_apply]
    cases begun : before.ram.begun with
    | false => exact .inr ⟨rfl, .notBegun, rfl, by simp⟩
    | true =>
      cases physicalConfirmed with
      | false =>
        exact .inr ⟨rfl, .authorizationRequired, rfl, by simp⟩
      | true =>
        rcases anchored begun with ⟨active, activeSlot⟩
        rcases revokeEveryResumed_follows opens activeSlot with
          attempts | ⟨empty, answer⟩
        · exact .inl attempts
        · exact .inr ⟨empty, _, answer, fun _ => ⟨rfl, rfl⟩⟩

end

end Kitsu.Security.Transaction
