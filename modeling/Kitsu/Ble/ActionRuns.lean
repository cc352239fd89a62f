import Kitsu.Ble.ApplyAction
import Kitsu.Ble.AtMostOnce

/-!
# Actions from the phone across power cuts

What an attempt to apply a command can leave behind is listed once.  The stored
blob is always the cache before the attempt, the cache with the reservation, or
the cache with the applied mark, and it only has a record that is newer than
what was executed, never one that is older.  Hence both copies of the cache
hold every command that was executed and has not expired, and every record that
is marked as applied belongs to a command that was executed.
-/

namespace Kitsu.Ble.ActionRuns

open Kitsu.Lib.ByteString
open Kitsu.Lib.Crash
open Kitsu.Lib.Run
open Kitsu.Ble.Action
open Kitsu.Ble.ReplayCache
open Kitsu.Ble.AtMostOnce hiding step
open Kitsu.Ble.ApplyAction
open Kitsu.Ble.Transcripts

variable {sha256 : Bytes → Option (ByteVec 32)}
  {device after : Device} {command : BleActionCommand}
  {circumstances : Circumstances}

/-! ## Attempts -/

/-- The blob with the reservation of a command. -/
def reserved (sha256 : Bytes → Option (ByteVec 32)) (device : Device)
    (command : BleActionCommand) (circumstances : Circumstances) : Blob :=
  (device.cache.remember sha256 command circumstances.actionNow).1

/-- The blob with the applied mark of the command. -/
def completed (sha256 : Bytes → Option (ByteVec 32)) (device : Device)
    (command : BleActionCommand) (circumstances : Circumstances) : Blob :=
  ((reserved sha256 device command circumstances).markApplied sha256 command).1

/-- What a device is left with. -/
structure Left (device after : Device) (stored : Option Bytes)
    (cache : Blob) (ready : Bool) (events : List Event) : Prop where
  stored : after.stored = stored
  cache : after.cache = cache
  ready : after.ready = ready
  log : after.log = device.log ++ events

/-- Everything the reservation of a fresh command can lead to. -/
inductive Attempt (sha256 : Bytes → Option (ByteVec 32)) (device : Device)
    (command : BleActionCommand) (circumstances : Circumstances) :
    Outcome Device Receipt → Prop where
  | busy {after : Device}
      (left : Left device after device.stored device.cache true []) :
      Attempt sha256 device command circumstances
        (.done (.rejected .idempotencyBusy) after)
  | unreserved {after : Device} {stored : Option Bytes}
      (remembered : (device.cache.remember sha256 command
        circumstances.actionNow).2 = true)
      (either : stored = device.stored ∨
        stored = some (reserved sha256 device command circumstances).serialized)
      (left : Left device after stored device.cache false [.reservationFailed]) :
      Attempt sha256 device command circumstances
        (.done (.rejected .idempotencyUnavailable) after)
  | reservationCut {after : Device} {stored : Option Bytes} {cache : Blob}
      {ready : Bool}
      (remembered : (device.cache.remember sha256 command
        circumstances.actionNow).2 = true)
      (either : stored = device.stored ∨
        stored = some (reserved sha256 device command circumstances).serialized)
      (left : Left device after stored cache ready []) :
      Attempt sha256 device command circumstances (.cut after)
  | effectCut {after : Device} {cache : Blob} {ready : Bool}
      (remembered : (device.cache.remember sha256 command
        circumstances.actionNow).2 = true)
      (left : Left device after
        (some (reserved sha256 device command circumstances).serialized)
        cache ready [.executed command circumstances.actionNow]) :
      Attempt sha256 device command circumstances (.cut after)
  | refused {after : Device} (status : TransportStatus)
      (left : Left device after (some device.cache.serialized)
        device.cache true []) :
      Attempt sha256 device command circumstances
        (.done (.rejected (.mesh status)) after)
  | rollbackFailed {after : Device} {stored : Option Bytes}
      (remembered : (device.cache.remember sha256 command
        circumstances.actionNow).2 = true)
      (either : stored = some (reserved sha256 device command
          circumstances).serialized ∨ stored = some device.cache.serialized)
      (left : Left device after stored device.cache false []) :
      Attempt sha256 device command circumstances
        (.done (.rejected .actionResultUnknown) after)
  | rollbackCut {after : Device} {stored : Option Bytes} {cache : Blob}
      {ready : Bool}
      (remembered : (device.cache.remember sha256 command
        circumstances.actionNow).2 = true)
      (either : stored = some (reserved sha256 device command
          circumstances).serialized ∨ stored = some device.cache.serialized)
      (left : Left device after stored cache ready []) :
      Attempt sha256 device command circumstances (.cut after)
  | unmarked {after : Device} {stored : Option Bytes}
      (remembered : (device.cache.remember sha256 command
        circumstances.actionNow).2 = true)
      (either : stored = some (reserved sha256 device command
          circumstances).serialized ∨
        stored = some (completed sha256 device command circumstances).serialized)
      (left : Left device after stored
        (reserved sha256 device command circumstances) true
        [.executed command circumstances.actionNow]) :
      Attempt sha256 device command circumstances
        (.done (.rejected .actionResultUnknown) after)
  | completionCut {after : Device} {stored : Option Bytes} {cache : Blob}
      {ready : Bool}
      (remembered : (device.cache.remember sha256 command
        circumstances.actionNow).2 = true)
      (either : stored = some (reserved sha256 device command
          circumstances).serialized ∨
        stored = some (completed sha256 device command circumstances).serialized)
      (left : Left device after stored cache ready
        [.executed command circumstances.actionNow]) :
      Attempt sha256 device command circumstances (.cut after)
  | applied {after : Device}
      (remembered : (device.cache.remember sha256 command
        circumstances.actionNow).2 = true)
      (left : Left device after
        (some (completed sha256 device command circumstances).serialized)
        (completed sha256 device command circumstances) true
        [.executed command circumstances.actionNow]) :
      Attempt sha256 device command circumstances
        (.done (.accepted (acceptedState command.kind)) after)

/-- The results of storing the cache; it is not tried on a disabled one. -/
theorem persist_cases (outcome : PutOutcome) (device : Device) :
    Put Device.flushed device (persistActionReplay outcome device) := by
  unfold persistActionReplay
  rw [Prog.bind_apply, Prog.get_apply]
  simp only
  split
  · exact .failed
  · exact put_cases Device.flushed outcome device

/-- The results of the side effect. -/
inductive Invoked (command : BleActionCommand) (now : Nat)
    (device : Device) :
    Outcome Device (Except TransportStatus Bool) → Prop where
  | cut : Invoked command now device (.cut device)
  | executedCut :
      Invoked command now device (.cut { device with
        log := device.log ++ [.executed command now] })
  | refused (status : TransportStatus) :
      Invoked command now device (.done (.error status) device)
  | executed (applied : Bool) :
      Invoked command now device (.done (.ok applied) { device with
        log := device.log ++ [.executed command now] })

theorem invoke_cases (command : BleActionCommand) (now : Nat)
    (effect : Effect) (device : Device) :
    Invoked command now device (invoke command now effect device) := by
  unfold invoke
  cases effect with
  | cut taken =>
    cases taken with
    | false => exact .cut
    | true => exact .executedCut
  | completed applied status =>
    cases command.kind with
    | pet | feed | play | listenOnce => exact .executed applied
    | advertiseOnce | sendMessage =>
      simp only
      split
      · exact .executed true
      · exact .refused status

/-- The state in which the side effect is invoked. -/
structure Reserved (sha256 : Bytes → Option (ByteVec 32))
    (device middle : Device) (command : BleActionCommand)
    (circumstances : Circumstances) : Prop where
  remembered : (device.cache.remember sha256 command
    circumstances.actionNow).2 = true
  ready : middle.ready = true
  stored : middle.stored = some (reserved sha256 device command
    circumstances).serialized
  cache : middle.cache = reserved sha256 device command circumstances
  scratch : middle.scratch = device.cache.serialized
  log : middle.log = device.log

variable {middle : Device}

theorem complete_attempt
    (entered : Reserved sha256 device middle command circumstances)
    (sound : Sound (reserved sha256 device command circumstances)) :
    Attempt sha256 device command circumstances
      (complete sha256 command circumstances
        { middle with
          log := middle.log ++
            [.executed command circumstances.actionNow] }) := by
  obtain ⟨remembered, ready, stored, cache, scratch, log⟩ := entered
  cases marked : ((reserved sha256 device command
      circumstances).markApplied sha256 command).2 with
  | false =>
    simp only [complete, snapshotActionReplay, markApplied,
      loadSnapshot, clearScratch, Prog.bind_apply, Prog.modify_apply,
      Prog.pure_apply, cache, marked, Bool.false_eq_true, if_false, sound.reload]
    exact .unmarked remembered (.inl rfl)
      ⟨stored, rfl, ready, by rw [log]⟩
  | true =>
    simp only [complete, snapshotActionReplay, markApplied,
      Prog.bind_apply, Prog.modify_apply, cache, marked, if_true]
    have persisted := persist_cases circumstances.completion
      { middle with
        cache := completed sha256 device command circumstances
        scratch := (reserved sha256 device command circumstances).serialized
        log := middle.log ++
          [.executed command circumstances.actionNow] }
    rw [completed] at persisted
    generalize persistActionReplay circumstances.completion _ = result
      at persisted ⊢
    cases persisted with
    | written =>
      exact .applied remembered
        ⟨rfl, rfl, ready, by simp [Device.flushed, log]⟩
    | failed =>
      simp only [Bool.false_eq_true, if_false, loadSnapshot,
        clearScratch, Prog.bind_apply, Prog.modify_apply,
        Prog.pure_apply, sound.reload]
      exact .unmarked remembered (.inl rfl)
        ⟨stored, rfl, ready, by rw [log]⟩
    | failedTaken =>
      simp only [Bool.false_eq_true, if_false, loadSnapshot,
        clearScratch, Prog.bind_apply, Prog.modify_apply,
        Prog.pure_apply, Device.flushed, sound.reload]
      exact .unmarked remembered (.inr rfl)
        ⟨rfl, rfl, ready, by rw [log]⟩
    | cut =>
      exact .completionCut remembered (.inl rfl)
        ⟨stored, rfl, rfl, by simp [log]⟩
    | cutTaken =>
      exact .completionCut remembered (.inr rfl)
        ⟨rfl, rfl, rfl, by simp [Device.flushed, log]⟩

theorem takeBack_attempt (status : TransportStatus)
    (entered : Reserved sha256 device middle command circumstances)
    (sound : Sound device.cache) :
    Attempt sha256 device command circumstances
      (takeBack status circumstances middle) := by
  obtain ⟨remembered, ready, stored, cache, scratch, log⟩ := entered
  have same : middle.log = device.log ++ [] := by
    rw [log, List.append_nil]
  simp only [takeBack, restoreActionReplaySnapshot, loadSnapshot,
    clearScratch, Prog.bind_apply, Prog.modify_apply, scratch,
    sound.reload, if_true]
  have persisted := persist_cases circumstances.rollback
    { middle with
      cache := device.cache
      scratch := List.replicate blobBytes 0 }
  generalize persistActionReplay circumstances.rollback _ = result
    at persisted ⊢
  cases persisted with
  | written => exact .refused status ⟨rfl, rfl, ready, same⟩
  | failed =>
    exact .rollbackFailed remembered (.inl stored)
      ⟨rfl, rfl, rfl, same⟩
  | failedTaken =>
    exact .rollbackFailed remembered (.inr rfl) ⟨rfl, rfl, rfl, same⟩
  | cut =>
    exact .rollbackCut remembered (.inl stored) ⟨rfl, rfl, rfl, same⟩
  | cutTaken =>
    exact .rollbackCut remembered (.inr rfl) ⟨rfl, rfl, rfl, same⟩

theorem execute_attempt
    (entered : Reserved sha256 device middle command circumstances)
    (sound : Sound device.cache)
    (soundReserved : Sound (reserved sha256 device command circumstances)) :
    Attempt sha256 device command circumstances
      (execute sha256 command circumstances middle) := by
  unfold execute
  rw [Prog.bind_apply]
  have invoked := invoke_cases command circumstances.actionNow
    circumstances.effect middle
  generalize invoke command circumstances.actionNow circumstances.effect
    middle = result at invoked
  have same : middle.log = device.log ++ [] := by
    rw [entered.log, List.append_nil]
  cases invoked with
  | cut =>
    exact .reservationCut entered.remembered (.inr entered.stored)
      ⟨rfl, rfl, rfl, same⟩
  | executedCut =>
    exact .effectCut entered.remembered
      ⟨entered.stored, rfl, rfl, by simp [entered.log]⟩
  | refused status => exact takeBack_attempt status entered sound
  | executed applied =>
    cases applied with
    | false =>
      exact .unmarked entered.remembered (.inl rfl)
        ⟨entered.stored, entered.cache, entered.ready,
          by simp [entered.log]⟩
    | true => exact complete_attempt entered soundReserved

theorem abandon_attempt {stored : Option Bytes} (sound : Sound device.cache)
    (remembered : (device.cache.remember sha256 command
      circumstances.actionNow).2 = true) (either : stored = device.stored ∨
      stored = some (reserved sha256 device command circumstances).serialized) :
    Attempt sha256 device command circumstances
      (abandon { device with
        stored
        cache := reserved sha256 device command circumstances
        scratch := device.cache.serialized }) := by
  simp only [abandon, restoreActionReplaySnapshotInMemory, loadSnapshot,
    clearScratch, disable, record, Prog.bind_apply, Prog.modify_apply,
    Prog.pure_apply, sound.reload]
  exact .unreserved remembered either ⟨rfl, rfl, rfl, rfl⟩

theorem reserve_attempt (ready : device.ready = true) (sound : Sound device.cache)
    (soundReserved : Sound (reserved sha256 device command circumstances)) :
    Attempt sha256 device command circumstances
      (reserve sha256 command circumstances device) := by
  have same : device.log = device.log ++ [] := (List.append_nil _).symm
  cases remembered : (device.cache.remember sha256 command
      circumstances.actionNow).2 with
  | false =>
    simp only [reserve, reject, snapshotActionReplay, remember,
      restoreActionReplaySnapshotInMemory, loadSnapshot, clearScratch,
      Prog.bind_apply, Prog.modify_apply, Prog.pure_apply,
      Prog.get_apply, remembered, sound.reload, ready, Bool.not_true,
      Bool.not_false, Bool.or_self, Bool.false_eq_true, if_false, if_true]
    exact .busy ⟨rfl, rfl, rfl, same⟩
  | true =>
    simp only [reserve, snapshotActionReplay, remember,
      Prog.bind_apply, Prog.modify_apply, remembered, Bool.not_true,
      Bool.false_eq_true, if_false]
    have persisted := persist_cases circumstances.reservation
      { device with
        cache := reserved sha256 device command circumstances
        scratch := device.cache.serialized }
    rw [reserved] at persisted
    generalize persistActionReplay circumstances.reservation _ = result
      at persisted ⊢
    cases persisted with
    | written =>
      exact execute_attempt ⟨remembered, ready, rfl, rfl, rfl, rfl⟩
        sound soundReserved
    | failed => exact abandon_attempt sound remembered (.inl rfl)
    | failedTaken => exact abandon_attempt sound remembered (.inr rfl)
    | cut =>
      exact .reservationCut remembered (.inl rfl)
        ⟨rfl, rfl, rfl, same⟩
    | cutTaken =>
      exact .reservationCut remembered (.inr rfl)
        ⟨rfl, rfl, rfl, same⟩

/-- Everything a decoded command can lead to. -/
inductive Applied (sha256 : Bytes → Option (ByteVec 32)) (device : Device)
    (command : BleActionCommand) (circumstances : Circumstances) :
    Outcome Device Receipt → Prop where
  | rejected (error : ActionError) :
      Applied sha256 device command circumstances
        (.done (.rejected error) device)
  | duplicate (ready : device.ready = true)
      (decided : device.cache.inspect sha256 command
        circumstances.actionNow = .duplicateApplied) :
      Applied sha256 device command circumstances
        (.done (.accepted (acceptedState command.kind)) device)
  | attempted {outcome : Outcome Device Receipt}
      (ready : device.ready = true)
      (fresh : device.cache.inspect sha256 command
        circumstances.actionNow = .fresh)
      (attempt : Attempt sha256 device command circumstances outcome) :
      Applied sha256 device command circumstances outcome

theorem applyCommand_cases (command : BleActionCommand)
    (circumstances : Circumstances)
    (sound : device.ready = true → Sound device.cache) :
    Applied sha256 device command circumstances
      (applyCommand sha256 command circumstances device) := by
  unfold applyCommand
  cases precondition command circumstances with
  | some error => exact .rejected error
  | none =>
    simp only [Prog.bind_apply, Prog.get_apply]
    cases ready : device.ready with
    | false => exact .rejected .idempotencyUnavailable
    | true =>
      cases decided : device.cache.inspect sha256 command
          circumstances.actionNow with
      | timeUnavailable => exact .rejected .timeUnset
      | expired => exact .rejected .actionExpired
      | invalidExpiry => exact .rejected .invalidExpiry
      | conflict => exact .rejected .actionIdConflict
      | duplicateIndeterminate => exact .rejected .actionResultUnknown
      | duplicateApplied => exact .duplicate ready decided
      | fresh =>
        generalize (if command.kind = .advertiseOnce then
          bleAdvertiseReadinessError device circumstances
          else none) = refusal
        cases refusal with
        | some error => exact .rejected error
        | none =>
          apply Applied.attempted ready decided
          apply reserve_attempt ready (sound ready)
          exact (sound ready).step
            (.remember command circumstances.actionNow)

/-! ## Copies of the cache -/

/--
A copy of the cache that is in step with what happened: it holds every executed
command that no request has outlived, and its applied marks are deserved.
-/
structure Faithful (sha256 : Bytes → Option (ByteVec 32))
    (times : List Nat) (log : List Event) (blob : Blob) : Prop where
  sound : Sound blob
  held : ∀ command now, .executed command now ∈ log →
    (∀ time ∈ times, time < command.expiresAtEpoch) →
      ∃ digest, commandDigest sha256 command = some digest ∧
        Held blob command digest
  deserved : ∀ record ∈ blob.occupied,
    record.outcome = kReplayApplied →
      ∃ command now, .executed command now ∈ log ∧
        command.actionId = record.actionId ∧
        commandDigest sha256 command = some record.commandDigest

variable {times : List Nat} {log : List Event} {blob : Blob} {now : Nat}

theorem Faithful.extend (faithful : Faithful sha256 times log blob)
    (events : List Event) (quiet : ∀ command now, .executed command now ∉ events)
    {further : List Nat} (wider : times ⊆ further) :
    Faithful sha256 further (log ++ events) blob := by
  constructor
  · exact faithful.sound
  · intro command now executed unexpired
    rcases List.mem_append.mp executed with before | new
    · apply faithful.held command now before
      intro time member
      exact unexpired time (wider member)
    · exact absurd new (quiet command now)
  · intro record member applied
    obtain ⟨command, now, executed, rest⟩ :=
      faithful.deserved record member applied
    exact ⟨command, now, List.mem_append_left _ executed, rest⟩

/-- A record is held across an operation at a time before its expiry. -/
theorem Held.step (sound : Sound blob) {digest : ByteVec 32}
    (held : Held blob command digest) (operation : Operation)
    (unexpired : ∀ time, operation.time = some time →
      time < command.expiresAtEpoch) :
    Held (AtMostOnce.step sha256 blob operation) command digest := by
  have kept := @Held.exec sha256 blob command digest sound held [operation]
    (by
      intro other member time timed
      obtain rfl := List.mem_singleton.mp member
      exact unexpired time timed)
  exact kept.2

theorem Faithful.reserve (faithful : Faithful sha256 times log blob)
    (command : BleActionCommand) (now : Nat) :
    Faithful sha256 (times ++ [now]) log
      (blob.remember sha256 command now).1 := by
  constructor
  · exact faithful.sound.step (.remember command now)
  · intro other before executed unexpired
    obtain ⟨digest, digested, held⟩ :=
      faithful.held other before executed fun time member =>
        unexpired time (List.mem_append_left _ member)
    refine ⟨digest, digested, ?_⟩
    apply Held.step faithful.sound held (.remember command now)
    rintro time ⟨⟩
    exact unexpired now (by simp)
  · intro record member applied
    rcases @Sound.remember sha256 _ command now faithful.sound with
      ⟨same, _⟩ | ⟨slot, digest, reserves⟩
    · rw [same] at member
      exact faithful.deserved record member applied
    · obtain ⟨i, recordAt⟩ := List.getElem?_of_mem member
      by_cases here : i = slot
      · rw [here, reserves.puts.here] at recordAt
        cases recordAt
        exact absurd applied
          (show kReplayPending ≠ kReplayApplied by decide)
      · rw [reserves.puts.elsewhere i here] at recordAt
        exact faithful.deserved record (List.mem_of_getElem? recordAt)
          applied

/-- The reserved copy also holds the command, once that is executed. -/
theorem Faithful.execute (faithful : Faithful sha256 times log blob)
    (fresh : blob.inspect sha256 command now = .fresh)
    (remembered : (blob.remember sha256 command now).2 = true) :
    Faithful sha256 (times ++ [now]) (log ++ [.executed command now])
      (blob.remember sha256 command now).1 := by
  have reserved := faithful.reserve command now
  constructor
  · exact reserved.sound
  · intro other before executed unexpired
    rcases List.mem_append.mp executed with earlier | new
    · exact reserved.held other before earlier unexpired
    · cases List.mem_singleton.mp new
      obtain ⟨digest, _, digested, held⟩ :=
        held_of_remember faithful.sound fresh remembered
      exact ⟨digest, digested, held⟩
  · intro record member applied
    obtain ⟨other, before, executed, rest⟩ :=
      reserved.deserved record member applied
    exact ⟨other, before, List.mem_append_left _ executed, rest⟩

/-- The applied mark is deserved when the command has been executed. -/
theorem Faithful.complete (faithful : Faithful sha256 times log blob)
    (executed : .executed command now ∈ log) :
    Faithful sha256 times log (blob.markApplied sha256 command).1 := by
  constructor
  · exact faithful.sound.step (.markApplied command)
  · intro other before executedOther unexpired
    obtain ⟨digest, digested, held⟩ :=
      faithful.held other before executedOther unexpired
    refine ⟨digest, digested, ?_⟩
    apply Held.step faithful.sound held (.markApplied command)
    nofun
  · intro record member applied
    rcases @Sound.markApplied sha256 _ command faithful.sound with
      same | ⟨slot, old, oldAt, sameId, digested, puts⟩
    · rw [same] at member
      exact faithful.deserved record member applied
    · obtain ⟨i, recordAt⟩ := List.getElem?_of_mem member
      by_cases here : i = slot
      · rw [here, puts.here] at recordAt
        cases recordAt
        exact ⟨command, now, executed, sameId.symm, digested⟩
      · rw [puts.elsewhere i here] at recordAt
        exact faithful.deserved record (List.mem_of_getElem? recordAt)
          applied

/-! ## Machines -/

/-- The stored bytes are those of the blob; a missing key is an empty cache. -/
def Stores (stored : Option Bytes) (blob : Blob) : Prop :=
  stored = some blob.serialized ∨ stored = none ∧ blob = reset

/--
A later execution under an identifier comes when the earlier command has
expired, and has another meaning.
-/
def Apart : Event → Event → Prop
  | .executed first _, .executed second now =>
    first.actionId = second.actionId →
      first.expiresAtEpoch ≤ now ∧ meaning first ≠ meaning second
  | _, _ => True

/-- What holds of a machine after a history. -/
structure Kept (sha256 : Bytes → Option (ByteVec 32))
    (history : List Input) (machine : Machine) : Prop where
  durable : ∃ blob, Stores machine.device.stored blob ∧
    Faithful sha256 (history.filterMap Input.time) machine.device.log blob
  cache : machine.running = true → machine.device.ready = true →
    Faithful sha256 (history.filterMap Input.time) machine.device.log
      machine.device.cache
  apart : machine.device.log.Pairwise Apart
  requested : ∀ command now, .executed command now ∈ machine.device.log →
    command ∈ history.filterMap Input.command
  disabled : machine.device.log.getLast? = some .reservationFailed →
    machine.device.ready = false

theorem sound_reset : Sound reset :=
  valid_iff.mp (by decide +kernel)

theorem faithful_reset : Faithful sha256 times [] reset := by
  constructor
  · exact sound_reset
  · nofun
  · intro record member
    exact absurd member (List.not_mem_nil)

theorem kept_factory : Kept sha256 [] factory := by
  constructor
  · exact ⟨reset, .inr ⟨rfl, rfl⟩, faithful_reset⟩
  · nofun
  · exact .nil
  · nofun
  · nofun

variable {machine : Machine} {history : List Input}

theorem times_subset (history later : List Input) :
    history.filterMap Input.time ⊆
      (history ++ later).filterMap Input.time := by
  rw [List.filterMap_append]
  exact List.subset_append_left _ _

theorem commands_subset (history later : List Input) :
    history.filterMap Input.command ⊆
      (history ++ later).filterMap Input.command := by
  rw [List.filterMap_append]
  exact List.subset_append_left _ _

/-- The load at boot restores the durable copy or leaves the cache disabled. -/
theorem loadActionReplay_stores (sound : Sound blob)
    (stores : Stores device.stored blob) :
    (loadActionReplay device).stored = device.stored ∧
      (loadActionReplay device).log = device.log ∧
      ((loadActionReplay device).ready = true →
        (loadActionReplay device).cache = blob) := by
  unfold loadActionReplay
  cases device.storageReady with
  | false => exact ⟨rfl, rfl, nofun⟩
  | true =>
    rcases stores with stored | ⟨missing, empty⟩
    · simp only [Bool.not_true, Bool.false_eq_true, if_false, stored,
        blob.length_serialized, ne_eq, not_true_eq_false, sound.reload]
      exact ⟨trivial, trivial, fun _ => trivial⟩
    · simp only [Bool.not_true, Bool.false_eq_true, if_false, missing]
      exact ⟨trivial, trivial, fun _ => empty.symm⟩

theorem Kept.boot (kept : Kept sha256 history machine) (storageReady : Bool) :
    Kept sha256 (history ++ [.boot storageReady])
      (step sha256 machine (.boot storageReady)) := by
  obtain ⟨blob, stores, faithful⟩ := kept.durable
  obtain ⟨stored, log, cache⟩ := @loadActionReplay_stores
    { machine.device with storageReady } blob faithful.sound stores
  have quiet : ∀ command now,
      Event.executed command now ∉ [Event.loaded] := by
    intro command now member
    cases List.mem_singleton.mp member
  have logged : (step sha256 machine (.boot storageReady)).device.log =
      machine.device.log ++ [.loaded] := by
    show (loadActionReplay
      { machine.device with storageReady }).log ++ [.loaded] = _
    rw [log]
  have extended : Faithful sha256
      ((history ++ [Input.boot storageReady]).filterMap Input.time)
      (step sha256 machine (.boot storageReady)).device.log blob := by
    rw [logged]
    exact faithful.extend [.loaded] quiet (times_subset history _)
  constructor
  · refine ⟨blob, ?_, extended⟩
    show Stores (loadActionReplay
      { machine.device with storageReady }).stored blob
    rw [stored]
    exact stores
  · intro _ ready
    have restored : (step sha256 machine
        (.boot storageReady)).device.cache = blob := cache ready
    rw [restored]
    exact extended
  · rw [logged, List.pairwise_append]
    refine ⟨kept.apart, List.pairwise_singleton _ _, ?_⟩
    intro first _ second member
    cases List.mem_singleton.mp member
    cases first <;> trivial
  · intro command now executed
    rw [logged, List.mem_append] at executed
    rcases executed with before | new
    · exact commands_subset history _ (kept.requested command now before)
    · exact absurd new (quiet command now)
  · rw [logged, List.getLast?_concat]
    nofun

/-- An input that changes nothing. -/
theorem Kept.idle (kept : Kept sha256 history machine) (input : Input) :
    Kept sha256 (history ++ [input]) machine := by
  have wider : ∀ {copy : Blob},
      Faithful sha256 (history.filterMap Input.time) machine.device.log
        copy →
      Faithful sha256 ((history ++ [input]).filterMap Input.time)
        machine.device.log copy := by
    intro copy faithful
    have extended := faithful.extend [] nofun
      (times_subset history [input])
    rwa [List.append_nil] at extended
  constructor
  · obtain ⟨blob, stores, faithful⟩ := kept.durable
    exact ⟨blob, stores, wider faithful⟩
  · intro running ready
    exact wider (kept.cache running ready)
  · exact kept.apart
  · intro command now executed
    exact commands_subset history _ (kept.requested command now executed)
  · exact kept.disabled

/-- A fresh decision is made at a valid mesh time. -/
theorem epoch_of_fresh (sound : Sound blob)
    (fresh : blob.inspect sha256 command circumstances.actionNow = .fresh) :
    circumstances.epoch = some circumstances.actionNow := by
  obtain ⟨_, _, decided⟩ := sound.fresh fresh
  have trusted := decided.current.trusted.1
  unfold Circumstances.actionNow at trusted ⊢
  cases valid : circumstances.epoch with
  | none =>
    rw [valid] at trusted
    exact absurd trusted (by decide)
  | some epoch => rfl

/-- An executed command and a fresh one with its identifier are apart. -/
theorem Faithful.apart (faithful : Faithful sha256 times log blob)
    (fresh : blob.inspect sha256 command now = .fresh)
    (past : ∀ time ∈ times, time ≤ now) {first : Event} (member : first ∈ log) :
    Apart first (.executed command now) := by
  cases first with
  | loaded => trivial
  | reservationFailed => trivial
  | executed other before =>
    intro same
    obtain ⟨_, _, decided⟩ := faithful.sound.fresh fresh
    have expired : other.expiresAtEpoch ≤ now := by
      by_contra unexpired
      obtain ⟨digest, _, slot, record, recordAt, sameId, _, expires⟩ :=
        faithful.held other before member (by
          intro time timed
          have earlier := past time timed
          omega)
      have reusable := decided.reusable record
        (List.mem_of_getElem? recordAt) (sameId.trans same)
      omega
    refine ⟨expired, ?_⟩
    intro sameMeaning
    have expiries : other.expiresAtEpoch = command.expiresAtEpoch :=
      congrArg CommandMeaning.expiresAtEpoch sameMeaning
    have unexpired := decided.current.unexpired
    omega

section Requests

variable {payload : Bytes}

/-- The events of an attempt. -/
inductive Permitted (command : BleActionCommand) (now : Nat)
    (ready : Bool) : List Event → Prop where
  | quiet : Permitted command now ready []
  | failed (disabled : ready = false) :
      Permitted command now ready [.reservationFailed]
  | executed : Permitted command now ready [.executed command now]

theorem Kept.left (kept : Kept sha256 history machine)
    (decoded : decodeBleActionCommand payload = .ok command)
    (wasReady : machine.device.ready = true)
    (source : Faithful sha256 (history.filterMap Input.time)
      machine.device.log machine.device.cache)
    (fresh : machine.device.cache.inspect sha256 command
      circumstances.actionNow = .fresh)
    (past : ∀ time ∈ history.filterMap Input.time, time ≤ circumstances.actionNow)
    {running ready : Bool} {stored : Option Bytes} {cache : Blob}
    {events : List Event}
    (left : Left machine.device after stored cache ready events)
    (permitted : Permitted command circumstances.actionNow ready events)
    (durable : ∃ blob, Stores stored blob ∧ Faithful sha256
        ((history ++ [Input.request payload circumstances]).filterMap
          Input.time) (machine.device.log ++ events) blob)
    (copy : running = true → ready = true → Faithful sha256
        ((history ++ [Input.request payload circumstances]).filterMap
          Input.time) (machine.device.log ++ events) cache) :
    Kept sha256 (history ++ [.request payload circumstances])
      ⟨after, running⟩ := by
  constructor
  · rw [left.stored, left.log]
    exact durable
  · intro isRunning isReady
    rw [left.log, left.cache]
    exact copy isRunning (left.ready.symm.trans isReady)
  · rw [left.log, List.pairwise_append]
    refine ⟨kept.apart, ?_, ?_⟩
    · cases permitted with
      | quiet => exact .nil
      | failed _ => exact List.pairwise_singleton _ _
      | executed => exact List.pairwise_singleton _ _
    · intro first firstMember second secondMember
      cases permitted with
      | quiet => cases secondMember
      | failed _ =>
        cases List.mem_singleton.mp secondMember
        cases first <;> trivial
      | executed =>
        cases List.mem_singleton.mp secondMember
        exact source.apart fresh past firstMember
  · intro other now executed
    rw [left.log, List.mem_append] at executed
    rcases executed with before | new
    · exact commands_subset history _ (kept.requested other now before)
    · cases permitted with
      | quiet => cases new
      | failed _ => cases List.mem_singleton.mp new
      | executed =>
        cases List.mem_singleton.mp new
        rw [List.filterMap_append]
        apply List.mem_append_right
        simp [Input.command, decoded, Except.toOption]
  · rw [left.log, left.ready]
    cases permitted with
    | quiet =>
      rw [List.append_nil]
      intro failed
      rw [kept.disabled failed] at wasReady
      cases wasReady
    | failed disabled => exact fun _ => disabled
    | executed =>
      rw [List.getLast?_concat]
      nofun

theorem Kept.attempt (kept : Kept sha256 history machine)
    (decoded : decodeBleActionCommand payload = .ok command)
    (running : machine.running = true) (ready : machine.device.ready = true)
    (fresh : machine.device.cache.inspect sha256 command
      circumstances.actionNow = .fresh)
    (past : ∀ time ∈ history.filterMap Input.time, time ≤ circumstances.actionNow)
    {outcome : Outcome Device Receipt}
    (attempt : Attempt sha256 machine.device command circumstances outcome) :
    Kept sha256 (history ++ [.request payload circumstances])
      (.afterwards outcome) := by
  have source := kept.cache running ready
  have extended : (history ++
      [Input.request payload circumstances]).filterMap Input.time =
        history.filterMap Input.time ++ [circumstances.actionNow] := by
    simp [Input.time, epoch_of_fresh source.sound fresh]
  obtain ⟨blob, stores, faithful⟩ := kept.durable
  have wider := times_subset history [.request payload circumstances]
  have same : history.filterMap Input.time ++ [circumstances.actionNow] ⊆
      (history ++ [Input.request payload circumstances]).filterMap
        Input.time := by
    rw [extended]
    exact List.Subset.refl _
  have silent : ∀ command now,
      Event.executed command now ∉ ([] : List Event) := nofun
  have failure : ∀ command now,
      Event.executed command now ∉ [Event.reservationFailed] := by
    intro command now member
    cases List.mem_singleton.mp member
  have withReservation : ∀ events,
      (∀ command now, Event.executed command now ∉ events) →
      Faithful sha256
        ((history ++ [Input.request payload circumstances]).filterMap
          Input.time) (machine.device.log ++ events)
        (reserved sha256 machine.device command circumstances) := by
    intro events quiet
    exact (source.reserve command circumstances.actionNow).extend events
      quiet same
  have withExecution : (machine.device.cache.remember sha256 command
      circumstances.actionNow).2 = true →
      Faithful sha256
        ((history ++ [Input.request payload circumstances]).filterMap Input.time)
        (machine.device.log ++ [.executed command circumstances.actionNow])
        (reserved sha256 machine.device command circumstances) := by
    intro remembered
    rw [extended]
    exact source.execute fresh remembered
  have withMark : (machine.device.cache.remember sha256 command
      circumstances.actionNow).2 = true →
      Faithful sha256
        ((history ++ [Input.request payload circumstances]).filterMap Input.time)
        (machine.device.log ++ [.executed command circumstances.actionNow])
        (completed sha256 machine.device command circumstances) := by
    intro remembered
    have executed : Event.executed command circumstances.actionNow ∈
        machine.device.log ++
          [Event.executed command circumstances.actionNow] := by
      simp
    exact (withExecution remembered).complete executed
  have next := fun {running ready stored cache events after} =>
    @Kept.left sha256 after command circumstances machine history payload
      kept decoded ‹_› source fresh past running ready stored cache events
  cases attempt with
  | busy left =>
    apply next left .quiet
    · exact ⟨blob, stores, faithful.extend [] silent wider⟩
    · exact fun _ _ => source.extend [] silent wider
  | unreserved remembered either left =>
    apply next left (.failed rfl)
    · rcases either with old | new
      · rw [old]
        exact ⟨blob, stores, faithful.extend _ failure wider⟩
      · exact ⟨_, .inl new, withReservation _ failure⟩
    · nofun
  | reservationCut remembered either left =>
    apply next left .quiet
    · rcases either with old | new
      · rw [old]
        exact ⟨blob, stores, faithful.extend [] silent wider⟩
      · exact ⟨_, .inl new, withReservation [] silent⟩
    · nofun
  | effectCut remembered left =>
    apply next left .executed
    · exact ⟨_, .inl rfl, withExecution remembered⟩
    · nofun
  | refused status left =>
    apply next left .quiet
    · exact ⟨_, .inl rfl, source.extend [] silent wider⟩
    · exact fun _ _ => source.extend [] silent wider
  | rollbackFailed remembered either left =>
    apply next left .quiet
    · rcases either with kept | restored
      · exact ⟨_, .inl kept, withReservation [] silent⟩
      · exact ⟨_, .inl restored, source.extend [] silent wider⟩
    · nofun
  | rollbackCut remembered either left =>
    apply next left .quiet
    · rcases either with kept | restored
      · exact ⟨_, .inl kept, withReservation [] silent⟩
      · exact ⟨_, .inl restored, source.extend [] silent wider⟩
    · nofun
  | unmarked remembered either left =>
    apply next left .executed
    · rcases either with pending | marked
      · exact ⟨_, .inl pending, withExecution remembered⟩
      · exact ⟨_, .inl marked, withMark remembered⟩
    · exact fun _ _ => withExecution remembered
  | completionCut remembered either left =>
    apply next left .executed
    · rcases either with pending | marked
      · exact ⟨_, .inl pending, withExecution remembered⟩
      · exact ⟨_, .inl marked, withMark remembered⟩
    · nofun
  | applied remembered left =>
    apply next left .executed
    · exact ⟨_, .inl rfl, withMark remembered⟩
    · exact fun _ _ => withMark remembered

/-- A request to a running machine, by the command it carries. -/
theorem step_request (running : machine.running = true)
    (decoded : decodeBleActionCommand payload = .ok command) :
    step sha256 machine (.request payload circumstances) =
      .afterwards
        (applyCommand sha256 command circumstances machine.device) := by
  simp only [step, running, applyAction, decoded, Bool.not_true,
    Bool.false_eq_true, if_false, Prog.bind_apply, Prog.pure_apply]
  cases applyCommand sha256 command circumstances machine.device <;> rfl

theorem step_off (off : machine.running = false) :
    step sha256 machine (.request payload circumstances) = machine := by
  simp [step, off]

theorem step_undecoded {error : BleActionDecodeError}
    (undecoded : decodeBleActionCommand payload = .error error) :
    step sha256 machine (.request payload circumstances) = machine := by
  obtain ⟨device, running⟩ := machine
  cases running <;>
    simp [step, applyAction, undecoded, Machine.afterwards]

theorem Kept.request (kept : Kept sha256 history machine)
    (past : ∀ now, circumstances.epoch = some now →
      ∀ time ∈ history.filterMap Input.time, time ≤ now) :
    Kept sha256 (history ++ [.request payload circumstances])
      (step sha256 machine (.request payload circumstances)) := by
  cases running : machine.running with
  | false =>
    rw [step_off running]
    exact kept.idle _
  | true =>
    cases decoded : decodeBleActionCommand payload with
    | error error =>
      rw [step_undecoded decoded]
      exact kept.idle _
    | ok command =>
      rw [step_request running decoded]
      have applied := @applyCommand_cases sha256 machine.device command
        circumstances fun ready => (kept.cache running ready).sound
      generalize applyCommand sha256 command circumstances
        machine.device = outcome at applied
      have unchanged : Kept sha256
          (history ++ [.request payload circumstances])
          ⟨machine.device, true⟩ := by
        rw [← running]
        exact kept.idle _
      cases applied with
      | rejected error => exact unchanged
      | duplicate ready decided => exact unchanged
      | attempted ready fresh attempt =>
        apply kept.attempt decoded running ready fresh _ attempt
        exact past _ (epoch_of_fresh (kept.cache running ready).sound fresh)

end Requests

/-! ## Runs -/

/-- The mesh epochs of the requests do not decrease. -/
def EpochsOrdered (history : List Input) : Prop :=
  (history.filterMap Input.time).Pairwise (· ≤ ·)

/-- The hash tells the requested commands apart. -/
def CollisionFree (sha256 : Bytes → Option (ByteVec 32))
    (history : List Input) : Prop :=
  ∀ first ∈ history.filterMap Input.command,
    ∀ second ∈ history.filterMap Input.command,
      sha256 (commandPreimage first) = sha256 (commandPreimage second) →
        commandPreimage first = commandPreimage second

theorem EpochsOrdered.earlier {later : List Input}
    (ordered : EpochsOrdered (history ++ later)) : EpochsOrdered history := by
  rw [EpochsOrdered, List.filterMap_append, List.pairwise_append] at ordered
  exact ordered.1

theorem EpochsOrdered.past {input : Input}
    (ordered : EpochsOrdered (history ++ [input])) (now : Nat)
    (timed : input.time = some now) :
    ∀ time ∈ history.filterMap Input.time, time ≤ now := by
  rw [EpochsOrdered, List.filterMap_append, List.pairwise_append] at ordered
  intro time member
  exact ordered.2.2 time member now (by simp [timed])

theorem kept_exec (ordered : EpochsOrdered history) :
    Kept sha256 history (exec (step sha256) factory history) := by
  induction history using List.reverseRecOn with
  | nil => exact kept_factory
  | append_singleton history input induction =>
    have kept := induction ordered.earlier
    rw [exec_concat]
    cases input with
    | request payload circumstances => exact kept.request ordered.past
    | boot storageReady => exact kept.boot storageReady

/-! ## The results -/

section Results

variable {payload : Bytes} {receipt : Receipt}

theorem reply_receipt (replied : machine.reply sha256 payload circumstances =
      some (.receipt command receipt)) :
    machine.running = true ∧
      decodeBleActionCommand payload = .ok command ∧
      ∃ after, applyCommand sha256 command circumstances machine.device =
        .done receipt after := by
  unfold Machine.reply at replied
  cases running : machine.running with
  | false =>
    rw [running] at replied
    cases replied
  | true =>
    rw [running] at replied
    simp only [Bool.not_true, Bool.false_eq_true, if_false,
      applyAction] at replied
    cases decoded : decodeBleActionCommand payload with
    | error error =>
      rw [decoded] at replied
      cases replied
    | ok other =>
      rw [decoded] at replied
      simp only [Prog.bind_apply, Prog.pure_apply] at replied
      cases result : applyCommand sha256 other circumstances
          machine.device with
      | cut after =>
        rw [result] at replied
        cases replied
      | done value after =>
        rw [result] at replied
        cases replied
        exact ⟨rfl, rfl, after, result⟩

theorem duplicateApplied_record
    (decided : blob.inspect sha256 command now = .duplicateApplied) :
    ∃ record ∈ blob.occupied, record.actionId = command.actionId ∧
      record.outcome = kReplayApplied ∧
      commandDigest sha256 command = some record.commandDigest := by
  unfold Blob.inspect at decided
  split at decided
  · cases decided
  rename_i digest digested
  split at decided
  · cases decided
  split at decided
  · cases decided
  split at decided
  · cases decided
  split at decided
  · cases decided
  rename_i record found
  split at decided
  · rename_i sameDigest
    split at decided
    · rename_i applied
      have same := List.find?_some found
      exact ⟨record, List.mem_of_find?_eq_some found, by simpa using same,
        applied, by rw [sameDigest, digested]⟩
    · cases decided
  · split at decided <;> cases decided

/-- An accepted command has been executed, up to its digest. -/
theorem Kept.accepted (kept : Kept sha256 history machine) {state : ReceiptState}
    (replied : machine.reply sha256 payload circumstances =
      some (.receipt command (.accepted state))) :
    ∃ other now, .executed other now ∈
        (step sha256 machine (.request payload circumstances)).device.log ∧
      ∃ digest, commandDigest sha256 other = some digest ∧
        commandDigest sha256 command = some digest := by
  obtain ⟨running, decoded, after, result⟩ := reply_receipt replied
  rw [step_request running decoded]
  have applied := @applyCommand_cases sha256 machine.device command
    circumstances fun ready => (kept.cache running ready).sound
  rw [result] at applied ⊢
  generalize outcome_eq : Outcome.done (Receipt.accepted state) after =
    outcome at applied
  cases applied with
  | rejected error => cases outcome_eq
  | duplicate ready decided =>
    cases outcome_eq
    obtain ⟨record, member, _, marked, digested⟩ :=
      duplicateApplied_record decided
    obtain ⟨other, before, executed, _, otherDigested⟩ :=
      (kept.cache running ready).deserved record member marked
    exact ⟨other, before, executed, _, otherDigested, digested⟩
  | attempted ready fresh attempt =>
    cases attempt with
    | applied remembered left =>
      cases outcome_eq
      obtain ⟨digest, _, digested, _⟩ :=
        held_of_remember (kept.cache running ready).sound fresh
          remembered
      refine ⟨command, circumstances.actionNow, ?_, digest, digested, digested⟩
      show Event.executed command circumstances.actionNow ∈ after.log
      rw [left.log]
      simp
    | _ => cases outcome_eq

theorem durable_congr {other : Device} (stored : other.stored = device.stored) :
    other.durable = device.durable := by
  unfold Device.durable loadActionReplay
  simp only [Bool.not_true, Bool.false_eq_true, if_false, stored]
  cases device.stored with
  | none => rfl
  | some bytes =>
    simp only
    split <;> rfl

theorem durable_of_stored (sound : Sound blob)
    (stored : device.stored = some blob.serialized) : device.durable = blob := by
  unfold Device.durable loadActionReplay
  simp [stored, blob.length_serialized, sound.reload]

/-- The texts of the mesh layer are none of the replay cache. -/
theorem bleMeshErrorName_ne (status : TransportStatus) :
    bleMeshErrorName status ≠ ActionError.actionResultUnknown.text ∧
      bleMeshErrorName status ≠
        ActionError.idempotencyUnavailable.text := by
  cases status <;> decide

/-- A mesh error leaves the cache as it was. -/
theorem Kept.meshError (kept : Kept sha256 history machine)
    {error : ActionError} {status : TransportStatus}
    (replied : machine.reply sha256 payload circumstances =
      some (.receipt command (.rejected error)))
    (named : error.text = bleMeshErrorName status) :
    let next := step sha256 machine (.request payload circumstances)
    next.device.cache = machine.device.cache ∧
      next.device.ready = machine.device.ready ∧
      next.device.log = machine.device.log ∧
      (next.device.durable = machine.device.durable ∨
        next.device.durable = machine.device.cache) := by
  obtain ⟨running, decoded, after, result⟩ := reply_receipt replied
  rw [step_request running decoded]
  have applied := @applyCommand_cases sha256 machine.device command
    circumstances fun ready => (kept.cache running ready).sound
  rw [result] at applied ⊢
  generalize outcome_eq : Outcome.done (Receipt.rejected error) after =
    outcome at applied
  cases applied with
  | rejected other =>
    cases outcome_eq
    exact ⟨rfl, rfl, rfl, .inl rfl⟩
  | duplicate ready decided => cases outcome_eq
  | attempted ready fresh attempt =>
    cases attempt with
    | busy left =>
      cases outcome_eq
      exact ⟨left.cache, left.ready.trans ready.symm,
        left.log.trans (List.append_nil _), .inl (durable_congr left.stored)⟩
    | refused other left =>
      cases outcome_eq
      refine ⟨left.cache, left.ready.trans ready.symm,
        left.log.trans (List.append_nil _), .inr ?_⟩
      exact durable_of_stored (kept.cache running ready).sound
        left.stored
    | unreserved remembered either left =>
      cases outcome_eq
      exact absurd named.symm (bleMeshErrorName_ne status).2
    | rollbackFailed remembered either left =>
      cases outcome_eq
      exact absurd named.symm (bleMeshErrorName_ne status).1
    | unmarked remembered either left =>
      cases outcome_eq
      exact absurd named.symm (bleMeshErrorName_ne status).1
    | _ => cases outcome_eq

/-- A disabled cache keeps every command from being executed. -/
theorem step_disabled (disabled : machine.device.ready = false) :
    (step sha256 machine
      (.request payload circumstances)).device = machine.device := by
  cases running : machine.running with
  | false => rw [step_off running]
  | true =>
    cases decoded : decodeBleActionCommand payload with
    | error error => rw [step_undecoded decoded]
    | ok command =>
      rw [step_request running decoded]
      have applied := @applyCommand_cases sha256 machine.device command
        circumstances fun ready => by rw [disabled] at ready; cases ready
      generalize applyCommand sha256 command circumstances
        machine.device = outcome at applied
      cases applied with
      | rejected error => rfl
      | duplicate ready _ =>
        rw [disabled] at ready
        cases ready
      | attempted ready _ _ =>
        rw [disabled] at ready
        cases ready

theorem exec_disabled (disabled : machine.device.ready = false)
    {later : List Input} (unloaded : ∀ storageReady, .boot storageReady ∉ later) :
    (exec (step sha256) machine later).device = machine.device := by
  induction later using List.reverseRecOn with
  | nil => rfl
  | append_singleton later input induction =>
    have before := induction fun storageReady member =>
      unloaded storageReady (List.mem_append_left _ member)
    rw [exec_concat]
    cases input with
    | request payload circumstances =>
      rw [step_disabled (by rw [before]; exact disabled)]
      exact before
    | boot storageReady => exact absurd (by simp) (unloaded storageReady)

theorem CollisionFree.meaning_eq (free : CollisionFree sha256 history)
    {other : BleActionCommand} {digest : ByteVec 32}
    (requested : command ∈ history.filterMap Input.command)
    (otherRequested : other ∈ history.filterMap Input.command)
    (digested : commandDigest sha256 command = some digest)
    (otherDigested : commandDigest sha256 other = some digest) :
    meaning other = meaning command := by
  have valid := commandDigest_valid digested
  have otherValid := commandDigest_valid otherDigested
  apply commandPreimage_injective otherValid valid
  apply free other otherRequested command requested
  rw [commandDigest_eq valid] at digested
  rw [commandDigest_eq otherValid] at otherDigested
  rw [digested, otherDigested]

/--
An action from the phone is carried out at most once.  In every run of requests
and boots whose mesh epochs do not decrease, with every outcome of the storage
and of the mesh layer and every power cut: a second execution under an action
identifier comes after the first command has expired, and carries out another
command; a receipt that accepts a command is sent when this very command has
been executed, then or before; a receipt that names a mesh error leaves the
cache as it was, and the durable copy as it was or equal to the cache; and
behind a failed reservation nothing is executed until the cache is loaded again.
-/
theorem phone_actions_at_most_once
    (sha256 : Bytes → Option (ByteVec 32)) (history : List Input)
    (ordered : EpochsOrdered history)
    (collisionFree : CollisionFree sha256 history) :
    (exec (step sha256) factory history).device.log.Pairwise Apart ∧
    (∀ earlier payload circumstances later command state,
      history = earlier ++ .request payload circumstances :: later →
      (exec (step sha256) factory earlier).reply sha256 payload
        circumstances = some (.receipt command (.accepted state)) →
      ∃ other now, .executed other now ∈ (exec (step sha256) factory
            (earlier ++ [.request payload circumstances])).device.log ∧
        meaning other = meaning command) ∧
    (∀ earlier payload circumstances later command error status,
      history = earlier ++ .request payload circumstances :: later →
      (exec (step sha256) factory earlier).reply sha256 payload
        circumstances = some (.receipt command (.rejected error)) →
      error.text = bleMeshErrorName status →
      let before := (exec (step sha256) factory earlier).device
      let after := (exec (step sha256) factory
        (earlier ++ [.request payload circumstances])).device
      after.cache = before.cache ∧ after.ready = before.ready ∧
        after.log = before.log ∧
        (after.durable = before.durable ∨ after.durable = before.cache)) ∧
    (∀ earlier later, history = earlier ++ later →
      (exec (step sha256) factory earlier).device.log.getLast? =
        some .reservationFailed → (∀ storageReady, .boot storageReady ∉ later) →
      (exec (step sha256) factory history).device.log =
        (exec (step sha256) factory earlier).device.log) := by
  refine ⟨(kept_exec ordered).apart, ?_, ?_, ?_⟩
  · rintro earlier payload circumstances later command state rfl replied
    rw [List.append_cons] at ordered collisionFree
    have kept := @kept_exec sha256 _ ordered.earlier
    rw [exec_concat]
    have keptBefore := @kept_exec sha256 _ ordered.earlier.earlier
    obtain ⟨_, decoded, _⟩ := reply_receipt replied
    obtain ⟨other, now, executed, digest, otherDigested, digested⟩ :=
      keptBefore.accepted replied
    refine ⟨other, now, executed, ?_⟩
    rw [exec_concat] at kept
    apply collisionFree.meaning_eq _ _ digested otherDigested
    · apply commands_subset
      rw [List.filterMap_append]
      apply List.mem_append_right
      simp [Input.command, decoded, Except.toOption]
    · apply commands_subset
      exact kept.requested other now executed
  · rintro earlier payload circumstances later command error status rfl
      replied named
    rw [exec_concat]
    have kept := @kept_exec sha256 _ ordered.earlier
    exact kept.meshError replied named
  · rintro earlier later rfl failed unloaded
    have disabled := (@kept_exec sha256 _ ordered.earlier).disabled failed
    rw [exec_append, exec_disabled disabled unloaded]

end Results

/-! ## A phone that uses an identifier again -/

/-- An action as the phone writes it. -/
def samplePayload (identifier kind expiresAtEpoch params : String) :
    Bytes :=
  ascii ("\x7b\"action_id\":\"" ++ identifier ++ "\",\"kind\":\"" ++
    kind ++ "\",\"expires_at_epoch\":" ++ expiresAtEpoch ++
    ",\"params\":" ++ params ++ "\x7d")

/-- Circumstances in which everything works. -/
def sampleCircumstances (epoch : Nat) : Circumstances where
  companionValid := true
  gameActive := false
  radioReady := true
  epoch := some epoch
  identityReady := true
  meshEnabled := true
  meshActive := true
  advertiseReadiness := .ok
  reservation := .written
  effect := .completed true .ok
  rollback := .written
  completion := .written

def sampleIdentifier : String := "07070707-0707-4707-8707-070707070707"

/-- A request to pet the companion. -/
def samplePetting : Bytes :=
  samplePayload sampleIdentifier "pet" "1767225660" "\x7b\x7d"

/-- A feeding under the identifier of the petting. -/
def sampleFeeding : Bytes :=
  samplePayload sampleIdentifier "feed" "1767225760" "\x7b\x7d"

def sampleAdvert : Bytes :=
  samplePayload "08080808-0808-4808-8808-080808080808" "advertise_once"
    "1767225660" "\x7b\"scope\":\"nearby\"\x7d"

/-- The radio has no room for the packet. -/
def sampleRefusal : Circumstances :=
  { sampleCircumstances 1767225601 with
    effect := .completed false .packetPoolFull }

/-- The identifier of an expired petting is used for a feeding. -/
def sampleReuse : List Input :=
  [.boot true, .request samplePetting (sampleCircumstances 1767225600),
    .request sampleFeeding (sampleCircumstances 1767225700)]

/-- The applied mark of the petting reaches the flash but is not reported. -/
def sampleUnmarked : List Input :=
  [.boot true, .request samplePetting
    { sampleCircumstances 1767225600 with completion := .failed true }]

/--
The petting is repeated behind its unreported mark; an advert is refused, goes
out as the power is cut, and is repeated with the petting after the boot; and
the feeding uses the identifier of the petting once that has expired.
-/
def sampleRetries : List Input :=
  sampleUnmarked ++
    [.request samplePetting (sampleCircumstances 1767225601),
      .request sampleAdvert sampleRefusal, .request sampleAdvert
        { sampleCircumstances 1767225602 with effect := .cut true },
      .boot true, .request sampleAdvert (sampleCircumstances 1767225603),
      .request samplePetting (sampleCircumstances 1767225604),
      .request sampleFeeding (sampleCircumstances 1767225700)]

/-- The identifier under which something was executed. -/
def Event.actionId : Event → Option (ByteVec 16)
  | .executed command _ => some command.actionId
  | .loaded | .reservationFailed => none

/-- Of its seven requests three are carried out. -/
theorem sample_phone_actions :
    EpochsOrdered sampleRetries ∧
    ((exec (step firmwareHash) factory sampleRetries).device.log.filterMap
      Event.actionId).length = 3 ∧
    (exec (step firmwareHash) factory sampleRetries).device.log.Pairwise
      Apart :=
  ⟨by unfold EpochsOrdered; decide, by decide +kernel,
    (phone_actions_at_most_once firmwareHash sampleRetries
      (by unfold EpochsOrdered; decide)
      (by unfold CollisionFree; decide +kernel)).1⟩

/-- The text of the error in a reply. -/
def Reply.errorText : Reply → Option String
  | .receipt _ (.rejected error) => some error.text
  | .receipt _ (.accepted _) | .undecoded _ => none

/--
One identifier is executed twice, and a refused advert replaces the durable copy
by an older one.
-/
theorem identifier_executed_again :
    (exec (step firmwareHash) factory sampleReuse).device.log.filterMap
        Event.actionId =
      [ByteVec.slice 16 [7, 7, 7, 7, 7, 7, 0x47, 7, 0x87, 7, 7, 7, 7, 7, 7, 7] 0,
        ByteVec.slice 16 [7, 7, 7, 7, 7, 7, 0x47, 7, 0x87, 7, 7, 7, 7, 7,
          7, 7] 0] ∧
    ((exec (step firmwareHash) factory sampleUnmarked).reply firmwareHash
        sampleAdvert sampleRefusal).bind Reply.errorText =
      some "queue_full" ∧
    bleMeshErrorName .packetPoolFull = "queue_full" ∧
    (exec (step firmwareHash) factory (sampleUnmarked ++
        [.request sampleAdvert sampleRefusal])).device.durable ≠
      (exec (step firmwareHash) factory sampleUnmarked).device.durable := by
  decide +kernel

end Kitsu.Ble.ActionRuns
