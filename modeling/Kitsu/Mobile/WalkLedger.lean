import Kitsu.Lib.Run
import Kitsu.Mobile.WalkCodec
import Mathlib.Data.List.Nodup

/-!
# The walk ledger of the phone

One step counter of the phone is shared by the devices that are walked with.
Only the active checkpoint is credited; selecting or binding another device
rebases it.  Beside the ledger runs a history of the samples and of what each of
them credited.
-/

namespace Kitsu.Mobile.WalkSteps

open Kitsu.Lib.ByteString
open Kitsu.Lib.Run

/-- The ledger in memory: the set, the device selected and the last sample. -/
structure WalkStepLedger where
  persisted : WalkStepCheckpointSet
  selectedDeviceAddress : Option Bytes
  latestCounter : Option Nat
  freshBaselineRequired : Bool
deriving DecidableEq, Repr

/-- What a call makes of the ledger, and what it changed. -/
structure WalkStepLedgerTransition where
  next : WalkStepLedger
  storageChanged : Bool
  counterRebased : Bool
  deviceRebased : Bool
deriving DecidableEq, Repr

/-- The ledger that is made of restored checkpoints. -/
def restored (persisted : WalkStepCheckpointSet) : WalkStepLedger :=
  ⟨persisted, persisted.activeKey.map (·.deviceAddress), none, false⟩

namespace WalkStepLedger

/-- A call that changes nothing. -/
def unchanged (ledger : WalkStepLedger) : WalkStepLedgerTransition :=
  ⟨ledger, false, false, false⟩

/-- The checkpoint of the route in use. -/
def activeCheckpoint (ledger : WalkStepLedger) : Option WalkStepCheckpoint :=
  ledger.persisted.activeKey.bind fun key =>
    ledger.persisted.checkpoints.find? (·.key = key)

/-- Addresses come in by their normal form. -/
def selectDevice (ledger : WalkStepLedger) (deviceAddress : Bytes) :
    Option WalkStepLedgerTransition :=
  if !requireCanonical deviceAddress then none
  else if ledger.selectedDeviceAddress = some deviceAddress then
    some ledger.unchanged
  else
    (checkpointSet ledger.persisted.checkpoints none).map fun nextPersisted =>
      { next := { ledger with
          persisted := nextPersisted
          selectedDeviceAddress := some deviceAddress
          freshBaselineRequired := true }
        storageChanged := nextPersisted ≠ ledger.persisted
        counterRebased := false
        deviceRebased := true }

/-- Another device than the one selected before. -/
def physicalDeviceSwitch (ledger : WalkStepLedger) (deviceAddress : Bytes) :
    Bool :=
  ledger.selectedDeviceAddress ≠ none &&
    ledger.selectedDeviceAddress ≠ some deviceAddress

/-- The checkpoint that `bindRoute` makes or continues. -/
def nextCheckpoint (ledger : WalkStepLedger) (deviceAddress : Bytes)
    (routeId firmwareStepsTotal : Nat) (continuing : Bool) :
    WalkStepCheckpoint :=
  let existing := ledger.persisted.checkpoints.find?
    (·.key = ⟨deviceAddress, routeId⟩)
  match continuing, existing with
  | true, some existing =>
    { existing with
      lastCounter := existing.lastCounter <|> ledger.latestCounter
      stepsTotal := max existing.stepsTotal firmwareStepsTotal }
  | _, existing =>
    { deviceAddress
      routeId
      lastCounter :=
        if ledger.freshBaselineRequired ||
          ledger.physicalDeviceSwitch deviceAddress then none
        else ledger.latestCounter
      stepsTotal :=
        max ((existing.map (·.stepsTotal)).getD 0) firmwareStepsTotal }

def takeLast {α : Type} (count : Nat) (values : List α) : List α :=
  values.drop (values.length - count)

/-- Bind a route of a device; a route that continues keeps its count. -/
def bindRoute (ledger : WalkStepLedger) (deviceAddress : Bytes)
    (routeId firmwareStepsTotal : Nat) : Option WalkStepLedgerTransition :=
  if !requireCanonical deviceAddress || !validOperationId routeId ||
      firmwareStepsTotal > MAX_WALK_STEPS then none
  else
    let key : WalkStepRouteKey := ⟨deviceAddress, routeId⟩
    let continuing := ledger.selectedDeviceAddress = some deviceAddress &&
      ledger.persisted.activeKey = some key
    let retained := takeLast MAX_RETAINED_DEVICES
      (ledger.persisted.checkpoints.filter (·.deviceAddress ≠ deviceAddress) ++
        [ledger.nextCheckpoint deviceAddress routeId firmwareStepsTotal
          continuing])
    (checkpointSet retained (some key)).map fun nextPersisted =>
      { next := { ledger with
          persisted := nextPersisted
          selectedDeviceAddress := some deviceAddress
          freshBaselineRequired := false }
        storageChanged := nextPersisted ≠ ledger.persisted
        counterRebased := false
        deviceRebased := !continuing }

/-- Checkpoints are dropped, and the active one is forgotten with them. -/
def clear (ledger : WalkStepLedger)
    (dropped : WalkStepRouteKey → Bool) : Option WalkStepLedgerTransition :=
  if ledger.persisted.checkpoints.all (!dropped ·.key) then
    some ledger.unchanged
  else
    (checkpointSet (ledger.persisted.checkpoints.filter (!dropped ·.key))
      (ledger.persisted.activeKey.filter (!dropped ·))).map fun nextPersisted =>
        ⟨{ ledger with persisted := nextPersisted }, true, false, false⟩

/-- Forget a route. -/
def clearRoute (ledger : WalkStepLedger) (deviceAddress : Bytes)
    (routeId : Nat) : Option WalkStepLedgerTransition :=
  if !requireCanonical deviceAddress || !validOperationId routeId then none
  else ledger.clear (· = ⟨deviceAddress, routeId⟩)

/-- Forget the routes of a device. -/
def clearDevice (ledger : WalkStepLedger) (deviceAddress : Bytes) :
    Option WalkStepLedgerTransition :=
  if !requireCanonical deviceAddress then none
  else ledger.clear (·.deviceAddress = deviceAddress)

/-- The steps of a route, at most the largest number. -/
def saturatingRouteTotal (current delta : Nat) : Nat :=
  current + min delta (MAX_WALK_STEPS - current)

/-- The steps after a sample; a counter that fell credits none. -/
def creditedTotal (current : WalkStepCheckpoint) (counter : Nat) : Nat :=
  match current.lastCounter with
  | none => current.stepsTotal
  | some previous =>
    if counter < previous then current.stepsTotal
    else saturatingRouteTotal current.stepsTotal (counter - previous)

/-- A negative counter is refused before; a `Long` is below 2^63. -/
def observeCounter (ledger : WalkStepLedger) (counter : Nat) :
    Option WalkStepLedgerTransition :=
  match ledger.activeCheckpoint with
  | none =>
    some ⟨{ ledger with
      latestCounter := some counter
      freshBaselineRequired := false }, false, false, false⟩
  | some current =>
    let nextCheckpoint := { current with
      lastCounter := some counter
      stepsTotal := creditedTotal current counter }
    (checkpointSet
      (ledger.persisted.checkpoints.map fun checkpoint =>
        if checkpoint.key = current.key then nextCheckpoint else checkpoint)
      ledger.persisted.activeKey).map fun nextPersisted =>
        { next := { ledger with
            persisted := nextPersisted
            latestCounter := some counter }
          storageChanged := nextPersisted ≠ ledger.persisted
          counterRebased := current.lastCounter.any (counter < ·)
          deviceRebased := false }

end WalkStepLedger

/-! ## Runs -/

/-- What happens to the ledger; a process that dies loses what is in memory. -/
inductive Action where
  | selectDevice (deviceAddress : Bytes)
  | bindRoute (deviceAddress : Bytes) (routeId firmwareStepsTotal : Nat)
  | clearRoute (deviceAddress : Bytes) (routeId : Nat)
  | clearDevice (deviceAddress : Bytes)
  | observeCounter (counter : Nat)
  | die (rebooted : Bool)
deriving DecidableEq, Repr

/-- The arguments that the calls accept. -/
def Action.Valid : Action → Prop
  | .selectDevice deviceAddress => requireCanonical deviceAddress = true
  | .bindRoute deviceAddress routeId firmwareStepsTotal =>
    requireCanonical deviceAddress = true ∧ validOperationId routeId = true ∧
      firmwareStepsTotal ≤ MAX_WALK_STEPS
  | .clearRoute deviceAddress routeId =>
    requireCanonical deviceAddress = true ∧ validOperationId routeId = true
  | .clearDevice deviceAddress => requireCanonical deviceAddress = true
  | .observeCounter counter => counter < 2 ^ 63
  | .die _ => True

/-- The samples with what each added to which route, the newest in front. -/
inductive Event where
  | sampled (counter : Nat) (gains : List (WalkStepRouteKey × Nat))
  | switched
  | booted
deriving DecidableEq, Repr

/-- The ledger with what happened to it. -/
structure Walk where
  ledger : WalkStepLedger
  history : List Event
  failed : Bool
deriving DecidableEq, Repr

def stepsOf (state : WalkStepCheckpointSet) (key : WalkStepRouteKey) : Nat :=
  ((state.checkpoints.find? (·.key = key)).map (·.stepsTotal)).getD 0

/-- The routes whose totals have grown. -/
def gains (before after : WalkStepCheckpointSet) :
    List (WalkStepRouteKey × Nat) :=
  (after.checkpoints.map fun checkpoint =>
    (checkpoint.key, checkpoint.stepsTotal - stepsOf before checkpoint.key)).filter
      (0 < ·.2)

/-- What an action does to the ledger; nothing if a check fails. -/
def transition (ledger : WalkStepLedger) : Action → Option WalkStepLedger
  | .selectDevice deviceAddress =>
    (ledger.selectDevice deviceAddress).map (·.next)
  | .bindRoute deviceAddress routeId firmwareStepsTotal =>
    (ledger.bindRoute deviceAddress routeId firmwareStepsTotal).map (·.next)
  | .clearRoute deviceAddress routeId =>
    (ledger.clearRoute deviceAddress routeId).map (·.next)
  | .clearDevice deviceAddress => (ledger.clearDevice deviceAddress).map (·.next)
  | .observeCounter counter => (ledger.observeCounter counter).map (·.next)
  | .die _ => ((encode ledger.persisted).bind decode).map restored

/-- What an action is recorded as. -/
def events (before after : WalkStepLedger) : Action → List Event
  | .selectDevice deviceAddress =>
    if before.selectedDeviceAddress = some deviceAddress then []
    else [.switched]
  | .bindRoute deviceAddress _ _ =>
    if before.physicalDeviceSwitch deviceAddress then [.switched] else []
  | .observeCounter counter =>
    [.sampled counter (gains before.persisted after.persisted)]
  | .die rebooted => if rebooted then [.booted] else []
  | _ => []

/-- One action; one that is refused leaves the ledger as it was. -/
def step (walk : Walk) (action : Action) : Walk :=
  match transition walk.ledger action with
  | none => { walk with failed := true }
  | some next =>
    { walk with
      ledger := next
      history := events walk.ledger next action ++ walk.history }

/-- A ledger without any route. -/
def start : Walk := ⟨restored ⟨[], none⟩, [], false⟩

/-- The newest sample. -/
def lastSample : List Event → Option Nat
  | [] => none
  | .sampled counter _ :: _ => some counter
  | _ :: earlier => lastSample earlier

/-- A sample was taken after the last switch of the device. -/
def sampledSinceSwitch : List Event → Bool
  | [] => false
  | .sampled _ _ :: _ => true
  | .switched :: _ => false
  | _ :: earlier => sampledSinceSwitch earlier

/--
A sample adds to at most one route, at most the increase from the sample before,
and that one was taken after the last switch.
-/
def Fits (earlier : List Event) : Event → Prop
  | .sampled counter gains =>
    gains.length ≤ 1 ∧ ∀ gain ∈ gains, ∃ previous,
      lastSample earlier = some previous ∧ previous + gain.2 ≤ counter ∧
        sampledSinceSwitch earlier = true
  | _ => True

def Sound : List Event → Prop
  | [] => True
  | event :: earlier => Fits earlier event ∧ Sound earlier

/--
A route of the selected device is not bound when the device was switched to and
bound already, the ledger knows a sample, and none came in since the switch.
-/
def Careful (walk : Walk) : Action → Prop
  | .bindRoute deviceAddress _ _ =>
    walk.ledger.selectedDeviceAddress = some deviceAddress →
    walk.ledger.freshBaselineRequired = false →
    walk.ledger.latestCounter ≠ none →
      sampledSinceSwitch walk.history = true
  | _ => True

/-! ## Samples of one boot -/

/-- The counter as this boot of the phone has shown it; it starts at zero. -/
def shown : List Event → Nat
  | [] => 0
  | .sampled counter _ :: _ => counter
  | .booted :: _ => 0
  | _ :: earlier => shown earlier

/-- How far the counter went up in this boot. -/
def counted : List Event → Nat
  | [] => 0
  | .sampled counter _ :: earlier => counter - shown earlier + counted earlier
  | .booted :: _ => 0
  | _ :: earlier => counted earlier

/-- The steps that were added to any route in this boot. -/
def gained : List Event → Nat
  | [] => 0
  | .sampled _ gains :: earlier => (gains.map (·.2)).sum + gained earlier
  | .booted :: _ => 0
  | _ :: earlier => gained earlier

theorem shown_sampled (history : List Event) :
    shown history = 0 ∨ lastSample history = some (shown history) := by
  induction history with
  | nil => exact .inl rfl
  | cons event earlier known =>
    cases event with
    | sampled counter gains => exact .inr rfl
    | switched => exact known
    | booted => exact .inl rfl

/-- No more steps are added in one boot than its counter went up. -/
theorem gained_le_counted {history : List Event} (sound : Sound history) :
    gained history ≤ counted history := by
  induction history with
  | nil => exact Nat.le_refl 0
  | cons event earlier known =>
    have before := known sound.2
    cases event with
    | sampled counter gains =>
      obtain ⟨one, each⟩ := sound.1
      apply Nat.add_le_add _ before
      rcases gains with _ | ⟨gain, _ | ⟨other, more⟩⟩
      · exact Nat.zero_le _
      · obtain ⟨previous, sampled, within, -⟩ := each gain List.mem_cons_self
        rw [List.map_cons, List.map_nil, List.sum_cons, List.sum_nil]
        rcases shown_sampled earlier with zero | same
        · omega
        · cases sampled.symm.trans same
          omega
      · simp at one
    | switched => exact before
    | booted => exact Nat.le_refl 0

/-! ## Checkpoints -/

/-- A checkpoint that stays does not lose steps. -/
def Grows (before after : WalkStepCheckpointSet) : Prop :=
  ∀ old ∈ before.checkpoints, ∀ new ∈ after.checkpoints,
    new.key = old.key → old.stepsTotal ≤ new.stepsTotal

variable {checkpoint : WalkStepCheckpoint}

namespace RequireValid

variable {state : WalkStepCheckpointSet}

section

variable (valid : RequireValid state)

include valid

theorem unique {first second : WalkStepCheckpoint}
    (one : first ∈ state.checkpoints) (two : second ∈ state.checkpoints)
    (same : first.deviceAddress = second.deviceAddress) : first = second :=
  List.inj_on_of_nodup_map valid.distinct one two same

theorem find {checkpoint : WalkStepCheckpoint}
    (member : checkpoint ∈ state.checkpoints) :
    state.checkpoints.find? (·.key = checkpoint.key) = some checkpoint := by
  cases found : state.checkpoints.find? (·.key = checkpoint.key) with
  | none =>
    have none := List.find?_eq_none.mp found checkpoint member
    exact absurd (decide_eq_true rfl) none
  | some other =>
    have same : other.key = checkpoint.key := by
      simpa using List.find?_some found
    exact congrArg some (valid.unique (List.mem_of_find?_eq_some found) member
      (congrArg WalkStepRouteKey.deviceAddress same))

theorem stepsOf_key (member : checkpoint ∈ state.checkpoints) :
    stepsOf state checkpoint.key = checkpoint.stepsTotal := by
  rw [stepsOf, valid.find member]
  rfl

theorem stepsOf_le (key : WalkStepRouteKey) :
    stepsOf state key ≤ MAX_WALK_STEPS := by
  unfold stepsOf
  cases found : state.checkpoints.find? (·.key = key) with
  | none => exact Nat.zero_le _
  | some checkpoint =>
    exact (valid.checkpoints _ (List.mem_of_find?_eq_some found)).steps

/-- Checkpoints that were there before have not lost steps. -/
theorem grows {after : WalkStepCheckpointSet}
    (fewer : ∀ new ∈ after.checkpoints, new ∈ state.checkpoints) :
    Grows state after := by
  intro old member new inside same
  rw [valid.unique (fewer new inside) member
    (congrArg WalkStepRouteKey.deviceAddress same)]

/-- Some of the checkpoints, with an active one among them, are valid. -/
theorem sublist
    {checkpoints : List WalkStepCheckpoint} {key : Option WalkStepRouteKey}
    (fewer : checkpoints.Sublist state.checkpoints)
    (active : ∀ one ∈ key, ∃ checkpoint ∈ checkpoints, checkpoint.key = one) :
    RequireValid ⟨checkpoints, key⟩ where
  few := fewer.length_le.trans valid.few
  distinct := valid.distinct.sublist (fewer.map _)
  checkpoints := fun checkpoint member =>
    valid.checkpoints checkpoint (fewer.subset member)
  active := active

end

end RequireValid

/-! ## The invariant -/

/-- The invariant that connects the ledger with what happened. -/
structure Kept (walk : Walk) : Prop where
  valid : RequireValid walk.ledger.persisted
  fresh : walk.ledger.freshBaselineRequired = true →
    walk.ledger.persisted.activeKey = none
  latest : ∀ counter, walk.ledger.latestCounter = some counter →
    lastSample walk.history = some counter ∧ counter < 2 ^ 63
  unselected : walk.ledger.latestCounter ≠ none →
    walk.ledger.selectedDeviceAddress = none →
      sampledSinceSwitch walk.history = true
  baseline : ∀ checkpoint ∈ walk.ledger.persisted.checkpoints,
    walk.ledger.persisted.activeKey = some checkpoint.key →
      ∀ counter, checkpoint.lastCounter = some counter →
        lastSample walk.history = some counter ∧
          sampledSinceSwitch walk.history = true
  sound : Sound walk.history
  working : walk.failed = false

/-- The action is carried out, and takes no steps from a checkpoint. -/
def Carried (walk : Walk) (action : Action) : Prop :=
  ∃ next, transition walk.ledger action = some next ∧
    Kept { walk with
      ledger := next
      history := events walk.ledger next action ++ walk.history } ∧
    Grows walk.ledger.persisted next.persisted

variable {deviceAddress : Bytes} {action : Action}

namespace Kept

variable {walk : Walk}

theorem selected (kept : Kept walk)
    (canonical : requireCanonical deviceAddress = true) :
    Carried walk (.selectDevice deviceAddress) := by
  unfold Carried transition events WalkStepLedger.selectDevice
  simp only [canonical, Bool.not_true, Bool.false_eq_true, if_false]
  split_ifs with same
  · exact ⟨walk.ledger, rfl, kept, kept.valid.grows fun _ => id⟩
  have valid : RequireValid ⟨walk.ledger.persisted.checkpoints, none⟩ :=
    kept.valid.sublist (List.Sublist.refl _) nofun
  rw [checkpointSet_eq_some.mpr ⟨valid, rfl⟩]
  refine ⟨_, rfl, ?_, kept.valid.grows fun _ => id⟩
  constructor
  case valid => exact valid
  case fresh => exact fun _ => rfl
  case latest => exact kept.latest
  case unselected => nofun
  case baseline => nofun
  case sound => exact ⟨trivial, kept.sound⟩
  case working => exact kept.working

theorem cleared (kept : Kept walk) {dropped : WalkStepRouteKey → Bool}
    (performs : transition walk.ledger action =
      (walk.ledger.clear dropped).map (·.next))
    (silent : ∀ next, events walk.ledger next action = []) :
    Carried walk action := by
  unfold Carried
  rw [performs, WalkStepLedger.clear]
  simp only [silent, List.nil_append]
  split_ifs with absent
  · exact ⟨walk.ledger, rfl, kept, kept.valid.grows fun _ => id⟩
  have valid : RequireValid
      ⟨walk.ledger.persisted.checkpoints.filter (!dropped ·.key),
        walk.ledger.persisted.activeKey.filter (!dropped ·)⟩ := by
    refine kept.valid.sublist List.filter_sublist ?_
    intro key active
    obtain ⟨active, stays⟩ := Option.mem_filter_iff.mp active
    obtain ⟨checkpoint, member, rfl⟩ := kept.valid.active key active
    exact ⟨checkpoint, List.mem_filter.mpr ⟨member, stays⟩, rfl⟩
  rw [checkpointSet_eq_some.mpr ⟨valid, rfl⟩]
  refine ⟨_, rfl, ?_, kept.valid.grows fun _ member =>
    (List.mem_filter.mp member).1⟩
  constructor
  case valid => exact valid
  case fresh =>
    intro fresh
    exact congrArg (Option.filter _) (kept.fresh fresh)
  case latest => exact kept.latest
  case unselected => exact kept.unselected
  case baseline =>
    intro checkpoint member active
    exact kept.baseline checkpoint (List.mem_filter.mp member).1
      (Option.mem_filter_iff.mp active).1
  case sound => exact kept.sound
  case working => exact kept.working

theorem died (kept : Kept walk) (rebooted : Bool) :
    Carried walk (.die rebooted) := by
  unfold Carried transition
  rw [decode_encode kept.valid]
  refine ⟨_, rfl, ?_, kept.valid.grows fun _ => id⟩
  cases rebooted with
  | false =>
    exact ⟨kept.valid, nofun, nofun, fun known => absurd rfl known,
      kept.baseline, kept.sound, kept.working⟩
  | true =>
    exact ⟨kept.valid, nofun, nofun, fun known => absurd rfl known,
      kept.baseline, ⟨trivial, kept.sound⟩, kept.working⟩

end Kept

/-! ## Binding a route -/

/-- What `bindRoute` makes, and where its baseline comes from. -/
theorem nextCheckpoint_spec (ledger : WalkStepLedger) (deviceAddress : Bytes)
    (routeId firmwareStepsTotal : Nat) (continuing : Bool) :
    let made := ledger.nextCheckpoint deviceAddress routeId firmwareStepsTotal
      continuing
    made.key = ⟨deviceAddress, routeId⟩ ∧
      made.stepsTotal = max
        (stepsOf ledger.persisted ⟨deviceAddress, routeId⟩) firmwareStepsTotal ∧
      ∀ counter, made.lastCounter = some counter →
        (∃ existing ∈ ledger.persisted.checkpoints, continuing = true ∧
          existing.key = ⟨deviceAddress, routeId⟩ ∧
          existing.lastCounter = some counter) ∨
        ledger.latestCounter = some counter ∧
          (continuing = true ∨ ledger.freshBaselineRequired = false ∧
            ledger.physicalDeviceSwitch deviceAddress = false) := by
  unfold WalkStepLedger.nextCheckpoint stepsOf
  cases found : ledger.persisted.checkpoints.find?
    (·.key = ⟨deviceAddress, routeId⟩) with
  | none =>
    refine ⟨by cases continuing <;> rfl, by cases continuing <;> rfl, ?_⟩
    intro counter known
    cases continuing <;> (dsimp only at known; split_ifs at known with apart) <;>
      exact .inr ⟨known, .inr (by simpa using apart)⟩
  | some existing =>
    have same : existing.key = ⟨deviceAddress, routeId⟩ := by
      simpa using List.find?_some found
    cases continuing with
    | true =>
      refine ⟨same, rfl, fun counter known => ?_⟩
      cases old : existing.lastCounter with
      | none =>
        dsimp only at known
        rw [old] at known
        exact .inr ⟨known, .inl rfl⟩
      | some previous =>
        dsimp only at known
        rw [old] at known
        exact .inl ⟨existing, List.mem_of_find?_eq_some found, rfl, same,
          old.trans known⟩
    | false =>
      refine ⟨rfl, rfl, fun counter known => ?_⟩
      split_ifs at known with apart
      exact .inr ⟨known, .inr (by simpa using apart)⟩

theorem takeLast_concat {α : Type} (others : List α) (made : α) :
    ∃ front, WalkStepLedger.takeLast MAX_RETAINED_DEVICES (others ++ [made]) =
      front ++ [made] ∧ front.Sublist others ∧
        (front ++ [made]).length ≤ MAX_RETAINED_DEVICES := by
  have inside : (others ++ [made]).length - MAX_RETAINED_DEVICES ≤
      others.length := by
    rw [List.length_append, List.length_singleton]
    unfold MAX_RETAINED_DEVICES
    omega
  refine ⟨_, List.drop_append_of_le_length inside, List.drop_sublist _ _, ?_⟩
  rw [List.length_append, List.length_drop, List.length_append,
    List.length_singleton]
  unfold MAX_RETAINED_DEVICES
  omega

namespace Kept

variable {walk : Walk}

theorem bound (kept : Kept walk) {routeId firmwareStepsTotal : Nat}
    (arguments : (Action.bindRoute deviceAddress routeId firmwareStepsTotal).Valid)
    (careful : Careful walk (.bindRoute deviceAddress routeId
      firmwareStepsTotal)) :
    Carried walk (.bindRoute deviceAddress routeId firmwareStepsTotal) := by
  obtain ⟨canonical, operation, steps⟩ := arguments
  have accepted : ¬ (!requireCanonical deviceAddress ||
      !validOperationId routeId || decide (firmwareStepsTotal >
        MAX_WALK_STEPS)) = true := by
    simpa [canonical, operation] using steps
  unfold Carried transition WalkStepLedger.bindRoute
  simp only [accepted]
  generalize resumes : (decide (walk.ledger.selectedDeviceAddress =
    some deviceAddress) && decide (walk.ledger.persisted.activeKey =
      some ⟨deviceAddress, routeId⟩)) = continuing
  have continues : continuing = true →
      walk.ledger.selectedDeviceAddress = some deviceAddress ∧
        walk.ledger.persisted.activeKey = some ⟨deviceAddress, routeId⟩ := by
    rintro rfl
    simpa using resumes
  obtain ⟨key, total, based⟩ := nextCheckpoint_spec walk.ledger deviceAddress
    routeId firmwareStepsTotal continuing
  generalize walk.ledger.nextCheckpoint deviceAddress routeId
    firmwareStepsTotal continuing = made at key total based
  obtain ⟨front, retained, fewer, few⟩ := takeLast_concat
    (walk.ledger.persisted.checkpoints.filter
      (·.deviceAddress ≠ deviceAddress)) made
  have others : ∀ checkpoint ∈ front,
      checkpoint ∈ walk.ledger.persisted.checkpoints ∧
        checkpoint.deviceAddress ≠ deviceAddress := fun checkpoint member => by
    simpa using fewer.subset member
  have address : made.deviceAddress = deviceAddress :=
    congrArg WalkStepRouteKey.deviceAddress key
  have route : made.routeId = routeId := congrArg WalkStepRouteKey.routeId key
  have baseline : ∀ counter, made.lastCounter = some counter →
      lastSample walk.history = some counter ∧
        sampledSinceSwitch walk.history = true ∧
          walk.ledger.physicalDeviceSwitch deviceAddress = false := by
    intro counter known
    rcases based counter known with
      ⟨existing, member, resumed, same, known⟩ | ⟨known, resumed | apart⟩
    · obtain ⟨selected, active⟩ := continues resumed
      obtain ⟨sampled, since⟩ := kept.baseline existing member
        (active.trans (congrArg some same.symm)) counter known
      exact ⟨sampled, since, by simp [WalkStepLedger.physicalDeviceSwitch, selected]⟩
    · obtain ⟨selected, active⟩ := continues resumed
      have fresh : walk.ledger.freshBaselineRequired = false := by
        cases fresh : walk.ledger.freshBaselineRequired with
        | false => rfl
        | true => exact nomatch active.symm.trans (kept.fresh fresh)
      exact ⟨(kept.latest counter known).1,
        careful selected fresh (by rw [known]; nofun),
        by simp [WalkStepLedger.physicalDeviceSwitch, selected]⟩
    · have sampled : walk.ledger.latestCounter ≠ none := by rw [known]; nofun
      refine ⟨(kept.latest counter known).1, ?_, apart.2⟩
      cases selected : walk.ledger.selectedDeviceAddress with
      | none => exact kept.unselected sampled selected
      | some other =>
        have same : other = deviceAddress := by
          simpa [WalkStepLedger.physicalDeviceSwitch, selected] using apart.2
        exact careful (same ▸ selected) apart.1 sampled
  have bounded : ∀ counter, made.lastCounter = some counter →
      counter < 2 ^ 63 := by
    intro counter known
    rcases based counter known with ⟨existing, member, -, -, known⟩ | ⟨known, -⟩
    · exact (kept.valid.checkpoints existing member).counter counter known
    · exact (kept.latest counter known).2
  have old : stepsOf walk.ledger.persisted ⟨deviceAddress, routeId⟩ ≤
      MAX_WALK_STEPS := kept.valid.stepsOf_le _
  have checkpoint : ValidCheckpoint made :=
    ⟨by rwa [address], by rwa [route], bounded, total ▸ max_le old steps⟩
  have valid : RequireValid ⟨front ++ [made], some ⟨deviceAddress, routeId⟩⟩ := by
    refine ⟨few, ?_, ?_, ?_⟩
    · have distinct := kept.valid.distinct.sublist
        ((fewer.trans List.filter_sublist).map (·.deviceAddress))
      rw [List.map_append, List.map_singleton, address]
      refine distinct.append (List.nodup_singleton _) ?_
      intro one inside last
      obtain ⟨other, member, rfl⟩ := List.mem_map.mp inside
      exact (others other member).2 (List.mem_singleton.mp last)
    · intro one member
      rcases List.mem_append.mp member with inside | last
      · exact kept.valid.checkpoints one (others one inside).1
      · rwa [List.mem_singleton.mp last]
    · rintro one active
      cases active
      exact ⟨made, by simp, key⟩
  rw [retained, checkpointSet_eq_some.mpr ⟨valid, rfl⟩]
  refine ⟨_, rfl, ?_, ?_⟩
  · have based : ∀ one ∈ front ++ [made], one.key = ⟨deviceAddress, routeId⟩ →
        one = made := by
      intro one member same
      rcases List.mem_append.mp member with inside | last
      · exact absurd (congrArg WalkStepRouteKey.deviceAddress same)
          (others one inside).2
      · exact List.mem_singleton.mp last
    constructor
    case valid => exact valid
    case fresh => nofun
    case latest =>
      intro counter known
      obtain ⟨sampled, small⟩ := kept.latest counter known
      refine ⟨?_, small⟩
      unfold events
      dsimp only
      split_ifs <;> exact sampled
    case unselected => nofun
    case baseline =>
      intro one member active counter known
      have same := based one member (Option.some.inj active).symm
      obtain ⟨sampled, since, unswitched⟩ := baseline counter (same ▸ known)
      simp only [events, unswitched]
      exact ⟨sampled, since⟩
    case sound =>
      unfold events
      dsimp only
      split_ifs
      · exact ⟨trivial, kept.sound⟩
      · exact kept.sound
    case working => exact kept.working
  · intro old member new inside same
    rcases List.mem_append.mp inside with inside | last
    · rw [kept.valid.unique (others new inside).1 member
        (congrArg WalkStepRouteKey.deviceAddress same)]
    · rw [List.mem_singleton.mp last] at same ⊢
      rw [total, ← key, same, kept.valid.stepsOf_key member]
      exact Nat.le_max_left _ _

end Kept

/-! ## Samples -/

section Samples

variable {current : WalkStepCheckpoint} {counter : Nat}

/-- The active checkpoint after a sample. -/
def credited (current : WalkStepCheckpoint) (counter : Nat) :
    WalkStepCheckpoint :=
  { current with
    lastCounter := some counter
    stepsTotal := WalkStepLedger.creditedTotal current counter }

theorem le_creditedTotal :
    current.stepsTotal ≤ WalkStepLedger.creditedTotal current counter := by
  unfold WalkStepLedger.creditedTotal WalkStepLedger.saturatingRouteTotal
  split
  · exact Nat.le_refl _
  · split_ifs
    · exact Nat.le_refl _
    · exact Nat.le_add_right _ _

theorem creditedTotal_le (inside : current.stepsTotal ≤ MAX_WALK_STEPS) :
    WalkStepLedger.creditedTotal current counter ≤ MAX_WALK_STEPS := by
  unfold WalkStepLedger.creditedTotal WalkStepLedger.saturatingRouteTotal
  split
  · exact inside
  · split_ifs <;> omega

/-- What is credited was counted since the last counter of the checkpoint. -/
theorem exists_previous
    (more : current.stepsTotal < WalkStepLedger.creditedTotal current counter) :
    ∃ previous, current.lastCounter = some previous ∧
      previous + (WalkStepLedger.creditedTotal current counter -
        current.stepsTotal) ≤ counter := by
  unfold WalkStepLedger.creditedTotal WalkStepLedger.saturatingRouteTotal at *
  cases known : current.lastCounter with
  | none => simp [known] at more
  | some previous =>
    simp only [known] at more ⊢
    refine ⟨previous, rfl, ?_⟩
    split_ifs at more ⊢ <;> omega

variable {state : WalkStepCheckpointSet}

/-- The set in which one checkpoint has been credited. -/
def creditIn (state : WalkStepCheckpointSet) (current : WalkStepCheckpoint)
    (counter : Nat) : List WalkStepCheckpoint :=
  state.checkpoints.map fun checkpoint =>
    if checkpoint.key = current.key then credited current counter
    else checkpoint

/-- A checkpoint of the new set is an old one, or the credited one. -/
theorem mem_creditIn (inside : checkpoint ∈ creditIn state current counter) :
    checkpoint = credited current counter ∨
      checkpoint ∈ state.checkpoints ∧ checkpoint.key ≠ current.key := by
  obtain ⟨old, before, rfl⟩ := List.mem_map.mp inside
  split_ifs with same
  · exact .inl rfl
  · exact .inr ⟨before, same⟩

theorem keys_creditIn (state : WalkStepCheckpointSet)
    (current : WalkStepCheckpoint) (counter : Nat) :
    (creditIn state current counter).map (·.key) =
      state.checkpoints.map (·.key) := by
  rw [creditIn, List.map_map]
  refine List.map_congr_left fun checkpoint before => ?_
  rw [Function.comp_apply]
  split_ifs with same
  · exact same.symm
  · rfl

theorem RequireValid.credited (valid : RequireValid state)
    (member : current ∈ state.checkpoints) (small : counter < 2 ^ 63) :
    RequireValid ⟨creditIn state current counter, state.activeKey⟩ := by
  have keys := keys_creditIn state current counter
  have old := valid.checkpoints current member
  have made : ValidCheckpoint (WalkSteps.credited current counter) :=
    ⟨old.address, old.route, by rintro _ ⟨⟩; exact small,
      creditedTotal_le old.steps⟩
  refine ⟨?_, ?_, ?_, ?_⟩
  · simpa [creditIn] using valid.few
  · have addresses := congrArg (List.map WalkStepRouteKey.deviceAddress) keys
    rw [List.map_map, List.map_map] at addresses
    exact addresses ▸ valid.distinct
  · intro checkpoint inside
    rcases mem_creditIn inside with rfl | ⟨before, -⟩
    · exact made
    · exact valid.checkpoints checkpoint before
  · intro key active
    obtain ⟨checkpoint, before, rfl⟩ := valid.active key active
    have inside : checkpoint.key ∈ (creditIn state current counter).map (·.key) :=
      keys ▸ List.mem_map_of_mem before
    exact List.mem_map.mp inside

/-- A set that kept its keys gains each of them once. -/
theorem nodup_gains (key : Option WalkStepRouteKey) (valid : RequireValid state)
    {after : List WalkStepCheckpoint}
    (keys : after.map (·.key) = state.checkpoints.map (·.key)) :
    ((gains state ⟨after, key⟩).map (·.1)).Nodup := by
  have distinct : (state.checkpoints.map (·.key)).Nodup := by
    refine List.Nodup.of_map (WalkStepRouteKey.deviceAddress) ?_
    rw [List.map_map]
    exact valid.distinct
  rw [← keys] at distinct
  refine distinct.sublist ?_
  have all := (List.filter_sublist (p := fun gain : WalkStepRouteKey × Nat =>
    decide (0 < gain.2)) (l := after.map fun checkpoint =>
      (checkpoint.key, checkpoint.stepsTotal -
        stepsOf state checkpoint.key))).map (·.1)
  rwa [List.map_map] at all

theorem gains_credited (valid : RequireValid state)
    (member : current ∈ state.checkpoints) {key : Option WalkStepRouteKey}
    {gain : WalkStepRouteKey × Nat}
    (gained : gain ∈ gains state ⟨creditIn state current counter, key⟩) :
    gain.1 = current.key ∧ 0 < gain.2 ∧ gain.2 =
      WalkStepLedger.creditedTotal current counter - current.stepsTotal := by
  obtain ⟨inside, positive⟩ := List.mem_filter.mp gained
  obtain ⟨checkpoint, made, rfl⟩ := List.mem_map.mp inside
  rcases mem_creditIn made with rfl | ⟨before, -⟩
  · refine ⟨rfl, of_decide_eq_true positive, ?_⟩
    exact congrArg (_ - ·) (valid.stepsOf_key member)
  · have none := of_decide_eq_true positive
    rw [valid.stepsOf_key before, Nat.sub_self] at none
    exact absurd none (Nat.lt_irrefl 0)

theorem gains_self (valid : RequireValid state) : gains state state = [] := by
  refine List.filter_eq_nil_iff.mpr fun gain inside => ?_
  obtain ⟨checkpoint, member, rfl⟩ := List.mem_map.mp inside
  simp [valid.stepsOf_key member]

end Samples

namespace Kept

variable {walk : Walk}

theorem observed (kept : Kept walk) {counter : Nat} (small : counter < 2 ^ 63) :
    Carried walk (.observeCounter counter) := by
  unfold Carried transition WalkStepLedger.observeCounter
  cases active : walk.ledger.activeCheckpoint with
  | none =>
    have inactive : walk.ledger.persisted.activeKey = none := by
      cases known : walk.ledger.persisted.activeKey with
      | none => rfl
      | some key =>
        obtain ⟨checkpoint, member, rfl⟩ := kept.valid.active key known
        rw [WalkStepLedger.activeCheckpoint, known, Option.bind_some,
          kept.valid.find member] at active
        cases active
    refine ⟨_, rfl, ?_, kept.valid.grows fun _ => id⟩
    constructor
    case valid => exact kept.valid
    case fresh => nofun
    case latest => rintro _ ⟨⟩; exact ⟨rfl, small⟩
    case unselected => exact fun _ _ => rfl
    case baseline =>
      intro checkpoint member known
      exact nomatch inactive.symm.trans known
    case sound =>
      refine ⟨?_, kept.sound⟩
      rw [gains_self kept.valid]
      exact ⟨Nat.zero_le 1, nofun⟩
    case working => exact kept.working
  | some current =>
    obtain ⟨key, known, found⟩ := Option.bind_eq_some_iff.mp active
    have member := List.mem_of_find?_eq_some found
    have same : current.key = key := by simpa using List.find?_some found
    have valid := kept.valid.credited member small
    refine ⟨⟨⟨creditIn walk.ledger.persisted current counter,
      walk.ledger.persisted.activeKey⟩, walk.ledger.selectedDeviceAddress,
      some counter, walk.ledger.freshBaselineRequired⟩, ?_, ?_, ?_⟩
    · dsimp only
      exact congrArg (Option.map WalkStepLedgerTransition.next ∘ Option.map _)
        (checkpointSet_eq_some.mpr ⟨valid, rfl⟩)
    · constructor
      case valid => exact valid
      case fresh => exact kept.fresh
      case latest => rintro _ ⟨⟩; exact ⟨rfl, small⟩
      case unselected => exact fun _ _ => rfl
      case baseline =>
        intro checkpoint inside active other last
        rcases mem_creditIn inside with rfl | ⟨-, apart⟩
        · exact ⟨last, rfl⟩
        · have active := Option.some.inj (known.symm.trans active)
          exact absurd (active.symm.trans same.symm) apart
      case sound =>
        refine ⟨⟨?_, ?_⟩, kept.sound⟩
        · have distinct := nodup_gains walk.ledger.persisted.activeKey
            kept.valid (keys_creditIn _ current counter)
          have each : ∀ gain ∈ gains walk.ledger.persisted
              ⟨creditIn walk.ledger.persisted current counter,
                walk.ledger.persisted.activeKey⟩, gain.1 = current.key :=
            fun gain gained => (gains_credited kept.valid member gained).1
          generalize gains _ _ = all at distinct each
          rcases all with _ | ⟨first, _ | ⟨second, rest⟩⟩
          · exact Nat.zero_le 1
          · exact Nat.le_refl 1
          · have one := each first List.mem_cons_self
            have two := each second (by simp)
            simp [one, two] at distinct
        · intro gain gained
          obtain ⟨-, positive, amount⟩ :=
            gains_credited kept.valid member gained
          have more : current.stepsTotal <
              WalkStepLedger.creditedTotal current counter := by omega
          obtain ⟨previous, last, within⟩ := exists_previous more
          obtain ⟨sampled, since⟩ := kept.baseline current member
            (known.trans (congrArg some same.symm)) previous last
          exact ⟨previous, sampled, by omega, since⟩
      case working => exact kept.working
    · intro old before new inside same
      rcases mem_creditIn inside with rfl | ⟨after, -⟩
      · have equal : current = old := kept.valid.unique member before
          (congrArg WalkStepRouteKey.deviceAddress same)
        exact equal ▸ le_creditedTotal
      · rw [kept.valid.unique after before
          (congrArg WalkStepRouteKey.deviceAddress same)]

theorem carried (kept : Kept walk) (arguments : action.Valid)
    (careful : Careful walk action) : Carried walk action := by
  cases action with
  | selectDevice deviceAddress => exact kept.selected arguments
  | bindRoute deviceAddress routeId firmwareStepsTotal =>
    exact kept.bound arguments careful
  | clearRoute deviceAddress routeId =>
    have accepted : ¬ (!requireCanonical deviceAddress ||
        !validOperationId routeId) = true := by
      simp [arguments.1, arguments.2]
    have performs : transition walk.ledger (.clearRoute deviceAddress routeId) =
        (walk.ledger.clear (· = ⟨deviceAddress, routeId⟩)).map (·.next) := by
      rw [transition, WalkStepLedger.clearRoute, if_neg accepted]
    exact kept.cleared performs fun _ => rfl
  | clearDevice deviceAddress =>
    have accepted : ¬ (!requireCanonical deviceAddress) = true := by
      rw [show requireCanonical deviceAddress = true from arguments]
      decide
    have performs : transition walk.ledger (.clearDevice deviceAddress) =
        (walk.ledger.clear (·.deviceAddress = deviceAddress)).map (·.next) := by
      rw [transition, WalkStepLedger.clearDevice, if_neg accepted]
    exact kept.cleared performs fun _ => rfl
  | observeCounter counter => exact kept.observed arguments
  | die rebooted => exact kept.died rebooted

theorem initially : Kept start where
  valid := ⟨by decide, List.nodup_nil, nofun, nofun⟩
  fresh := nofun
  latest := nofun
  unselected := fun known => absurd rfl known
  baseline := nofun
  sound := trivial
  working := rfl

theorem stepped (kept : Kept walk) (allowed : action.Valid ∧ Careful walk action) :
    Kept (step walk action) := by
  obtain ⟨next, moved, later, -⟩ := kept.carried allowed.1 allowed.2
  rw [step, moved]
  exact later

theorem grows (kept : Kept walk) {action : Action}
    (allowed : action.Valid ∧ Careful walk action) :
    Grows walk.ledger.persisted (step walk action).ledger.persisted := by
  obtain ⟨next, moved, -, grows⟩ := kept.carried allowed.1 allowed.2
  rw [step, moved]
  exact grows

end Kept

/-- What the calls may be: arguments that they accept, and no early rebinding. -/
def Allowed (walk : Walk) (action : Action) : Prop :=
  action.Valid ∧ Careful walk action

/--
In every run of allowed calls and process deaths, no check fails; a sample adds
to at most one route, no more than the counter went up since the sample before,
which came in after the last switch; no boot adds more than its counter went up;
at most three devices are kept, each once and with a total that stays in range
and does not decrease; and the stored form and the checkpoints determine each
other.
-/
theorem walk_steps_credited (actions : List Action)
    (allowed : Throughout step start Allowed actions) :
    (exec step start actions).failed = false ∧
      Sound (exec step start actions).history ∧
      gained (exec step start actions).history ≤
        counted (exec step start actions).history ∧
      RequireValid (exec step start actions).ledger.persisted ∧
      (∀ earlier action later, actions = earlier ++ action :: later →
        Grows (exec step start earlier).ledger.persisted
          (exec step start (earlier ++ [action])).ledger.persisted) ∧
      (∀ state, RequireValid state → (encode state).bind decode = some state) ∧
      ∀ bytes state, decode bytes = some state → encode state = some bytes := by
  have always : ∀ {taken : List Action}, Throughout step start Allowed taken →
      Kept (exec step start taken) :=
    exec_throughout Kept.initially fun _ _ kept => kept.stepped
  have kept := always allowed
  refine ⟨kept.working, kept.sound, gained_le_counted kept.sound, kept.valid, ?_,
    fun _ => decode_encode, fun _ _ => encode_decode⟩
  rintro earlier action later rfl
  rw [exec_concat]
  exact (always allowed.earlier).grows (allowed earlier action later rfl)

def firstDevice : Bytes := ascii "AA:01"
/-- The address of another one. -/
def secondDevice : Bytes := ascii "AA:02"

/-- A walk with the first device, and one with the second that is bound again. -/
def switchedWalk : List Action :=
  [.bindRoute firstDevice 1 0, .observeCounter 100, .observeCounter 150,
    .bindRoute secondDevice 2 0, .observeCounter 160, .bindRoute secondDevice 2 0,
    .observeCounter 200]

/-- The ten steps around the switch go to neither device. -/
theorem walk_steps_credited_once :
    (exec step start switchedWalk).failed = false ∧
      Sound (exec step start switchedWalk).history ∧
      gained (exec step start switchedWalk).history = 90 ∧
      stepsOf (exec step start switchedWalk).ledger.persisted ⟨firstDevice, 1⟩ = 50 ∧
      stepsOf (exec step start switchedWalk).ledger.persisted
        ⟨secondDevice, 2⟩ = 40 := by
  have allowed : Throughout step start Allowed switchedWalk := by
    have first : (Action.bindRoute firstDevice 1 0).Valid := by
      unfold Action.Valid
      decide
    have second : (Action.bindRoute secondDevice 2 0).Valid := by
      unfold Action.Valid
      decide
    have sample {counter : Nat} (small : counter < 2 ^ 63) :
        (Action.observeCounter counter).Valid := small
    simp only [switchedWalk, throughout_cons]
    refine ⟨⟨first, nofun⟩, ⟨sample (by decide), trivial⟩,
      ⟨sample (by decide), trivial⟩, ⟨second, ?_⟩, ⟨sample (by decide), trivial⟩,
      ⟨second, ?_⟩, ⟨sample (by decide), trivial⟩, .nil⟩
    · intro selected
      exact absurd selected (by decide)
    · -- The second binding comes behind a sample of the second device's time.
      intro _ _ _
      decide
  have credited := walk_steps_credited switchedWalk allowed
  exact ⟨credited.1, credited.2.1, by decide, by decide, by decide⟩

/--
The route of the second device is bound twice before the first sample, as on a
refresh: the fifty steps since the sample of the first device go to the second.
-/
theorem stale_sample_credited :
    ¬ ∀ actions : List Action, (∀ action ∈ actions, action.Valid) →
      Sound (exec step start actions).history := by
  intro sound
  have credited := sound [.bindRoute firstDevice 1 0, .observeCounter 100,
    .bindRoute secondDevice 2 0, .bindRoute secondDevice 2 0,
    .observeCounter 150] (by
      simp only [List.mem_cons, List.not_mem_nil, or_false]
      rintro action (rfl | rfl | rfl | rfl | rfl) <;> (unfold Action.Valid; decide))
  obtain ⟨previous, -, -, since⟩ :=
    credited.1.2 (⟨secondDevice, 2⟩, 50) (by decide)
  revert since
  decide

end Kitsu.Mobile.WalkSteps
