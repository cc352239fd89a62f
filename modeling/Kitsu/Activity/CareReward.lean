import Kitsu.Activity.Suite
import Kitsu.Lib.Run

/-!
# The care reward of an activity

An activity that shows its result is paid once, says a flag in memory.  The vitals and
the record of the activity are written one after the other, and the flag is cleared,
restored or inferred from the stored phase on several paths.  The numbers of activities,
and the lists of those that were paid, are not kept by the source.
-/

namespace Kitsu.Activity.CareReward

open Kitsu.Lib.Run

/-- The vitals that a finished activity moves. -/
structure Vitals where
  energy : UInt8
  curiosity : UInt8
  affection : UInt8
  /-- The activities whose reward these vitals hold. -/
  rewards : List Nat := []
deriving DecidableEq

/-- A game that the companion brain was told of. -/
structure Game where
  activity : Nat
  percent : UInt8
  perfect : Bool
deriving DecidableEq

/-- What becomes of a write; a record may be stored that could not be verified. -/
inductive WriteOutcome where
  | written
  | unverified
  | failed
deriving DecidableEq

/-- Whether the record is stored, verified or not. -/
def WriteOutcome.lands : WriteOutcome → Bool
  | .written | .unverified => true
  | .failed => false

/-- What outlasts the power: the activity record, the core record, the brain. -/
structure Store where
  activity : Option (ActivityState × Nat)
  core : Vitals
  brain : List Game
deriving DecidableEq

/-- What the firmware holds in memory while it runs. -/
structure Ram where
  suite : Suite
  activity : Nat
  activityStateReady : Bool
  activityRewarded : Bool
  vitals : Vitals
  brain : List Game
deriving DecidableEq

/-- Without power there is no memory. -/
structure Device where
  ram : Option Ram
  store : Store
  nextActivity : Nat
deriving DecidableEq

/-! ## The activity record -/

/-- Whether the record is written at all. -/
def Ram.storable (ram : Ram) : Bool :=
  ram.activityStateReady && validateActivityState ram.suite.snapshot

/-- Write the activity record; only a verified write counts as persisted. -/
def persistActivityState (ram : Ram) (outcome : WriteOutcome) (store : Store) :
    Bool × Store :=
  if !ram.storable then (false, store)
  else
    (outcome = .written,
      if outcome.lands then { store with activity := some (ram.suite.snapshot, ram.activity) }
      else store)

/-- Persist a change of the activity, or take it back in memory. -/
def persistActivityMutation (ram : Ram) (before : ActivityState) (outcome : WriteOutcome)
    (store : Store) : Bool × Ram × Store :=
  let (persisted, store) := persistActivityState ram outcome store
  if persisted then (true, ram, store)
  else (false, { ram with suite := (ram.suite.restore before).2 }, store)

def running (phase : UInt8) : Bool :=
  phase == ActivityPhase.presenting.code || phase == ActivityPhase.playing.code

/--
Load the activity at boot; one that was interrupted starts over, one that shows
its result counts as paid.
-/
def loadActivityState (ram : Ram) (now : UInt32) (outcome : WriteOutcome) (store : Store) :
    Ram × Store :=
  let blank := { ram with suite := Suite.reset, activityStateReady := true }
  match store.activity with
  | none =>
    let (ready, store) := persistActivityState blank outcome store
    ({ blank with activityStateReady := ready }, store)
  | some (state, activity) =>
    let (restored, suite) := Suite.reset.restore state
    if !restored then
      let (ready, store) := persistActivityState blank outcome store
      ({ blank with activityStateReady := ready }, store)
    else
      let loaded := { blank with suite, activity }
      if running state.phase || state.phase == ActivityPhase.result.code then
        let (resuming, suite) := suite.resumeAfterCrash now
        let resumed := { loaded with
          suite
          activityRewarded := state.phase == ActivityPhase.result.code }
        let (persisted, store) := persistActivityState resumed outcome store
        if resuming && !persisted then
          ({ resumed with suite := Suite.reset, activityStateReady := false }, store)
        else (resumed, store)
      else (loaded, store)

/-! ## The reward -/

/-- The score as a rounded percentage of the highest one. -/
def percentOf (score maximumScore : UInt16) : UInt8 :=
  let maximum := max 1 maximumScore.toUInt32
  (min 100 ((score.toUInt32 * 100 + maximum / 2) / maximum)).toUInt8

/-- The sum is a byte again before it is bounded; no stored value is near a wrap. -/
def raised (value amount : UInt8) : UInt8 :=
  min 100 (value + amount)

/-- Pay the activity whose result is shown, unless the flag says it was paid. -/
def rewardFinishedActivity (ram : Ram) (view : ActivityView) : Ram :=
  if ram.activityRewarded || view.phase != ActivityPhase.result.code then ram
  else
    let perfect := view.score ≥ max 1 view.maximumScore
    { ram with
      activityRewarded := true
      vitals :=
        { energy := if ram.vitals.energy > 3 then ram.vitals.energy - 3 else 1
          curiosity := raised ram.vitals.curiosity 4
          affection := raised ram.vitals.affection (if perfect then 4 else 2)
          rewards := ram.activity :: ram.vitals.rewards }
      brain := ⟨ram.activity, percentOf view.score view.maximumScore, perfect⟩ :: ram.brain }

/-- The core record holds the vitals. -/
def saveState (ram : Ram) (outcome : WriteOutcome) (store : Store) : Store :=
  if outcome.lands then { store with core := ram.vitals } else store

/-! ## Calls -/

/-- The three ways to begin an activity. -/
inductive Mode where
  | normal (kind : UInt8) (seed : UInt32) (difficulty : UInt8)
  | daily (day fingerprint : UInt32)
  | ghost (kind : UInt8)
deriving DecidableEq

/-- Begin an activity in one of the three ways. -/
def Mode.begin (mode : Mode) (suite : Suite) (now : UInt32) (modifier : CompanionModifier) :
    Bool × Suite :=
  match mode with
  | .normal kind seed difficulty => suite.start kind now seed difficulty modifier 0
  | .daily day fingerprint => suite.startDaily day fingerprint now modifier
  | .ghost kind => suite.startGhost kind now modifier

/-- What the player does with the button. -/
inductive Input where
  | tap
  | press
  | release
deriving DecidableEq

/-- Where the source divides by zero there is no result. -/
def Input.apply (input : Input) (suite : Suite) (now : UInt32) :
    Option (InputResult × Suite) :=
  match input with
  | .tap => suite.tap now
  | .press => some (suite.press now)
  | .release => suite.release now

/-- The calls that touch the activity, its reward or their records. -/
inductive Call where
  | startActivity (mode : Mode) (now : UInt32) (modifier : CompanionModifier)
      (outcome : WriteOutcome)
  /-- The power may be cut between the write of the core record and the other one. -/
  | tickActivity (now : UInt32) (buttonUp : Bool) (core : WriteOutcome) (cut : Bool)
      (outcome : WriteOutcome)
  | input (input : Input) (now : UInt32) (outcome : WriteOutcome)
  | leaveActivity (outcome : WriteOutcome)
  | cancelActivityForSleep (outcome : WriteOutcome)
  /-- Other parts of the firmware write the core record and the brain as they stand. -/
  | saveState (outcome : WriteOutcome)
  | saveBrain (outcome : WriteOutcome)
  | cutPower
  | boot (now : UInt32) (outcome : WriteOutcome)
deriving DecidableEq

/-- The memory after the activity was given up. -/
def Ram.cancelled (ram : Ram) : Ram :=
  { ram with suite := ram.suite.cancel, activityRewarded := false }

/-- The suite as a tick leaves it; with the button down it stands still. -/
def ticked (ram : Ram) (now : UInt32) (buttonUp : Bool) : Suite :=
  if buttonUp then ram.suite.tick now else ram.suite

/-- A start that cannot be persisted is cancelled in memory. -/
def startActivity (device : Device) (ram : Ram) (mode : Mode) (now : UInt32)
    (modifier : CompanionModifier) (outcome : WriteOutcome) : Device :=
  if !ram.activityStateReady then device
  else
    match mode.begin ram.suite now modifier with
    | (false, _) => device
    | (true, suite) =>
      let begun := { ram with
        suite
        activity := device.nextActivity
        activityRewarded := false }
      let (persisted, store) := persistActivityState begun outcome device.store
      { ram := some (if persisted then begun else { begun with suite := suite.cancel })
        store
        nextActivity := device.nextActivity + 1 }

/-- A division by zero stops the device. -/
def tickActivity (device : Device) (ram : Ram) (now : UInt32) (buttonUp : Bool)
    (core : WriteOutcome) (cut : Bool) (outcome : WriteOutcome) : Device :=
  if !ram.activityStateReady then device
  else
    let suite := ticked ram now buttonUp
    match suite.view now with
    | none => { device with ram := none }
    | some view =>
      let after := rewardFinishedActivity { ram with suite } view
      let store :=
        if after.vitals = ram.vitals then device.store
        else saveState after core device.store
      if cut then { device with ram := none, store }
      else if suite.snapshot = ram.suite.snapshot then { device with ram := some after, store }
      else
        { device with ram := some after, store := (persistActivityState after outcome store).2 }

/--
The suite handles the input; where it divides by zero the device restarts.
-/
def applyInput (device : Device) (ram : Ram) (input : Input) (now : UInt32)
    (outcome : WriteOutcome) : Device :=
  match input.apply ram.suite now with
  | none => { device with ram := none }
  | some (result, suite) =>
    let moved := { ram with suite }
    if result = .ignored ∨ result = .invalid then { device with ram := some moved }
    else
      let (_, after, store) :=
        persistActivityMutation moved ram.suite.snapshot outcome device.store
      { device with ram := some after, store }

/-- The player leaves the activity; with no record ready nothing is written. -/
def leaveActivity (device : Device) (ram : Ram) (outcome : WriteOutcome) : Device :=
  if !ram.activityStateReady then { device with ram := some ram.cancelled }
  else
    let (_, after, store) :=
      persistActivityMutation ram.cancelled ram.suite.snapshot outcome device.store
    { device with ram := some after, store }

/-- Sleep ends an activity that runs or shows its result. -/
def cancelActivityForSleep (device : Device) (ram : Ram) (outcome : WriteOutcome) : Device :=
  if !(running ram.suite.state.phase ||
      ram.suite.state.phase == ActivityPhase.result.code) then device
  else
    { device with
      ram := some ram.cancelled
      store := (persistActivityState ram.cancelled outcome device.store).2 }

/-- A start without storage is left out: no activity begins there. -/
def boot (device : Device) (now : UInt32) (outcome : WriteOutcome) : Device :=
  let fresh : Ram :=
    { suite := Suite.reset
      activity := device.nextActivity
      activityStateReady := true
      activityRewarded := false
      vitals := device.store.core
      brain := device.store.brain }
  let (ram, store) := loadActivityState fresh now outcome device.store
  { ram := some ram, store, nextActivity := device.nextActivity + 1 }

/-- One call; without power only a boot does anything. -/
def step (device : Device) (call : Call) : Device :=
  match call, device.ram with
  | .boot now outcome, _ => boot device now outcome
  | _, none => device
  | .startActivity mode now modifier outcome, some ram =>
    startActivity device ram mode now modifier outcome
  | .tickActivity now buttonUp core cut outcome, some ram =>
    tickActivity device ram now buttonUp core cut outcome
  | .input input now outcome, some ram => applyInput device ram input now outcome
  | .leaveActivity outcome, some ram => leaveActivity device ram outcome
  | .cancelActivityForSleep outcome, some ram => cancelActivityForSleep device ram outcome
  | .saveState outcome, some ram => { device with store := saveState ram outcome device.store }
  | .saveBrain outcome, some ram =>
    if outcome.lands then { device with store := { device.store with brain := ram.brain } }
    else device
  | .cutPower, some _ => { device with ram := none }

/-- A device without power, with any record and any vitals. -/
def unpowered (record : Option ActivityState) (energy curiosity affection : UInt8) :
    Device where
  ram := none
  store :=
    { activity := record.map (·, 0)
      core := { energy, curiosity, affection }
      brain := [] }
  nextActivity := 1

/-! ## What is asked of the reward -/

/-- No activity is paid twice in these vitals and this brain. -/
def PaidOnce (vitals : Vitals) (brain : List Game) : Prop :=
  vitals.rewards.Nodup ∧ (brain.map Game.activity).Nodup

/-- The invariant: in memory and in the store no activity was paid twice. -/
structure AtMostOnce (device : Device) : Prop where
  ram : ∀ ram, device.ram = some ram → PaidOnce ram.vitals ram.brain
  store : PaidOnce device.store.core device.store.brain

/-- The tick pays the activity in memory. -/
def Pays (ram : Ram) (now : UInt32) (buttonUp : Bool) : Prop :=
  ram.activityStateReady = true ∧ ram.activityRewarded = false ∧
    (ticked ram now buttonUp).state.phase = ActivityPhase.result.code ∧
    ((ticked ram now buttonUp).view now).isSome = true

/-- The stored record is of the activity in memory, and goes on after a restart. -/
def Resumable (store : Store) (ram : Ram) : Prop :=
  ∃ state, store.activity = some (state, ram.activity) ∧ running state.phase = true

/--
A tick that pays what is stored as running also stores the result, or loses the reward
with the power.  An activity that was paid is left with its record written.
-/
def Fits (device : Device) (call : Call) : Prop :=
  ∀ ram, device.ram = some ram →
    match call with
    | .tickActivity now buttonUp core cut outcome =>
      Pays ram now buttonUp → Resumable device.store ram →
        (cut = true ∧ core.lands = false) ∨
          (cut = false ∧ outcome.lands = true ∧
            (ticked ram now buttonUp).snapshot ≠ ram.suite.snapshot ∧
            validateActivityState (ticked ram now buttonUp).snapshot = true)
    | .leaveActivity outcome =>
      ram.activityStateReady = true → ram.activityRewarded = true →
        ram.suite.state.phase = ActivityPhase.result.code →
        outcome = .written ∧ validateActivityState ram.suite.cancel.snapshot = true
    | _ => True

/-! ## The suite under a call -/

/-- An activity in this phase may still be paid. -/
def payable (phase : UInt8) (rewarded : Bool) : Bool :=
  running phase || phase == ActivityPhase.result.code && !rewarded

/-- A suite that is not available was reset. -/
def Settled (suite : Suite) : Prop :=
  suite.available = true ∨ suite.state.phase = ActivityPhase.idle.code

/-- What may be paid after a call might have been paid before it. -/
structure Moves (before after : Suite) : Prop where
  settled : Settled before → Settled after
  payable : ∀ rewarded, payable after.state.phase rewarded = true →
    payable before.state.phase rewarded = true

theorem Moves.same (suite : Suite) : Moves suite suite := by
  constructor <;> intros <;> assumption

theorem Moves.ongoing {before after : Suite} (phase : running before.state.phase = true)
    (available : after.available = before.available) : Moves before after := by
  constructor
  · rintro (ready | idle)
    · exact .inl (available.trans ready)
    · rw [idle] at phase
      contradiction
  · intro rewarded _
    simp [CareReward.payable, phase]

theorem restored_settled (suite : Suite) (state : ActivityState) :
    Settled (suite.restore state).2 := by
  unfold Suite.restore
  split
  · exact .inr rfl
  · exact .inl rfl

variable {suite : Suite}

variable {state : ActivityState}

theorem payable_restore {rewarded : Bool}
    (pays : payable (suite.restore state).2.state.phase rewarded = true) :
    payable state.phase rewarded = true := by
  unfold Suite.restore at pays
  split at pays
  · contradiction
  · exact pays

theorem cancel_idle (settled : Settled suite) :
    suite.cancel.state.phase = ActivityPhase.idle.code := by
  unfold Suite.cancel
  split
  · rename_i unavailable
    exact settled.resolve_left (by simpa using unavailable)
  · rfl

theorem not_payable_idle {phase : UInt8} (idle : phase = ActivityPhase.idle.code)
    (rewarded : Bool) : payable phase rewarded = false := by
  subst idle
  rfl

theorem playing_running {phase : UInt8} (playing : phase = ActivityPhase.playing.code) :
    running phase = true := by
  subst playing
  rfl

theorem tick_moves (suite : Suite) (now : UInt32) : Moves suite (suite.tick now) := by
  unfold Suite.tick
  simp only [Bool.and_eq_true, beq_iff_eq]
  split
  · exact .same suite
  split
  · rename_i presenting
    split
    · exact .ongoing (by simp [running, presenting.1]) rfl
    · exact .same suite
  split
  · rename_i playing
    exact .ongoing (playing_running playing.1.1) rfl
  split
  · rename_i playing
    exact .ongoing (playing_running playing.1.1) rfl
  split
  · rename_i unavailable _ _ _ _
    constructor
    · intro _
      exact .inl (by simpa using unavailable)
    · intro rewarded pays
      contradiction
  · exact .same suite

variable {now : UInt32}

variable {answer : InputResult × Suite}

theorem tap_available (tapped : suite.tap now = some answer) :
    answer.2.available = suite.available := by
  simp only [Suite.tap, Suite.tapMorse, Suite.tapReaction] at tapped
  split_ifs at tapped
  any_goals cases tapped; rfl
  · rcases Option.map_eq_some_iff.mp tapped with ⟨score, _, rfl⟩
    rfl
  · rcases Option.bind_eq_some_iff.mp tapped with ⟨marker, _, scored⟩
    rcases Option.map_eq_some_iff.mp scored with ⟨score, _, rfl⟩
    rfl
  · rcases Option.map_eq_some_iff.mp tapped with ⟨score, _, rfl⟩
    rfl
  · rcases Option.map_eq_some_iff.mp tapped with ⟨score, _, rfl⟩
    dsimp only
    split <;> rfl

theorem release_available (released : suite.release now = some answer) :
    answer.2.available = suite.available := by
  simp only [Suite.release] at released
  split_ifs at released
  · cases released; rfl
  · cases released; rfl
  · cases released; rfl
  · cases released; rfl
  · have kept := tap_available released
    exact kept
  · cases released; rfl
  · rcases Option.map_eq_some_iff.mp released with ⟨score, _, rfl⟩
    rfl

theorem input_moves {input : Input} {after : Suite} {result : InputResult}
    (applied : input.apply suite now = some (result, after)) :
    Moves suite after := by
  by_cases playing : suite.state.phase = ActivityPhase.playing.code
  · apply Moves.ongoing (playing_running playing)
    cases input with
    | tap => exact tap_available applied
    | press => grind [Input.apply, Suite.press]
    | release => exact release_available applied
  · suffices after = suite by
      rw [this]
      exact .same suite
    cases input <;> grind [Input.apply, Suite.tap, Suite.press, Suite.release]

variable {modifier : CompanionModifier}

theorem begin_available {mode : Mode} {after : Suite}
    (begun : mode.begin suite now modifier = (true, after)) :
    after.available = true := by
  have started : ∀ kind seed difficulty dayId after,
      suite.start kind now seed difficulty modifier dayId = (true, after) →
        after.available = true := by
    grind [Suite.start, Suite.mayStart]
  cases mode <;> grind [Mode.begin, Suite.startDaily, Suite.startGhost]

variable {view : ActivityView}

theorem kindView_phase (viewed : Suite.kindView state now = some view) :
    view.phase = state.phase := by
  simp only [Suite.kindView, Suite.steadyView] at viewed
  split_ifs at viewed
  any_goals cases viewed; rfl
  · rcases Option.map_eq_some_iff.mp viewed with ⟨progress, _, rfl⟩
    split <;> rfl
  · rcases Option.map_eq_some_iff.mp viewed with ⟨marker, _, rfl⟩
    rfl
  · rcases Option.map_eq_some_iff.mp viewed with ⟨progress, _, rfl⟩
    rfl
  · rcases Option.map_eq_some_iff.mp viewed with ⟨progress, _, rfl⟩
    rfl
  · rcases Option.bind_eq_some_iff.mp viewed with ⟨position, _, marked⟩
    rcases Option.map_eq_some_iff.mp marked with ⟨marker, _, rfl⟩
    rfl

theorem view_phase (viewed : suite.view now = some view) :
    view.phase = suite.state.phase := by
  rcases Option.map_eq_some_iff.mp viewed with ⟨shown, kind, rfl⟩
  have phase := kindView_phase kind
  split <;> exact phase

/-! ## The ledgers -/

/-- The activities that were paid, by vitals and by brain, in memory. -/
def Ram.ledgers (ram : Ram) : List (List Nat) :=
  [ram.vitals.rewards, ram.brain.map Game.activity]

/-- The activities that were paid, by vitals and by brain, in the store. -/
def Store.ledgers (store : Store) : List (List Nat) :=
  [store.core.rewards, store.brain.map Game.activity]

/-- All lists of activities that were paid. -/
def ledgers (device : Device) : List (List Nat) :=
  device.store.ledgers ++ (device.ram.map Ram.ledgers).getD []

/-- The activity in memory may still be paid. -/
def Ram.Awaits (ram : Ram) (activity : Nat) : Prop :=
  ram.activity = activity ∧ payable ram.suite.state.phase ram.activityRewarded = true

/-- The activity goes on after a restart. -/
def Store.Awaits (store : Store) (activity : Nat) : Prop :=
  ∃ state, store.activity = some (state, activity) ∧ running state.phase = true

/-- The reward of an activity may still be paid, from memory or after a boot. -/
def Awaits (device : Device) (activity : Nat) : Prop :=
  (∃ ram, device.ram = some ram ∧ ram.Awaits activity) ∨ device.store.Awaits activity

/-- No ledger names an activity twice, or one that may still be paid. -/
structure Accounted (device : Device) : Prop where
  once : ∀ ledger ∈ ledgers device, ledger.Nodup
  known : ∀ ledger ∈ ledgers device, ∀ activity ∈ ledger, activity < device.nextActivity
  awaited : ∀ activity, Awaits device activity →
    activity < device.nextActivity ∧ ∀ ledger ∈ ledgers device, activity ∉ ledger
  settled : ∀ ram, device.ram = some ram → Settled ram.suite

theorem Accounted.atMostOnce {device : Device} (accounted : Accounted device) :
    AtMostOnce device := by
  constructor
  · intro ram powered
    constructor <;> apply accounted.once <;> simp [ledgers, Ram.ledgers, powered]
  · constructor <;> apply accounted.once <;> simp [ledgers, Store.ledgers]

variable {before after : Device}

/-- Nothing is paid, and only a new activity comes to be paid. -/
theorem Accounted.quiet (accounted : Accounted before)
    (kept : ledgers after ⊆ ledgers before)
    (later : before.nextActivity ≤ after.nextActivity)
    (awaits : ∀ activity, Awaits after activity → Awaits before activity ∨
      activity = before.nextActivity ∧ activity < after.nextActivity)
    (settled : ∀ ram, after.ram = some ram → Settled ram.suite) : Accounted after where
  once ledger member := accounted.once ledger (kept member)
  known ledger member activity listed :=
    (accounted.known ledger (kept member) activity listed).trans_le later
  awaited activity awaiting := by
    rcases awaits activity awaiting with earlier | ⟨rfl, new⟩
    · have unpaid := accounted.awaited activity earlier
      exact ⟨unpaid.1.trans_le later, fun ledger member => unpaid.2 ledger (kept member)⟩
    · refine ⟨new, fun ledger member listed => ?_⟩
      exact absurd (accounted.known ledger (kept member) _ listed) (lt_irrefl _)
  settled := settled

variable {activity : Nat}

/-- An activity is paid that is not to be paid again. -/
theorem Accounted.paid (accounted : Accounted before)
    (awaited : Awaits before activity)
    (written : ∀ ledger ∈ ledgers after, ∃ earlier ∈ ledgers before,
      ledger = earlier ∨ ledger = activity :: earlier)
    (same : after.nextActivity = before.nextActivity)
    (awaits : ∀ other, Awaits after other → Awaits before other ∧ other ≠ activity)
    (settled : ∀ ram, after.ram = some ram → Settled ram.suite) :
    Accounted after where
  once ledger member := by
    rcases written ledger member with ⟨earlier, listed, rfl | rfl⟩
    · exact accounted.once _ listed
    · rw [List.nodup_cons]
      exact ⟨(accounted.awaited _ awaited).2 _ listed, accounted.once _ listed⟩
  known ledger member other listed := by
    rw [same]
    rcases written ledger member with ⟨earlier, entered, rfl | rfl⟩
    · exact accounted.known _ entered other listed
    · rcases List.mem_cons.mp listed with rfl | listed
      · exact (accounted.awaited _ awaited).1
      · exact accounted.known _ entered other listed
  awaited other awaiting := by
    have apart := awaits other awaiting
    have unpaid := accounted.awaited other apart.1
    rw [same]
    refine ⟨unpaid.1, fun ledger member listed => ?_⟩
    rcases written ledger member with ⟨earlier, entered, rfl | rfl⟩
    · exact unpaid.2 _ entered listed
    · rcases List.mem_cons.mp listed with equal | listed
      · exact apart.2 equal
      · exact unpaid.2 _ entered listed
  settled := settled

theorem ledgers_powered {ram : Ram} {store : Store} {next : Nat} :
    ledgers ⟨some ram, store, next⟩ = store.ledgers ++ ram.ledgers :=
  rfl

theorem ledgers_unpowered {store : Store} {next : Nat} :
    ledgers ⟨none, store, next⟩ = store.ledgers := by
  simp [ledgers]

theorem awaits_powered {ram : Ram} {store : Store} {next : Nat} :
    Awaits ⟨some ram, store, next⟩ activity ↔ ram.Awaits activity ∨ store.Awaits activity := by
  simp [Awaits]

theorem awaits_unpowered {store : Store} {next : Nat} :
    Awaits ⟨none, store, next⟩ activity ↔ store.Awaits activity := by
  simp [Awaits]

/-! ## Writes -/

theorem persist_ledgers (ram : Ram) (outcome : WriteOutcome) (store : Store) :
    (persistActivityState ram outcome store).2.ledgers = store.ledgers := by
  unfold persistActivityState
  split
  · rfl
  · dsimp only
    split <;> rfl

variable {outcome : WriteOutcome}

theorem persist_awaits {ram : Ram} {store : Store}
    (awaits : (persistActivityState ram outcome store).2.Awaits activity) :
    store.Awaits activity ∨
      ram.activity = activity ∧ running ram.suite.state.phase = true := by
  unfold persistActivityState at awaits
  split at awaits
  · exact .inl awaits
  · dsimp only at awaits
    split at awaits
    · rcases awaits with ⟨state, stored, phase⟩
      cases stored
      exact .inr ⟨rfl, phase⟩
    · exact .inl awaits

theorem Ram.awaits_running {ram : Ram}
    (runs : ram.activity = activity ∧ running ram.suite.state.phase = true) :
    ram.Awaits activity :=
  ⟨runs.1, by simp [payable, runs.2]⟩

theorem saveState_ledgers {ram : Ram} {store : Store} :
    (saveState ram outcome store).ledgers ⊆ store.ledgers ++ ram.ledgers := by
  unfold saveState
  split <;> intro ledger <;> simp [Store.ledgers, Ram.ledgers] <;> tauto

theorem saveState_awaits {ram : Ram} {store : Store} :
    (saveState ram outcome store).Awaits activity ↔ store.Awaits activity := by
  unfold saveState
  split <;> rfl

theorem persist_replaces {ram : Ram} {store : Store}
    (storable : ram.storable = true) (lands : outcome.lands = true) :
    (persistActivityState ram outcome store).2.activity =
      some (ram.suite.snapshot, ram.activity) := by
  simp [persistActivityState, storable, lands]

/-! ## Steps -/

variable {ram moved : Ram} {store : Store} {next : Nat}

theorem Accounted.off (accounted : Accounted before) :
    Accounted { before with ram := none } := by
  apply accounted.quiet
  · intro ledger member
    exact List.mem_append_left _ member
  · exact le_rfl
  · intro activity awaits
    exact .inl (.inr (awaits_unpowered.mp awaits))
  · intro ram powered
    contradiction

theorem Accounted.rewritten {later : Nat} {written : Store}
    (accounted : Accounted ⟨some ram, store, next⟩) (le : next ≤ later)
    (kept : moved.ledgers = ram.ledgers) (stored : written.ledgers = store.ledgers)
    (awaits : ∀ activity, moved.Awaits activity ∨ written.Awaits activity →
      ram.Awaits activity ∨ store.Awaits activity ∨ activity = next ∧ activity < later)
    (settled : Settled moved.suite) : Accounted ⟨some moved, written, later⟩ := by
  apply accounted.quiet
  · rw [ledgers_powered, ledgers_powered, kept, stored]
    exact List.Subset.refl _
  · exact le
  · intro activity awaiting
    rw [awaits_powered, or_assoc]
    exact awaits activity (awaits_powered.mp awaiting)
  · intro ram powered
    cases powered
    exact settled

theorem mutation_accounted (moved : Ram)
    (accounted : Accounted ⟨some ram, store, next⟩)
    (same : moved.activity = ram.activity) (kept : moved.ledgers = ram.ledgers)
    (settled : Settled moved.suite)
    (pays : payable moved.suite.state.phase moved.activityRewarded = true →
      payable ram.suite.state.phase ram.activityRewarded = true)
    (failed : (persistActivityState moved outcome store).1 = false →
      payable ram.suite.state.phase moved.activityRewarded = true →
        payable ram.suite.state.phase ram.activityRewarded = true) :
    Accounted ⟨some (persistActivityMutation moved ram.suite.snapshot outcome store).2.1,
      (persistActivityMutation moved ram.suite.snapshot outcome store).2.2, next⟩ := by
  have written : ∀ activity, (persistActivityState moved outcome store).2.Awaits activity →
      ram.Awaits activity ∨ store.Awaits activity := by
    intro activity awaits
    rcases persist_awaits awaits with earlier | runs
    · exact .inr earlier
    · have awaiting := Ram.awaits_running runs
      exact .inl ⟨same.symm.trans awaiting.1, pays awaiting.2⟩
  simp only [persistActivityMutation]
  split
  · refine accounted.rewritten le_rfl kept (persist_ledgers _ _ _) ?_ settled
    rintro activity (awaits | awaits)
    · exact .inl ⟨same.symm.trans awaits.1, pays awaits.2⟩
    · exact or_assoc.mp (.inl (written activity awaits))
  · rename_i persisted
    refine accounted.rewritten le_rfl kept (persist_ledgers _ _ _) ?_ (restored_settled _ _)
    rintro activity (awaits | awaits)
    · refine .inl ⟨same.symm.trans awaits.1, ?_⟩
      exact failed (by simpa using persisted) (payable_restore awaits.2)
    · exact or_assoc.mp (.inl (written activity awaits))

theorem start_accounted {mode : Mode}
    (accounted : Accounted ⟨some ram, store, next⟩) :
    Accounted (startActivity ⟨some ram, store, next⟩ ram mode now modifier outcome) := by
  unfold startActivity
  split
  · exact accounted
  split
  · exact accounted
  · rename_i suite begun
    have available := begin_available begun
    dsimp only
    split
    all_goals refine accounted.rewritten (Nat.le_succ next) rfl (persist_ledgers _ _ _) ?_ ?_
    case isTrue.refine_1 | isFalse.refine_1 =>
      rintro activity (awaits | awaits)
      · exact .inr (.inr ⟨awaits.1.symm, awaits.1 ▸ Nat.lt_succ_self _⟩)
      · rcases persist_awaits awaits with earlier | runs
        · exact .inr (.inl earlier)
        · exact .inr (.inr ⟨runs.1.symm, runs.1 ▸ Nat.lt_succ_self _⟩)
    · exact .inl available
    · exact .inr (cancel_idle (.inl available))

theorem input_accounted {input : Input}
    (accounted : Accounted ⟨some ram, store, next⟩) :
    Accounted (applyInput ⟨some ram, store, next⟩ ram input now outcome) := by
  unfold applyInput
  split
  · exact accounted.off
  · rename_i result suite applied
    have moves := input_moves applied
    have settled := moves.settled (accounted.settled ram rfl)
    split
    · refine accounted.rewritten le_rfl rfl rfl ?_ settled
      rintro activity (awaits | awaits)
      · exact .inl ⟨awaits.1, moves.payable _ awaits.2⟩
      · exact .inr (.inl awaits)
    · exact mutation_accounted { ram with suite } accounted rfl rfl settled (moves.payable _) fun _ pays => pays

theorem cancelled_settled (settled : Settled ram.suite) : Settled ram.cancelled.suite :=
  .inr (cancel_idle settled)

theorem cancelled_not_payable (settled : Settled ram.suite) :
    ¬ payable ram.cancelled.suite.state.phase ram.cancelled.activityRewarded = true := by
  have unpayable := not_payable_idle (cancel_idle settled) false
  exact Bool.eq_false_iff.mp unpayable

theorem leave_accounted (accounted : Accounted ⟨some ram, store, next⟩)
    (fits : Fits ⟨some ram, store, next⟩ (.leaveActivity outcome)) :
    Accounted (leaveActivity ⟨some ram, store, next⟩ ram outcome) := by
  have settled := accounted.settled ram rfl
  unfold leaveActivity
  split
  · refine accounted.rewritten le_rfl rfl rfl ?_ (cancelled_settled settled)
    rintro activity (awaits | awaits)
    · exact absurd awaits.2 (cancelled_not_payable settled)
    · exact .inr (.inl awaits)
  · rename_i ready
    apply mutation_accounted ram.cancelled accounted rfl rfl (cancelled_settled settled)
    · intro pays
      exact absurd pays (cancelled_not_payable settled)
    · intro failed pays
      by_contra unpayable
      have paid : ram.activityRewarded = true ∧
          ram.suite.state.phase = ActivityPhase.result.code := by
        simp only [payable, Ram.cancelled] at pays unpayable
        grind
      have kept := fits ram rfl (by simpa using ready) paid.1 paid.2
      have storable : ram.cancelled.storable = true := by
        simp only [Ram.storable, Ram.cancelled, Bool.and_eq_true]
        exact ⟨by simpa using ready, kept.2⟩
      simp [persistActivityState, storable, kept.1] at failed

theorem sleep_accounted (accounted : Accounted ⟨some ram, store, next⟩) :
    Accounted (cancelActivityForSleep ⟨some ram, store, next⟩ ram outcome) := by
  have settled := accounted.settled ram rfl
  unfold cancelActivityForSleep
  split
  · exact accounted
  · refine accounted.rewritten le_rfl rfl (persist_ledgers _ _ _) ?_ (cancelled_settled settled)
    rintro activity (awaits | awaits)
    · exact absurd awaits.2 (cancelled_not_payable settled)
    · rcases persist_awaits awaits with earlier | runs
      · exact .inr (.inl earlier)
      · exact absurd (Ram.awaits_running runs).2 (cancelled_not_payable settled)

/-- The memory after a tick that pays. -/
structure Paying (ram after : Ram) : Prop where
  awaits : ram.Awaits ram.activity
  activity : after.activity = ram.activity
  phase : after.suite.state.phase = ActivityPhase.result.code
  rewarded : after.activityRewarded = true
  rewards : after.vitals.rewards = ram.activity :: ram.vitals.rewards
  brain : after.brain.map Game.activity = ram.activity :: ram.brain.map Game.activity
  settled : Settled after.suite

theorem Paying.silent {after : Ram} (paying : Paying ram after) (activity : Nat) :
    ¬ after.Awaits activity := by
  rintro ⟨_, pays⟩
  rw [paying.phase, paying.rewarded] at pays
  contradiction

theorem Paying.stored {after : Ram} {written : Store} {outcome : WriteOutcome}
    (paying : Paying ram after)
    (awaits : ∃ activity, (persistActivityState after outcome written).2.Awaits activity) :
    after.storable = false ∨ outcome.lands = false := by
  by_contra replaced
  simp only [not_or, Bool.not_eq_false] at replaced
  rcases awaits with ⟨activity, state, stored, runs⟩
  rw [persist_replaces replaced.1 replaced.2] at stored
  cases stored
  have phase : after.suite.snapshot.phase = ActivityPhase.result.code := paying.phase
  rw [phase] at runs
  contradiction

/-- Whatever was written, the ledgers gain the activity once, and no record resumes it. -/
theorem Paying.accounted {after : Ram} (paying : Paying ram after)
    (accounted : Accounted ⟨some ram, store, next⟩) {memory : Option Ram} {written : Store}
    {core : WriteOutcome} (memories : memory = none ∨ memory = some after)
    (stored : written.ledgers = (saveState after core store).ledgers)
    (awaits : ∀ activity, written.Awaits activity →
      store.Awaits activity ∧ activity ≠ ram.activity) :
    Accounted ⟨memory, written, next⟩ := by
  apply accounted.paid (.inl ⟨ram, rfl, paying.awaits⟩)
  · intro ledger member
    have entered : ledger ∈ store.ledgers ++ after.ledgers := by
      rw [ledgers, List.mem_append, stored] at member
      rcases member with member | member
      · exact saveState_ledgers member
      · rcases memories with rfl | rfl
        · contradiction
        · exact List.mem_append_right _ member
    rw [ledgers_powered]
    simp only [Ram.ledgers, List.mem_append, List.mem_cons, List.not_mem_nil, or_false,
      paying.rewards, paying.brain] at entered ⊢
    rcases entered with listed | rfl | rfl
    · exact ⟨ledger, .inl listed, .inl rfl⟩
    · exact ⟨_, .inr (.inl rfl), .inr rfl⟩
    · exact ⟨_, .inr (.inr rfl), .inr rfl⟩
  · rfl
  · intro other awaiting
    rcases awaiting with ⟨held, powered, awaiting⟩ | awaiting
    · rcases memories with rfl | rfl
      · contradiction
      · cases powered
        exact absurd awaiting (paying.silent other)
    · exact ⟨.inr (awaits other awaiting).1, (awaits other awaiting).2⟩
  · rintro held powered
    rcases memories with rfl | rfl
    · contradiction
    · cases powered
      exact paying.settled

theorem tick_accounted {buttonUp cut : Bool} {core : WriteOutcome}
    (accounted : Accounted ⟨some ram, store, next⟩)
    (fits : Fits ⟨some ram, store, next⟩ (.tickActivity now buttonUp core cut outcome)) :
    Accounted (tickActivity ⟨some ram, store, next⟩ ram now buttonUp core cut outcome) := by
  have moves : Moves ram.suite (ticked ram now buttonUp) := by
    unfold ticked
    split
    · exact tick_moves _ _
    · exact .same _
  have settled := moves.settled (accounted.settled ram rfl)
  unfold tickActivity
  split
  · exact accounted
  rename_i ready
  dsimp only
  split
  · exact accounted.off
  rename_i view viewed
  have phase := view_phase viewed
  by_cases pays : ram.activityRewarded = false ∧
      (ticked ram now buttonUp).state.phase = ActivityPhase.result.code
  · have fits := fits ram rfl ⟨by simpa using ready, pays.1, pays.2, by simp [viewed]⟩
    generalize equal :
      rewardFinishedActivity { ram with suite := ticked ram now buttonUp } view = after
    have unfolded := equal
    simp only [rewardFinishedActivity, pays.1, phase, pays.2, bne_self_eq_false, Bool.or_false,
      Bool.false_eq_true, if_false] at unfolded
    have paying : Paying ram after := by
      constructor
      · refine ⟨rfl, moves.payable _ ?_⟩
        simp [payable, pays]
      all_goals rw [← unfolded]
      · exact pays.2
      · rfl
      · exact settled
    have raised : after.vitals ≠ ram.vitals := by
      intro same
      have lengths := congrArg (fun vitals => vitals.rewards.length) same
      simp [paying.rewards] at lengths
    have storable : after.storable = true ↔
        validateActivityState (ticked ram now buttonUp).snapshot = true := by
      rw [← unfolded]
      simpa [Ram.storable] using fun _ => by simpa using ready
    have kept : ∀ activity, (saveState after core store).Awaits activity →
        (activity = ram.activity → False) → store.Awaits activity ∧ activity ≠ ram.activity :=
      fun activity awaits apart => ⟨saveState_awaits.mp awaits, apart⟩
    split
    · rename_i off
      by_cases lands : core.lands = true
      · apply paying.accounted accounted (.inl rfl) rfl
        intro activity awaits
        refine kept activity awaits fun same => ?_
        have resumable : store.Awaits ram.activity := same ▸ saveState_awaits.mp awaits
        rcases fits resumable with lost | written
        · simp [lost.2] at lands
        · simp [written.1] at off
      · simp only [saveState, lands]
        exact accounted.off
    rename_i powered
    have stores : store.Awaits ram.activity → outcome.lands = true ∧
        (ticked ram now buttonUp).snapshot ≠ ram.suite.snapshot ∧
          validateActivityState (ticked ram now buttonUp).snapshot = true := by
      intro awaits
      rcases fits awaits with lost | written
      · exact absurd lost.1 powered
      · exact written.2
    split
    · rename_i same
      apply paying.accounted accounted (.inr rfl) rfl
      intro activity awaits
      refine kept activity awaits fun equal => ?_
      exact (stores (equal ▸ saveState_awaits.mp awaits)).2.1 same
    · apply paying.accounted accounted (.inr rfl) (persist_ledgers _ _ _)
      intro activity awaits
      rcases persist_awaits awaits with earlier | runs
      · refine kept activity earlier fun equal => ?_
        have written := stores (equal ▸ saveState_awaits.mp earlier)
        rcases paying.stored ⟨activity, awaits⟩ with invalid | failed
        · rw [storable.mpr written.2.2] at invalid
          contradiction
        · rw [written.1] at failed
          contradiction
      · exact absurd (Ram.awaits_running runs) (paying.silent activity)
  · have unpaid : rewardFinishedActivity { ram with suite := ticked ram now buttonUp } view =
        { ram with suite := ticked ram now buttonUp } := by
      apply if_pos
      rw [phase]
      simp only [not_and_or] at pays
      simpa using pays
    rw [unpaid]
    simp only [if_true]
    split
    · exact accounted.off
    split
    · refine accounted.rewritten le_rfl rfl rfl ?_ settled
      rintro activity (awaits | awaits)
      · exact .inl ⟨awaits.1, moves.payable _ awaits.2⟩
      · exact .inr (.inl awaits)
    · refine accounted.rewritten le_rfl rfl (persist_ledgers _ _ _) ?_ settled
      rintro activity (awaits | awaits)
      · exact .inl ⟨awaits.1, moves.payable _ awaits.2⟩
      · rcases persist_awaits awaits with earlier | runs
        · exact .inr (.inl earlier)
        · have awaiting := Ram.awaits_running runs
          exact .inl ⟨awaiting.1, moves.payable _ awaiting.2⟩

theorem resume_phase (suite : Suite) (now : UInt32) :
    (suite.resumeAfterCrash now).2.state.phase = suite.state.phase ∧
      (suite.resumeAfterCrash now).2.available = suite.available := by
  unfold Suite.resumeAfterCrash
  split_ifs <;> exact ⟨rfl, rfl⟩

/-- What a start makes of the stored record is of the activity that it names. -/
structure Loaded (fresh : Ram) (store : Store) (answer : Ram × Store) : Prop where
  ledgers : answer.1.ledgers = fresh.ledgers
  stored : answer.2.ledgers = store.ledgers
  awaits : ∀ activity, answer.1.Awaits activity ∨ answer.2.Awaits activity →
    store.Awaits activity
  settled : Settled answer.1.suite

theorem Loaded.persisted {fresh written memory : Ram}
    (kept : memory.ledgers = fresh.ledgers) (settled : Settled memory.suite)
    (awaits : ∀ activity, memory.Awaits activity → store.Awaits activity)
    (runs : ∀ activity, written.activity = activity ∧
      running written.suite.state.phase = true → store.Awaits activity) :
    Loaded fresh store (memory, (persistActivityState written outcome store).2) where
  ledgers := kept
  stored := persist_ledgers _ _ _
  awaits := by
    rintro activity (awaiting | awaiting)
    · exact awaits activity awaiting
    · rcases persist_awaits awaiting with earlier | runs'
      · exact earlier
      · exact runs activity runs'
  settled := settled

theorem load_loaded (fresh : Ram) (store : Store) (now : UInt32) (outcome : WriteOutcome) :
    Loaded fresh store (loadActivityState fresh now outcome store) := by
  have blank : ∀ ready, Loaded fresh store
      ({ fresh with suite := Suite.reset, activityStateReady := ready },
        (persistActivityState { fresh with suite := Suite.reset, activityStateReady := true }
          outcome store).2) := by
    intro ready
    refine Loaded.persisted rfl (.inl rfl) ?_ ?_
    · rintro activity ⟨_, pays⟩
      contradiction
    · rintro activity ⟨_, runs⟩
      contradiction
  unfold loadActivityState
  dsimp only
  split
  · exact blank _
  rename_i state activity stored
  rcases equal : Suite.reset.restore state with ⟨restored, suite⟩
  cases restored with
  | false => exact blank _
  | true =>
    have restored : suite.state = state ∧ suite.available = true := by
      grind [Suite.restore]
    have resumes : ∀ number, activity = number ∧ running state.phase = true →
        store.Awaits number := by
      rintro number ⟨rfl, runs⟩
      exact ⟨state, stored, runs⟩
    have resume := resume_phase suite now
    rw [restored.1, restored.2] at resume
    simp only [Bool.not_true, Bool.false_eq_true, if_false]
    split
    · split
      · refine Loaded.persisted rfl (.inl rfl) ?_ ?_
        · rintro number ⟨_, pays⟩
          contradiction
        · rw [resume.1]
          exact resumes
      · refine Loaded.persisted rfl (.inl resume.2) ?_ ?_
        · rintro number ⟨same, pays⟩
          rw [resume.1] at pays
          refine resumes number ⟨same, ?_⟩
          simpa [payable] using pays
        · rw [resume.1]
          exact resumes
    · rename_i idle
      constructor
      · rfl
      · rfl
      · rintro number (⟨same, pays⟩ | awaits)
        · refine resumes number ⟨same, ?_⟩
          simp only [restored.1, payable] at pays
          grind
        · exact awaits
      · exact .inl restored.2

theorem Loaded.accounted {device : Device} {fresh : Ram} {answer : Ram × Store}
    (loaded : Loaded fresh device.store answer) (accounted : Accounted device)
    (same : fresh.ledgers = device.store.ledgers) :
    Accounted ⟨some answer.1, answer.2, device.nextActivity + 1⟩ := by
  apply accounted.quiet
  · intro ledger member
    rw [ledgers_powered, loaded.stored, loaded.ledgers, same, List.mem_append, or_self] at member
    exact List.mem_append_left _ member
  · exact Nat.le_succ _
  · intro activity awaits
    exact .inl (.inr (loaded.awaits activity (awaits_powered.mp awaits)))
  · intro ram powered
    cases powered
    exact loaded.settled

theorem saved_accounted {written : Store} (accounted : Accounted ⟨some ram, store, next⟩)
    (kept : written.ledgers ⊆ store.ledgers ++ ram.ledgers)
    (awaits : ∀ activity, written.Awaits activity → store.Awaits activity) :
    Accounted ⟨some ram, written, next⟩ := by
  apply accounted.quiet
  · intro ledger member
    rw [ledgers_powered, List.mem_append] at member
    exact member.elim (fun listed => kept listed) (List.mem_append_right _)
  · exact le_rfl
  · intro activity awaiting
    exact .inl (awaiting.imp_right (awaits activity))
  · exact accounted.settled

theorem step_accounted {device : Device} {call : Call} (accounted : Accounted device)
    (fits : Fits device call) : Accounted (step device call) := by
  rcases device with ⟨memory, store, next⟩
  cases memory with
  | none =>
    cases call with
    | boot now outcome => exact (load_loaded _ _ now outcome).accounted accounted rfl
    | _ => exact accounted
  | some ram =>
    cases call with
    | boot now outcome => exact (load_loaded _ _ now outcome).accounted accounted rfl
    | startActivity mode now modifier outcome => exact start_accounted accounted
    | tickActivity now buttonUp core cut outcome => exact tick_accounted accounted fits
    | input input now outcome => exact input_accounted accounted
    | leaveActivity outcome => exact leave_accounted accounted fits
    | cancelActivityForSleep outcome => exact sleep_accounted accounted
    | saveState outcome =>
      exact saved_accounted accounted saveState_ledgers fun _ => saveState_awaits.mp
    | saveBrain outcome =>
      simp only [step]
      split
      · refine saved_accounted accounted ?_ fun _ awaits => awaits
        intro ledger
        simp only [Store.ledgers, Ram.ledgers, List.mem_append, List.mem_cons]
        tauto
      · exact accounted
    | cutPower => exact accounted.off

theorem unpowered_accounted (record : Option ActivityState)
    (energy curiosity affection : UInt8) :
    Accounted (unpowered record energy curiosity affection) := by
  have blank : ∀ ledger ∈ ledgers (unpowered record energy curiosity affection),
      ledger = [] := by
    simp [ledgers, unpowered, Store.ledgers]
  constructor
  · intro ledger member
    rw [blank ledger member]
    exact List.nodup_nil
  · intro ledger member activity listed
    rw [blank ledger member] at listed
    contradiction
  · rintro activity (⟨ram, powered, _⟩ | ⟨state, stored, _⟩)
    · contradiction
    · rcases Option.map_eq_some_iff.mp stored with ⟨found, _, same⟩
      cases same
      refine ⟨Nat.zero_lt_one, fun ledger member listed => ?_⟩
      rw [blank ledger member] at listed
      contradiction
  · intro ram powered
    contradiction

/-- An activity is paid at most once in every run whose calls all fit. -/
theorem care_reward_once (record : Option ActivityState) (energy curiosity affection : UInt8)
    (calls : List Call)
    (fits : Throughout step (unpowered record energy curiosity affection) Fits calls) :
    AtMostOnce (exec step (unpowered record energy curiosity affection) calls) := by
  apply Accounted.atMostOnce
  apply exec_throughout _ _ fits
  · exact unpowered_accounted record energy curiosity affection
  · intro device call accounted fits
    exact step_accounted accounted fits

/-- An activity that was begun on a blank device. -/
def begun (kind : UInt8) : List Call :=
  [.boot 0 .written, .startActivity (.normal kind 1 1) 0 {} .written]

/-- A tuner activity that one tap completes. -/
def tapped : List Call :=
  begun ActivityKind.staticTuner.code ++ [.input .tap 300 .written]

/-- The next tick pays it. -/
def tuned : List Call :=
  tapped ++ [.tickActivity 400 true .written false .written]

theorem care_reward_tuned :
    AtMostOnce (exec step (unpowered none 50 50 50) (tuned ++ [.leaveActivity .written])) := by
  have shown : (exec step (unpowered none 50 50 50) tapped).store.activity.all
      (fun stored => !running stored.1.phase) = true := by
    decide +kernel
  have leaves : (exec step (unpowered none 50 50 50) tuned).ram.all
      (fun ram => validateActivityState ram.suite.cancel.snapshot) = true := by
    decide +kernel
  rw [Option.all_eq_true] at shown leaves
  have opened : Throughout step (unpowered none 50 50 50) Fits tapped :=
    .cons (fun _ _ => trivial) (.cons (fun _ _ => trivial) (.cons (fun _ _ => trivial) .nil))
  apply care_reward_once
  apply Throughout.concat (opened.concat _)
  · intro ram powered _ _ _
    exact ⟨rfl, leaves ram powered⟩
  · rintro ram - - ⟨state, stored, runs⟩
    have stopped := shown _ stored
    rw [runs] at stopped
    exact (Bool.false_ne_true stopped).elim

/-- The record is not written when the activity is left, and the next tick pays again. -/
def leftUnwritten : List Call :=
  tuned ++ [.leaveActivity .failed, .tickActivity 500 true .written false .written]

/-- The power is cut after the vitals were written, and the activity runs again. -/
def cutBetween : List Call :=
  begun ActivityKind.reactionFlash.code ++
    [.tickActivity 9000 true .written true .written, .boot 0 .written,
      .tickActivity 9000 true .written false .written]

theorem rewards_leftUnwritten :
    (exec step (unpowered none 50 50 50) leftUnwritten).store.core.rewards = [2, 2] := by
  decide +kernel

theorem rewards_cutBetween :
    (exec step (unpowered none 50 50 50) cutBetween).store.core.rewards = [2, 2] := by
  decide +kernel

theorem care_reward_twice :
    ¬ AtMostOnce (exec step (unpowered none 50 50 50) leftUnwritten) ∧
      ¬ AtMostOnce (exec step (unpowered none 50 50 50) cutBetween) := by
  constructor
  · intro once
    have paid := once.store.1
    rw [rewards_leftUnwritten] at paid
    contradiction
  · intro once
    have paid := once.store.1
    rw [rewards_cutBetween] at paid
    contradiction

end Kitsu.Activity.CareReward
