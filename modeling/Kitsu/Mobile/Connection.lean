import Kitsu.Lib.Run

/-!
# The connection coordinator of the phone

One coordinator owns the session with the device.  `connect` and `disconnect`
run one after the other behind a mutex; a loss of the link, an update of the
warning and the owner's wish to stay disconnected come in between.  Every
synchronized block, every look at a volatile field and every compare-and-set is
one step, and a history records what can be seen from outside.
-/

namespace Kitsu.Mobile.Connection

open Kitsu.Lib.Run

/-- How the phone is connected. -/
inductive ConnectionMode where
  | connecting
  | directBle
  | permissionRequired
  | offline
deriving DecidableEq, Repr

/-- What the phone shows of its connection. -/
structure ConnectionState where
  mode : ConnectionMode
  connected : Bool
  detail : String
  warning : Option String
deriving DecidableEq, Repr

/-- What came of an attempt to connect. -/
inductive ConnectResult where
  | connected
  | companionAbsent
  | permissionRequired (permissions : List String)
  | failed (code : String)
deriving DecidableEq, Repr

/-- How the call of the transport ends. -/
inductive Outcome where
  | returned (result : ConnectResult)
  | cancelled
  | threw
deriving DecidableEq, Repr

/-- What the surroundings answer at a step that asks them. -/
structure Answer where
  failed : Bool
  outcome : Outcome
  warning : Option String
  code : String
deriving DecidableEq, Repr

/-- Where the holder of the mutex stands. -/
inductive Procedure where
  | clearing
  | storing
  | intending
  | resetting (reconnect : Bool)
  | beginning
  | connecting (attempt : Nat)
  | warned (attempt : Nat)
  | failing (attempt : Nat)
  | completing (attempt : Nat) (result : ConnectResult)
      (warning : Option String)
  | closing
  | offlining (detail : String) (disconnecting : Bool)
deriving DecidableEq, Repr

/-- Where the loop that publishes a warning stands. -/
inductive Stage where
  | looping
  | reading
  | rechecking (current : ConnectionState)
  | comparing (current : ConnectionState)
deriving DecidableEq, Repr

/-- What goes on outside of the mutex. -/
inductive Task where
  | calling (clock : Bool)
  | reporting (clockFailed : Bool)
  | updating (warning : Option String) (stage : Stage) (clockFailed : Bool)
  | blaming
  | excusing
  | recording
deriving DecidableEq, Repr

/-- What can be seen from outside, the newest event in front. -/
inductive Event where
  | reported
  | began (attempt : Nat)
  | completed (attempt : Nat) (connected : Bool)
  | published (state : ConnectionState)
  | called (shown : ConnectionState)
  | intended
  | cleared
  | passed
deriving DecidableEq, Repr

/-- The coordinator with the procedures that are suspended in it. -/
structure Coordinator where
  published : ConnectionState
  active : Bool
  connectionAttemptSequence : Nat
  connectingAttempt : Option Nat
  connectingDisconnectDetail : Option String
  automaticReconnectSuppressed : Bool
  procedure : Option Procedure
  tasks : List Task
  history : List Event
deriving DecidableEq, Repr

/-- A coordinator that has read its stored suppression. -/
def coordinator (suppressed : Bool) : Coordinator where
  published := ⟨.offline, false, "not_connected", none⟩
  active := false
  connectionAttemptSequence := 0
  connectingAttempt := none
  connectingDisconnectDetail := none
  automaticReconnectSuppressed := suppressed
  procedure := none
  tasks := []
  history := []

namespace Coordinator

/-- Show another state. -/
def publish (c : Coordinator) (state : ConnectionState) : Coordinator :=
  { c with published := state, history := .published state :: c.history }

def record (c : Coordinator) (event : Event) : Coordinator :=
  { c with history := event :: c.history }

/-- The transport was lost; during an attempt its first reason is kept. -/
def onDirectTransportDisconnected (c : Coordinator) (detail : String) :
    Coordinator :=
  match c.connectingAttempt with
  | some _ =>
    let boundDetail := c.connectingDisconnectDetail.getD detail
    { c with
      connectingDisconnectDetail := some boundDetail
      active := false }.publish ⟨.offline, false, boundDetail, none⟩
  | none =>
    if c.active then
      { c with active := false }.publish ⟨.offline, false, detail, none⟩
    else c

/-- Begin an attempt under a new number. -/
def beginConnectionAttempt (c : Coordinator) : Coordinator :=
  let attempt := c.connectionAttemptSequence + 1
  { c.record (.began attempt) with
    connectionAttemptSequence := attempt
    connectingAttempt := some attempt
    connectingDisconnectDetail := none
    active := false
    procedure := some (.connecting attempt) }.publish
      ⟨.connecting, false, "scanning_selected_kitsu", none⟩

/-- What is shown after an attempt; a loss during it wins. -/
def completedState (disconnectDetail : Option String) (result : ConnectResult)
    (warning : Option String) : ConnectionState :=
  match disconnectDetail with
  | some detail => ⟨.offline, false, detail, none⟩
  | none =>
    match result with
    | .connected => ⟨.directBle, true, "selected_kitsu_reachable", warning⟩
    | .companionAbsent => ⟨.offline, false, "selected_kitsu_absent", none⟩
    | .permissionRequired permissions =>
      ⟨.permissionRequired, false, ",".intercalate permissions, none⟩
    | .failed code => ⟨.offline, false, code, none⟩

/-- Complete the attempt, unless another one was begun since. -/
def completeConnectionAttempt (c : Coordinator) (attempt : Nat)
    (result : ConnectResult) (warning : Option String) : Coordinator :=
  if c.connectingAttempt ≠ some attempt then c
  else
    let completed :=
      completedState c.connectingDisconnectDetail result warning
    { c.record (.completed attempt completed.connected) with
      connectingAttempt := none
      connectingDisconnectDetail := none
      active := completed.connected }.publish completed

/-- The connection ends, and with it an attempt. -/
def offline (c : Coordinator) (detail : String) : Coordinator :=
  { c with
    active := false
    connectingAttempt := none
    connectingDisconnectDetail := none }.publish
      ⟨.offline, false, detail, none⟩

/-- The next step of the holder of the mutex. -/
def advance (c : Coordinator) (answer : Answer) : Coordinator :=
  match c.procedure with
  | none => c
  | some .clearing =>
    { c.record .cleared with
      automaticReconnectSuppressed := false
      procedure := some .storing }
  | some .storing =>
    { c with
      procedure := if answer.failed then none else some (.resetting true) }
  | some .intending =>
    { c.record .intended with procedure := some (.resetting false) }
  | some (.resetting reconnect) =>
    -- nothing is published here; the transport disconnects afterwards
    { c with
      active := false
      connectingAttempt := none
      connectingDisconnectDetail := none
      procedure := some (if reconnect then .beginning else .closing) }
  | some .beginning => c.beginConnectionAttempt
  | some (.connecting attempt) =>
    { c with
      procedure := some
        (match answer.outcome with
        | .returned .connected => .warned attempt
        | .returned result => .completing attempt result none
        | .cancelled => .failing attempt
        | .threw =>
          .completing attempt (.failed "direct_connect_failed") none) }
  | some (.warned attempt) =>
    { c with
      procedure := some (.completing attempt .connected answer.warning) }
  | some (.failing attempt) =>
    { c with
      procedure := some (.completing attempt
        (.failed (if c.automaticReconnectSuppressed then "user_disconnected"
          else "connection_cancelled")) none) }
  | some (.completing attempt result warning) =>
    { c.completeConnectionAttempt attempt result warning with
      procedure := none }
  | some .closing =>
    { c with
      procedure := some (.offlining
        (if c.automaticReconnectSuppressed then "user_disconnected"
          else "disconnected") true) }
  | some (.offlining detail disconnecting) =>
    let closed := { c.offline detail with procedure := none }
    if disconnecting then closed.record .reported else closed

/-- After the update comes what `synchronizeClock` does about a failure. -/
def finishUpdate (c : Coordinator) (index : Nat) (clockFailed : Bool) :
    Coordinator :=
  { c with
    tasks := if clockFailed then c.tasks.set index .blaming
      else c.tasks.eraseIdx index }

/-- The loop of `publishWarningIfConnected`, one look at a time. -/
def update (c : Coordinator) (index : Nat) (warning : Option String)
    (clockFailed : Bool) (stage : Stage) : Coordinator :=
  let goTo := fun stage =>
    { c with tasks := c.tasks.set index (.updating warning stage clockFailed) }
  let finished := c.finishUpdate index clockFailed
  match stage with
  | .looping => if c.active then goTo .reading else finished
  | .reading =>
    if !c.published.connected || c.published.mode ≠ .directBle then finished
    else if c.published.warning = warning then finished
    else goTo (.rechecking c.published)
  | .rechecking current =>
    if c.active then goTo (.comparing current) else goTo .looping
  | .comparing current =>
    if c.published = current then
      finished.publish { current with warning := warning }
    else goTo .looping

/-- The next step of something outside of the mutex. -/
def resume (c : Coordinator) (index : Nat) (answer : Answer) : Coordinator :=
  match c.tasks[index]? with
  | none => c
  | some (.calling clock) =>
    { c with tasks := c.tasks.set index (.reporting (clock && answer.failed)) }
  | some (.reporting clockFailed) =>
    { c with
      tasks := c.tasks.set index
        (.updating answer.warning .looping clockFailed) }
  | some (.updating warning stage clockFailed) =>
    c.update index warning clockFailed stage
  | some .blaming =>
    { c with
      tasks := if c.active then c.tasks.set index .excusing
        else c.tasks.eraseIdx index }
  | some .excusing =>
    { c with
      tasks := if answer.warning = none then
          c.tasks.set index (.updating (some answer.code) .looping false)
        else c.tasks.eraseIdx index }
  | some .recording =>
    { c.record .intended with tasks := c.tasks.eraseIdx index }

end Coordinator

/-- What happens to the coordinator; tasks are resumed in any order. -/
inductive Action where
  | connect (userInitiated : Bool)
  | disconnect (suppressAutomaticReconnect : Bool)
  | advance (answer : Answer)
  | recordUserDisconnectIntent
  | lost (detail : String)
  | withTransport (clock : Bool)
  | resume (index : Nat) (answer : Answer)
deriving DecidableEq, Repr

/-- A call that finds the mutex held waits, which is no step. -/
def step (c : Coordinator) : Action → Coordinator
  | .connect userInitiated =>
    if c.procedure ≠ none then c
    else if userInitiated then { c with procedure := some .clearing }
    else if c.automaticReconnectSuppressed then
      { c with procedure := some (.offlining "user_disconnected" false) }
    else { c.record .passed with procedure := some (.resetting true) }
  | .disconnect suppressAutomaticReconnect =>
    if c.procedure ≠ none then c
    else if suppressAutomaticReconnect then
      { c with
        automaticReconnectSuppressed := true
        procedure := some .intending }
    else { c with procedure := some (.resetting false) }
  | .advance answer => c.advance answer
  | .recordUserDisconnectIntent =>
    { c with
      automaticReconnectSuppressed := true
      tasks := c.tasks ++ [.recording] }
  | .lost detail => (c.onDirectTransportDisconnected detail).record .reported
  | .withTransport clock =>
    if c.active then
      { c.record (.called c.published) with
        tasks := c.tasks ++ [.calling clock] }
    else if clock then { c with tasks := c.tasks ++ [.blaming] }
    else c
  | .resume index answer => c.resume index answer

/-! ## What the history may show -/

/-- A loss or a disconnect was reported, and no attempt was successful since. -/
def down : List Event → Bool
  | [] => false
  | .reported :: _ => true
  | .completed _ true :: _ => false
  | _ :: earlier => down earlier

/-- Nothing was reported since the newest attempt began. -/
def quiet : List Event → Bool
  | [] => true
  | .reported :: _ => false
  | .began _ :: _ => true
  | _ :: earlier => quiet earlier

/-- The attempt that began last. -/
def newest : List Event → Option Nat
  | [] => none
  | .began attempt :: _ => some attempt
  | _ :: earlier => newest earlier

/-- The owner chose to stay disconnected and did not connect since. -/
def intends : List Event → Bool
  | [] => false
  | .intended :: _ => true
  | .cleared :: _ => false
  | _ :: earlier => intends earlier

/-- What an event may be, after the earlier ones. -/
def Fits (earlier : List Event) : Event → Prop
  | .completed attempt connected =>
    newest earlier = some attempt ∧
      (connected = true → quiet earlier = true)
  | .published state => state.connected = true → down earlier = false
  | .called shown => shown.connected = true
  | .passed => intends earlier = false
  | _ => True

def Sound : List Event → Prop
  | [] => True
  | event :: earlier => Fits earlier event ∧ Sound earlier

/-- The update stands before its compare-and-set with this state. -/
def Task.compares (state : ConnectionState) : Task → Bool
  | .updating _ (.comparing current) _ => current == state
  | _ => false

/--
A loss does not come in while `connect` or `disconnect` have taken `active` back,
have not published anything yet, and an update has looked at `active` for the
last time before.  And `connect` does not clear the owner's choice while it is
being stored.
-/
def Careful (c : Coordinator) : Action → Prop
  | .lost _ =>
    c.published.connected = true → c.active = true ∨
      ∀ task ∈ c.tasks, task.compares c.published = false
  | .advance _ => c.procedure = some .clearing → Task.recording ∉ c.tasks
  | _ => True

instance (c : Coordinator) (action : Action) : Decidable (Careful c action) :=
  match action with
  | .lost _ => inferInstanceAs (Decidable (_ → _))
  | .advance _ => inferInstanceAs (Decidable (_ → _))
  | .connect _ => inferInstanceAs (Decidable True)
  | .disconnect _ => inferInstanceAs (Decidable True)
  | .recordUserDisconnectIntent => inferInstanceAs (Decidable True)
  | .withTransport _ => inferInstanceAs (Decidable True)
  | .resume _ _ => inferInstanceAs (Decidable True)

/-! ## The invariant -/

/-- The invariant that connects what is shown with what happened. -/
structure Kept (c : Coordinator) : Prop where
  sound : Sound c.history
  active : c.active = true →
    c.published.connected = true ∧ down c.history = false ∧
      c.connectingAttempt = none
  shown : c.published.connected = true →
    c.connectingAttempt = none ∧
      (down c.history = false ∨
        c.active = false ∧ ∀ task ∈ c.tasks, task.compares c.published = false)
  attempt : ∀ attempt, c.connectingAttempt = some attempt →
    newest c.history = some attempt ∧
      (c.connectingDisconnectDetail = none → quiet c.history = true)
  suppressed : intends c.history = true ∨ Task.recording ∈ c.tasks ∨
      c.procedure = some .intending →
    c.automaticReconnectSuppressed = true

variable {warning : Option String}

namespace Kept

variable {c : Coordinator}

theorem initially (suppressed : Bool) : Kept (coordinator suppressed) where
  sound := trivial
  active := nofun
  shown := nofun
  attempt := nofun
  suppressed := by simp [coordinator, intends]

/-- The tasks may change as long as none comes to compare or to record. -/
theorem withTasks (kept : Kept c) {tasks : List Task}
    (fewer : ∀ task ∈ tasks, task ∈ c.tasks ∨
      task.compares c.published = false ∧ task ≠ .recording) :
    Kept { c with tasks := tasks } where
  sound := kept.sound
  active := kept.active
  shown := by
    intro connected
    obtain ⟨none, known⟩ := kept.shown connected
    refine ⟨none, known.imp_right fun ⟨inactive, apart⟩ => ⟨inactive, ?_⟩⟩
    intro task member
    exact (fewer task member).elim (apart task) And.left
  attempt := kept.attempt
  suppressed := by
    rintro (intended | recording | intending)
    · exact kept.suppressed (.inl intended)
    · exact kept.suppressed (.inr (.inl
        ((fewer _ recording).resolve_right fun other => other.2 rfl)))
    · exact kept.suppressed (.inr (.inr intending))

theorem set_task (kept : Kept c) (index : Nat) {task : Task}
    (apart : task.compares c.published = false) (other : task ≠ .recording) :
    Kept { c with tasks := c.tasks.set index task } :=
  kept.withTasks fun _ member =>
    (List.mem_or_eq_of_mem_set member).imp_right fun same => by
      rw [same]
      exact ⟨apart, other⟩

theorem drop_task (kept : Kept c) (index : Nat) :
    Kept { c with tasks := c.tasks.eraseIdx index } :=
  kept.withTasks fun _ member => .inl (List.mem_of_mem_eraseIdx member)

theorem add_task (kept : Kept c) {task : Task}
    (apart : task.compares c.published = false) (other : task ≠ .recording) :
    Kept { c with tasks := c.tasks ++ [task] } :=
  kept.withTasks fun _ member =>
    (List.mem_append.mp member).imp_right fun last => by
      rw [List.mem_singleton.mp last]
      exact ⟨apart, other⟩

/-- The holder of the mutex may go on, except to where an intent is stored. -/
theorem withProcedure (kept : Kept c) {procedure : Option Procedure}
    (other : procedure ≠ some .intending) :
    Kept { c with procedure := procedure } where
  sound := kept.sound
  active := kept.active
  shown := kept.shown
  attempt := kept.attempt
  suppressed := by
    rintro (intended | recording | intending)
    · exact kept.suppressed (.inl intended)
    · exact kept.suppressed (.inr (.inl recording))
    · exact absurd intending other

/-- The owner's choice is stored. -/
theorem intended (kept : Kept c)
    (suppressed : c.automaticReconnectSuppressed = true) :
    Kept (c.record .intended) where
  sound := ⟨trivial, kept.sound⟩
  active := kept.active
  shown := kept.shown
  attempt := kept.attempt
  suppressed := fun _ => suppressed

/-- A state that is not connected may be published when nothing is active. -/
theorem published (kept : Kept c) {state : ConnectionState}
    (offline : state.connected = false) (inactive : c.active = false) :
    Kept (c.publish state) where
  sound := ⟨fun connected => absurd connected (by simp [offline]), kept.sound⟩
  active := fun active => absurd active (by simp [Coordinator.publish, inactive])
  shown := fun connected =>
    absurd connected (by simp [Coordinator.publish, offline])
  attempt := kept.attempt
  suppressed := kept.suppressed

/-- `active` and the attempt are taken back, and nothing is published. -/
theorem reset (kept : Kept c) :
    Kept { c with
      active := false
      connectingAttempt := none
      connectingDisconnectDetail := none } where
  sound := kept.sound
  active := nofun
  shown := by
    intro connected
    refine ⟨rfl, (kept.shown connected).2.imp_right fun known => ⟨rfl, known.2⟩⟩
  attempt := nofun
  suppressed := kept.suppressed

theorem began (kept : Kept c) : Kept c.beginConnectionAttempt where
  sound := ⟨nofun, trivial, kept.sound⟩
  active := nofun
  shown := nofun
  attempt := by
    rintro attempt same
    cases same
    exact ⟨rfl, fun _ => rfl⟩
  suppressed := by
    rintro (intended | recording | intending)
    · exact kept.suppressed (.inl intended)
    · exact kept.suppressed (.inr (.inl recording))
    · cases intending

/-- Only an attempt without a reported loss ends connected. -/
theorem connected_completedState {detail : Option String} {result : ConnectResult}
    (connected : (Coordinator.completedState detail result warning).connected =
      true) : detail = none := by
  cases detail with
  | none => rfl
  | some detail => cases connected

theorem completed (kept : Kept c) (attempt : Nat) (result : ConnectResult)
    (warning : Option String) :
    Kept (c.completeConnectionAttempt attempt result warning) := by
  unfold Coordinator.completeConnectionAttempt
  split_ifs with other
  · exact kept
  have current := not_ne_iff.mp other
  obtain ⟨newest, quiet⟩ := kept.attempt attempt current
  have fits : Fits c.history (.completed attempt
      (Coordinator.completedState c.connectingDisconnectDetail result
        warning).connected) :=
    ⟨newest, fun connected => quiet (connected_completedState connected)⟩
  generalize Coordinator.completedState c.connectingDisconnectDetail result
    warning = state at fits ⊢
  have up : state.connected = true →
      down (.completed attempt state.connected :: c.history) = false := by
    intro connected
    rw [connected]
    rfl
  constructor
  case sound => exact ⟨up, fits, kept.sound⟩
  case active => exact fun active => ⟨active, up active, rfl⟩
  case shown => exact fun connected => ⟨rfl, .inl (up connected)⟩
  case attempt => nofun
  case suppressed => exact kept.suppressed

/-- A reported loss leaves an offline state behind, or no update in flight. -/
theorem lost (kept : Kept c) (detail : String)
    (careful : Careful c (.lost detail)) :
    Kept ((c.onDirectTransportDisconnected detail).record .reported) := by
  unfold Coordinator.onDirectTransportDisconnected
  cases connecting : c.connectingAttempt with
  | some attempt =>
    constructor
    case sound => exact ⟨trivial, nofun, kept.sound⟩
    case active => nofun
    case shown => nofun
    case attempt =>
      rintro other same
      obtain ⟨newest, -⟩ := kept.attempt other (connecting.trans same)
      exact ⟨newest, nofun⟩
    case suppressed => exact kept.suppressed
  | none =>
    split_ifs with active
    · constructor
      case sound => exact ⟨trivial, nofun, kept.sound⟩
      case active => nofun
      case shown => nofun
      case attempt => nofun
      case suppressed => exact kept.suppressed
    · have inactive := Bool.not_eq_true _ ▸ active
      constructor
      case sound => exact ⟨trivial, kept.sound⟩
      case active => exact fun other => absurd other active
      case shown =>
        exact fun connected => ⟨connecting,
          .inr ⟨inactive, (careful connected).resolve_left active⟩⟩
      case attempt => exact fun other same => nomatch connecting.symm.trans same
      case suppressed => exact kept.suppressed

/-- A warning is set in the state that was compared. -/
theorem warned (kept : Kept c) {clockFailed : Bool} {index : Nat}
    (current : c.tasks[index]? =
      some (.updating warning (.comparing c.published) clockFailed)) :
    Kept (c.publish { c.published with warning := warning }) := by
  have up : c.published.connected = true → down c.history = false := by
    intro connected
    obtain ⟨-, known | ⟨-, apart⟩⟩ := kept.shown connected
    · exact known
    · have compares := apart _ (List.mem_of_getElem? current)
      exact absurd compares (by simp [Task.compares])
  constructor
  case sound => exact ⟨up, kept.sound⟩
  case active => exact kept.active
  case shown =>
    exact fun connected => ⟨(kept.shown connected).1, .inl (up connected)⟩
  case attempt => exact kept.attempt
  case suppressed => exact kept.suppressed

theorem finished (kept : Kept c) (index : Nat) (clockFailed : Bool) :
    Kept (c.finishUpdate index clockFailed) := by
  cases clockFailed with
  | true => exact kept.set_task index rfl nofun
  | false => exact kept.drop_task index

theorem updated (kept : Kept c) {index : Nat} {clockFailed : Bool} {stage : Stage}
    (current : c.tasks[index]? = some (.updating warning stage clockFailed)) :
    Kept (c.update index warning clockFailed stage) := by
  cases stage with
  | looping =>
    unfold Coordinator.update
    dsimp only
    split_ifs
    · exact kept.set_task index rfl nofun
    · exact kept.finished index clockFailed
  | reading =>
    unfold Coordinator.update
    dsimp only
    split_ifs
    · exact kept.finished index clockFailed
    · exact kept.finished index clockFailed
    · exact kept.set_task index rfl nofun
  | rechecking shown =>
    unfold Coordinator.update
    dsimp only
    split_ifs with active
    · -- the update has seen `active`, so nothing was reported
      obtain ⟨connected, up, connecting⟩ := kept.active active
      constructor
      case sound => exact kept.sound
      case active => exact kept.active
      case shown => exact fun _ => ⟨connecting, .inl up⟩
      case attempt => exact kept.attempt
      case suppressed =>
        rintro (intended | recording | intending)
        · exact kept.suppressed (.inl intended)
        · rcases List.mem_or_eq_of_mem_set recording with member | other
          · exact kept.suppressed (.inr (.inl member))
          · cases other
        · exact kept.suppressed (.inr (.inr intending))
    · exact kept.set_task index rfl nofun
  | comparing shown =>
    unfold Coordinator.update
    dsimp only
    split_ifs with same
    · subst same
      exact (kept.warned current).finished index clockFailed
    · exact kept.set_task index rfl nofun

theorem resumed (kept : Kept c) (index : Nat) (answer : Answer) :
    Kept (c.resume index answer) := by
  unfold Coordinator.resume
  cases current : c.tasks[index]? with
  | none => exact kept
  | some task =>
  cases task with
  | calling clock => exact kept.set_task index rfl nofun
  | reporting clockFailed => exact kept.set_task index rfl nofun
  | updating warning stage clockFailed => exact kept.updated current
  | blaming =>
    dsimp only
    split_ifs
    · exact kept.set_task index rfl nofun
    · exact kept.drop_task index
  | excusing =>
    dsimp only
    split_ifs
    · exact kept.set_task index rfl nofun
    · exact kept.drop_task index
  | recording =>
    have suppressed := kept.suppressed
      (.inr (.inl (List.mem_of_getElem? current)))
    exact (kept.intended suppressed).drop_task index

/-- The owner connects, and no choice is being stored. -/
theorem cleared (kept : Kept c) (careful : Task.recording ∉ c.tasks) :
    Kept { c.record .cleared with
      automaticReconnectSuppressed := false
      procedure := some .storing } where
  sound := ⟨trivial, kept.sound⟩
  active := kept.active
  shown := kept.shown
  attempt := kept.attempt
  suppressed := by
    rintro (intended | recording | intending)
    · cases intended
    · exact absurd recording careful
    · cases intending

theorem advanced (kept : Kept c) (answer : Answer)
    (careful : Careful c (.advance answer)) : Kept (c.advance answer) := by
  unfold Coordinator.advance
  cases stands : c.procedure with
  | none => exact kept
  | some procedure =>
  cases procedure with
  | clearing => exact kept.cleared (careful stands)
  | storing =>
    refine kept.withProcedure ?_
    split_ifs <;> nofun
  | intending =>
    have suppressed := kept.suppressed (.inr (.inr stands))
    exact (kept.intended suppressed).withProcedure nofun
  | resetting reconnect =>
    refine kept.reset.withProcedure ?_
    cases reconnect <;> nofun
  | beginning => exact kept.began
  | connecting attempt =>
    refine kept.withProcedure ?_
    intro same
    split at same <;> cases same
  | warned attempt => exact kept.withProcedure nofun
  | failing attempt => exact kept.withProcedure nofun
  | completing attempt result warning =>
    exact (kept.completed attempt result warning).withProcedure nofun
  | closing => exact kept.withProcedure nofun
  | offlining detail disconnecting =>
    have closed : Kept { c.offline detail with procedure := none } :=
      (kept.reset.published rfl rfl).withProcedure nofun
    cases disconnecting with
    | false => exact closed
    | true =>
      constructor
      case sound => exact ⟨trivial, closed.sound⟩
      case active => nofun
      case shown => nofun
      case attempt => nofun
      case suppressed => exact closed.suppressed

theorem stepped (kept : Kept c) (action : Action)
    (careful : Careful c action) : Kept (step c action) := by
  cases action with
  | connect userInitiated =>
    dsimp only [step]
    split_ifs with held user suppressed
    · exact kept
    · exact kept.withProcedure nofun
    · exact kept.withProcedure nofun
    · have open_ : intends c.history = false := by
        cases intended : intends c.history with
        | false => rfl
        | true => exact absurd (kept.suppressed (.inl intended)) suppressed
      have passed : Kept (c.record .passed) :=
        ⟨⟨open_, kept.sound⟩, kept.active, kept.shown, kept.attempt,
          kept.suppressed⟩
      exact passed.withProcedure nofun
  | disconnect suppressAutomaticReconnect =>
    dsimp only [step]
    split_ifs
    · exact kept
    · exact ⟨kept.sound, kept.active, kept.shown, kept.attempt, fun _ => rfl⟩
    · exact kept.withProcedure nofun
  | advance answer => exact kept.advanced answer careful
  | recordUserDisconnectIntent =>
    constructor
    case sound => exact kept.sound
    case active => exact kept.active
    case shown =>
      intro connected
      obtain ⟨none, known⟩ := kept.shown connected
      refine ⟨none, known.imp_right fun ⟨inactive, apart⟩ => ⟨inactive, ?_⟩⟩
      intro task member
      rcases List.mem_append.mp member with member | last
      · exact apart task member
      · rw [List.mem_singleton.mp last]
        rfl
    case attempt => exact kept.attempt
    case suppressed => exact fun _ => rfl
  | lost detail => exact kept.lost detail careful
  | withTransport clock =>
    dsimp only [step]
    split_ifs with active
    · have called : Kept (c.record (.called c.published)) :=
        ⟨⟨(kept.active active).1, kept.sound⟩, kept.active, kept.shown,
          kept.attempt, kept.suppressed⟩
      exact called.add_task rfl nofun
    · exact kept.add_task rfl nofun
    · exact kept
  | resume index answer => exact kept.resumed index answer

end Kept

/--
In every careful run, the history is sound (an attempt with a reported loss does
not end connected; after a report nothing is published as connected until an
attempt is successful; the block of `withTransport` starts over a connected state;
only the newest attempt completes; past its check goes only a `connect` that the
owner's choice does not forbid), and what is active is shown as connected.
-/
theorem published_state_kept (suppressed : Bool) (actions : List Action)
    (careful : Throughout step (coordinator suppressed) Careful actions) :
    Sound (exec step (coordinator suppressed) actions).history ∧
      ((exec step (coordinator suppressed) actions).active = true →
        (exec step (coordinator suppressed) actions).published.connected =
          true) := by
  have kept := exec_throughout (Kept.initially suppressed)
    (fun _ action kept => kept.stepped action) careful
  exact ⟨kept.sound, fun active => (kept.active active).1⟩

/-! ## One run with a clock warning -/

/-- The answer of a procedure that was not cancelled. -/
def answered (outcome : Outcome) (warning : Option String) : Answer :=
  ⟨false, outcome, warning, ""⟩

/-- The device is connected, and the transport has a warning to show. -/
def connectedRun : List Action :=
  let reached := answered (.returned .connected) none
  [.connect false, .advance reached, .advance reached, .advance reached,
    .advance reached, .advance reached, .withTransport false,
    .resume 0 reached, .resume 0 (answered .threw (some "clock_sync_failed")),
    .resume 0 reached, .resume 0 reached, .resume 0 reached]

theorem published_state_kept_connected :
    Throughout step (coordinator false) Careful
        (connectedRun ++ [.lost "gatt_disconnected", .resume 0
          (answered .threw none)]) ∧
      Sound (exec step (coordinator false)
        (connectedRun ++ [.lost "gatt_disconnected", .resume 0
          (answered .threw none)])).history := by
  have careful : Throughout step (coordinator false) Careful
      (connectedRun ++ [.lost "gatt_disconnected", .resume 0
        (answered .threw none)]) := by
    simp only [connectedRun, List.cons_append, List.nil_append, throughout_cons]
    refine ⟨?_, ?_, ?_, ?_, ?_, ?_, ?_, ?_, ?_, ?_, ?_, ?_, ?_, ?_, .nil⟩ <;>
      decide
  exact ⟨careful, (published_state_kept false _ careful).1⟩

/--
The owner connects anew, the link is lost before anything is published, and the
update that looked at `active` before shows the old session as connected.
-/
theorem lost_session_published :
    ¬ ∀ (suppressed : Bool) (actions : List Action),
      Sound (exec step (coordinator suppressed) actions).history := by
  intro sound
  have shown := sound false (connectedRun ++
    [.connect false, .advance (answered .threw none),
      .lost "gatt_disconnected", .resume 0 (answered .threw none)])
  have last := shown.1 rfl
  revert last
  decide

end Kitsu.Mobile.Connection
