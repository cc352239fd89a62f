import Kitsu.Ble.SessionMoves

/-!
# Pairing authority

A controller is committed only at the end of a pairing: a window was opened for
its role, the window admitted a request before its deadline, the pairing was
confirmed at the device before that deadline, and the client proved that it
holds the root which the confirmation drew.  From the request on nothing else
may happen to the session.
-/

namespace Kitsu.Ble.Pairing

open Kitsu.Lib.ByteString
open Kitsu.Lib.Run
open Kitsu.Lib.WrapClock
open Kitsu.Ble.Permissions
open Kitsu.Ble.ControlFrame
open Kitsu.Ble.Session
open Kitsu.Ble.SessionSteps
open Kitsu.Ble.SessionMoves
open Kitsu.Companion.Base64Url
open Kitsu.Companion.Envelope
open Kitsu.Companion.Handshake
open Kitsu.Security.Record
open Kitsu.Security.Store (SecurityResult PairingCommit)

/-! ## The window -/

/-- The pairing window of a session. -/
structure Window where
  opened : Bool
  role : ControllerRole
  deadline : UInt32

/-- The pairing window of a session. -/
def windowOf (session : KitsuBleSession) : Window where
  opened := session.pairingWindowOpen
  role := session.pairingWindowRole
  deadline := session.pairingWindowDeadline

/-- The calls that open or close the pairing window. -/
def setsWindow : Event → Bool
  | .setPairingWindow _ _ _ _ => true
  | _ => false

variable {now : UInt32} {idle : Bool}

section Window

variable {session : KitsuBleSession}

theorem closed_window (now : UInt32) (cause : BleCloseCause)
    (session : KitsuBleSession) :
    windowOf (closed now cause session) = windowOf session :=
  rfl

theorem backoff_window (backoffUntil : UInt32) :
    windowOf { session with backoffUntil } = windowOf session :=
  rfl

theorem failedProof_window (now : UInt32) :
    windowOf (failedProof now session) = windowOf session := by
  unfold failedProof KitsuBleSession.afterProofFailure
    KitsuBleSession.countProofFailure
  split <;> split <;> rfl

theorem expireWindow_window
    (opened : (session.expireWindow now).pairingWindowOpen = true) :
    session.expireWindow now = session := by
  unfold KitsuBleSession.expireWindow at opened ⊢
  split at opened
  · cases opened
  · rename_i unexpired
    rw [if_neg unexpired]

theorem dropPairing_window : windowOf session.dropPairing = windowOf session := by
  unfold KitsuBleSession.dropPairing
  split <;> rfl

theorem linked_window (flags : LinkFlags) (now : UInt32) :
    windowOf (linked flags now session) = windowOf session := by
  unfold linked
  split
  · rfl
  · split <;> rfl

/-- The window that is open after `loop` was open before. -/
theorem looped_window
    (opened : (looped now idle session).pairingWindowOpen = true) :
    windowOf (looped now idle session) = windowOf session := by
  have loops := looped_loops now idle session
  generalize looped now idle session = after at loops opened ⊢
  cases loops with
  | waited | expired | cut | ended =>
    have same : session.expireWindow now = session :=
      expireWindow_window opened
    simp only [same]
    try rfl

/-- How an open window came to be. -/
inductive Keeps (before : KitsuBleSession) (event : Event)
    (after : KitsuBleSession) : Prop where
  | opens {opened : Bool} {remaining now : UInt32} {role : ControllerRole}
      (sets : event = .setPairingWindow opened remaining now role)
      (begun : before.begun = true)
      (requested : windowRequested opened remaining role = true)
      (window : windowOf after = ⟨true, role, now + remaining⟩)
  | keeps (other : setsWindow event = false)
      (window : windowOf after = windowOf before)

theorem quietly_keeps {ready : Bool} {event : Event} (started : Started session)
    (opened : (quietly ready idle session event).pairingWindowOpen = true) :
    Keeps session event (quietly ready idle session event) := by
  cases event with
  | begin deviceUid =>
    apply Keeps.keeps rfl
    simp only [quietly]
    split <;> rfl
  | secureLink flags now =>
    apply Keeps.keeps rfl
    simp only [quietly]
    split
    · exact linked_window flags now
    · rfl
  | linkClosed now =>
    apply Keeps.keeps rfl
    simp only [quietly] at opened ⊢
    split
    · rename_i begun
      rw [if_pos begun] at opened
      have same := expireWindow_window opened
      rw [same]
      rfl
    · rfl
  | setPairingWindow set remaining now role =>
    cases begun : session.begun with
    | false =>
      rw [started begun] at opened
      simp [quietly, KitsuBleSession.initial] at opened
    | true =>
      simp only [quietly, begun, if_true] at opened ⊢
      have requested : windowRequested set remaining role = true :=
        opened
      refine .opens rfl begun requested ?_
      simp [windowOf, KitsuBleSession.setWindow, requested]
  | loop now =>
    apply Keeps.keeps rfl
    simp only [quietly] at opened ⊢
    split
    · rename_i begun
      rw [if_pos begun] at opened
      exact looped_window opened
    · rfl
  | cancelPairing =>
    apply Keeps.keeps rfl
    simp only [quietly]
    split
    · exact dropPairing_window
    · rfl
  | _ => exact Keeps.keeps rfl rfl

end Window

variable {σ : Type} {crypto : CompanionCrypto} {store : ControllerStore σ}

/-- Only `setPairingWindow` opens a window. -/
theorem moved_keeps {system : System σ} {environment : Environment}
    {event : Event} {result : Bool} {session : KitsuBleSession} {calls : List Call}
    (moved : Moved crypto store system environment event result session calls)
    (started : Started system.session)
    (opened : session.pairingWindowOpen = true) :
    Keeps system.session event session := by
  cases moved with
  | quiet ready idle => exact quietly_keeps started opened
  | failed arrives _ _ touched =>
    rcases touched with ⟨_, _, _, _, rfl⟩
    exact Keeps.keeps rfl (failedProof_window _)
  | greeted arrives state greets =>
    cases greets
    exact Keeps.keeps rfl rfl
  | requested arrives state requests =>
    cases requests
    exact Keeps.keeps rfl rfl
  | entered arrives state enters =>
    cases enters
    exact Keeps.keeps rfl rfl
  | enveloped arrives state ends =>
    generalize operations calls = called at ends
    cases ends with
    | violated =>
      apply Keeps.keeps rfl
      rw [closed_window, backoff_window]
    | admitted taken finish =>
      cases finish with
      | _ => exact Keeps.keeps rfl rfl
  | committed arrives state checked commits =>
    cases commits with
    | refused => exact Keeps.keeps rfl (failedProof_window _)
    | _ => exact Keeps.keeps rfl rfl
  | confirmed confirms =>
    cases confirms with
    | _ => exact Keeps.keeps rfl rfl
  | _ => exact Keeps.keeps rfl rfl

/-! ## The steps of a pairing -/

section Chain

variable (crypto store) (stored : σ)

/-- The input sets the window anew. -/
def resetsWindow : Input σ → Bool
  | .event event _ => setsWindow event
  | .storeChange _ => false

/-- The window was opened and not set since. -/
def OpenedBy (history : List (Input σ)) (role : ControllerRole)
    (deadline : UInt32) : Prop :=
  ∃ earlier opened remaining now environment later,
    history = earlier ++
        [.event (.setPairingWindow opened remaining now role)
          environment] ++ later ∧
      (after crypto store stored earlier).session.begun = true ∧
      windowRequested opened remaining role = true ∧
      deadline = now + remaining ∧
      ∀ input ∈ later, resetsWindow input = false

/-- Neither a frame, nor a link event, nor one that ends a pairing. -/
def undisturbing : Input σ → Bool
  | .event event _ =>
    !isFrame event && !isLinkEvent event && !isWindowEvent event
  | .storeChange _ => true

/-- The open window admitted a request, and nothing disturbed it since. -/
def RequestedBy (history : List (Input σ)) (role : ControllerRole)
    (deadline : UInt32) (version : Nat) (clientNonce : Nonce) : Prop :=
  ∃ earlier json now environment later,
    history = earlier ++ [.event (.frame json now) environment] ++ later ∧
      OpenedBy crypto store stored earlier role deadline ∧
      (after crypto store stored earlier).session.linkSecure = true ∧
      pairRequest? json = some (version, clientNonce) ∧
      version = pairingVersionForRole role ∧
      deadlineReached now deadline = false ∧
      Remains crypto store .pairingAwaitingPhysical
        (after crypto store stored
          (earlier ++ [.event (.frame json now) environment])) later ∧
      ∀ input ∈ later, undisturbing input = true

/-- The request was confirmed at the device, and nothing disturbed it since. -/
def ConfirmedBy (history : List (Input σ)) (pending : PendingPairing)
    (deadline : UInt32) : Prop :=
  ∃ earlier now environment later,
    history =
        earlier ++ [.event (.confirmPairing now) environment] ++ later ∧
      RequestedBy crypto store stored earlier pending.role deadline
        pending.version pending.clientNonce ∧
      returned ((after crypto store stored earlier).run crypto store
        (.confirmPairing now) environment) = some true ∧
      deadlineReached now deadline = false ∧
      .generatePendingControllerRoot .ok pending.controllerRoot ∈
        (after crypto store stored earlier).calls crypto store
          (.event (.confirmPairing now) environment) ∧
      .randomBytes pending.controllerId.bytes ∈
        (after crypto store stored earlier).calls crypto store
          (.event (.confirmPairing now) environment) ∧
      Remains crypto store .pairingAwaitingCommit
        (after crypto store stored
          (earlier ++ [.event (.confirmPairing now) environment])) later ∧
      ∀ input ∈ later, undisturbing input = true

/-- What the session remembers of a pairing that is under way. -/
structure Recalls (history : List (Input σ)) (session : KitsuBleSession) :
    Prop where
  window : session.pairingWindowOpen = true →
    OpenedBy crypto store stored history session.pairingWindowRole
      session.pairingWindowDeadline
  request : session.state = .pairingAwaitingPhysical →
    session.pending = .cleared ∨
      RequestedBy crypto store stored history session.pending.role
        session.stateDeadline session.pending.version
        session.pending.clientNonce
  confirmation : session.state = .pairingAwaitingCommit →
    ConfirmedBy crypto store stored history session.pending
      session.stateDeadline

end Chain

section Chain

variable {stored : σ} {history : List (Input σ)} {input : Input σ}
  {role : ControllerRole} {deadline : UInt32} {version : Nat}
  {clientNonce : Nonce} {pending : PendingPairing}

theorem forall_mem_concat {Holds : Input σ → Prop}
    {inputs : List (Input σ)} (all : ∀ other ∈ inputs, Holds other)
    (last : Holds input) : ∀ other ∈ inputs ++ [input], Holds other := by
  intro other member
  rcases List.mem_append.mp member with old | new
  · exact all other old
  · rw [List.mem_singleton.mp new]
    exact last

theorem OpenedBy.later
    (opened : OpenedBy crypto store stored history role deadline)
    (other : resetsWindow input = false) :
    OpenedBy crypto store stored (history ++ [input]) role deadline := by
  rcases opened with ⟨earlier, flag, remaining, now, environment, later, rfl,
    begun, requested, equal, untouched⟩
  refine ⟨earlier, flag, remaining, now, environment, later ++ [input], ?_,
    begun, requested, equal, forall_mem_concat untouched other⟩
  rw [List.append_assoc _ later]

theorem RequestedBy.later
    (requested : RequestedBy crypto store stored history role deadline
      version clientNonce) (calm : undisturbing input = true)
    (state : (after crypto store stored
      (history ++ [input])).session.state = .pairingAwaitingPhysical) :
    RequestedBy crypto store stored (history ++ [input]) role deadline
      version clientNonce := by
  rcases requested with ⟨earlier, json, now, environment, later, rfl, opened,
    secure, request, matching, early, remains, undisturbed⟩
  refine ⟨earlier, json, now, environment, later ++ [input], ?_, opened,
    secure, request, matching, early, remains.later state,
    forall_mem_concat undisturbed calm⟩
  rw [List.append_assoc _ later]

theorem ConfirmedBy.later
    (confirmed : ConfirmedBy crypto store stored history pending deadline)
    (calm : undisturbing input = true) (state : (after crypto store stored
      (history ++ [input])).session.state = .pairingAwaitingCommit) :
    ConfirmedBy crypto store stored (history ++ [input]) pending
      deadline := by
  rcases confirmed with ⟨earlier, now, environment, later, rfl, requested,
    done_, early, generated, drawn, remains, undisturbed⟩
  refine ⟨earlier, now, environment, later ++ [input], ?_, requested, done_,
    early, generated, drawn, remains.later state,
    forall_mem_concat undisturbed calm⟩
  rw [List.append_assoc _ later]

/-- A window is opened for a role. -/
theorem OpenedBy.role_valid
    (opened : OpenedBy crypto store stored history role deadline) :
    role ≠ .invalid := by
  rcases opened with ⟨_, _, _, _, _, _, _, _, requested, _⟩
  rintro rfl
  simp [windowRequested, validPairingRole] at requested

/-- What a confirmation has checked. -/
theorem confirmable_iff {session : KitsuBleSession} :
    confirmable session now = true ↔
      session.begun = true ∧ session.state = .pairingAwaitingPhysical ∧
        session.pairingWindowOpen = true ∧
        deadlineReached now session.stateDeadline = false ∧
        session.linkSecure = true ∧
        session.pending.role = session.pairingWindowRole ∧
        session.pending.version =
          pairingVersionForRole session.pairingWindowRole := by
  simp [confirmable, and_assoc]

theorem Stays.undisturbing {event : Event} {environment : Environment}
    {before after : KitsuBleSession} (frameless : isFrame event = false)
    (stays : Stays event before after) (pairing : isPairing before.state = true) :
    undisturbing (.event event environment : Input σ) = true := by
  simp [Pairing.undisturbing, frameless, stays.unlinked, (stays.pairing pairing).1]

section Steps

variable {event : Event} {environment : Environment} {result : Bool}

theorem carried_request
    (carried : Carried crypto store (after crypto store stored history)
      environment event result (after crypto store stored
        (history ++ [.event event environment])).session
      ((after crypto store stored history).calls crypto store
        (.event event environment))) (recalls : Recalls crypto store stored history
      (after crypto store stored history).session)
    (state : (after crypto store stored
      (history ++ [.event event environment])).session.state =
        .pairingAwaitingPhysical) :
    let session := (after crypto store stored
      (history ++ [.event event environment])).session
    session.pending = .cleared ∨
      RequestedBy crypto store stored
        (history ++ [.event event environment]) session.pending.role
        session.stateDeadline session.pending.version
        session.pending.clientNonce := by
  intro after_
  have kept : after_ = (after crypto store stored
    (history ++ [.event event environment])).session := rfl
  rw [← kept] at carried
  have inside : after_.state = .pairingAwaitingPhysical := state
  clear_value after_
  cases carried with
  | stayed frameless stays =>
    have before := stays.state.symm.trans inside
    have pairing : isPairing
        (after crypto store stored history).session.state = true := by
      rw [before]
      rfl
    have calm := @Stays.undisturbing σ _ environment _ _ frameless stays
      pairing
    rw [(stays.pairing pairing).2.1, stays.deadline]
    rcases recalls.request before with wiped | requested
    · exact .inl wiped
    · exact .inr (requested.later calm state)
  | greeted arrives other greets =>
    cases greets
    cases inside
  | @requested json now _ _ _ arrives other requests =>
    cases requests with
    | intro deviceNonce request opened early matching =>
      refine .inr ⟨history, json, now, environment, [], ?_,
        recalls.window opened, arrives.secure, request, matching, early, state, ?_⟩
      · rw [List.append_nil]
      · intro input member
        cases member
  | entered arrives other enters =>
    cases enters
    cases inside
  | answered barrier arrives other => cases other.symm.trans inside
  | rootless => exact .inl rfl
  | granted => cases inside
  | sent other => cases other.symm.trans inside

theorem carried_confirmation
    (done_ : returned ((after crypto store stored history).run crypto store
      event environment) = some result)
    (carried : Carried crypto store (after crypto store stored history)
      environment event result (after crypto store stored
        (history ++ [.event event environment])).session
      ((after crypto store stored history).calls crypto store
        (.event event environment))) (recalls : Recalls crypto store stored history
      (after crypto store stored history).session)
    (state : (after crypto store stored
      (history ++ [.event event environment])).session.state =
        .pairingAwaitingCommit) :
    let session := (after crypto store stored
      (history ++ [.event event environment])).session
    ConfirmedBy crypto store stored
      (history ++ [.event event environment]) session.pending
      session.stateDeadline := by
  intro after_
  have kept : after_ = (after crypto store stored
    (history ++ [.event event environment])).session := rfl
  rw [← kept] at carried
  have inside : after_.state = .pairingAwaitingCommit := state
  clear_value after_
  generalize called : (after crypto store stored history).calls crypto store
    (.event event environment) = calls at carried
  cases carried with
  | stayed frameless stays =>
    have before := stays.state.symm.trans inside
    have pairing : isPairing
        (after crypto store stored history).session.state = true := by
      rw [before]
      rfl
    have calm := @Stays.undisturbing σ _ environment _ _ frameless stays
      pairing
    rw [(stays.pairing pairing).2.1, stays.deadline]
    exact (recalls.confirmation before).later calm state
  | greeted arrives other greets =>
    cases greets
    cases inside
  | requested arrives other requests =>
    cases requests
    cases inside
  | entered arrives other enters =>
    cases enters
    cases inside
  | answered barrier arrives other => cases other.symm.trans inside
  | rootless admitted =>
    cases (confirmable_iff.mp admitted).2.1.symm.trans inside
  | @granted now _ controllerId root admitted generated drawn =>
    rcases confirmable_iff.mp admitted with ⟨_, physical, opened, early, _,
      sameRole, _⟩
    have requested : RequestedBy crypto store stored history
        (after crypto store stored history).session.pending.role
        (after crypto store stored history).session.stateDeadline
        (after crypto store stored history).session.pending.version
        (after crypto store stored history).session.pending.clientNonce := by
      rcases recalls.request physical with wiped | requested
      · have valid := (recalls.window opened).role_valid
        rw [← sameRole, wiped] at valid
        exact absurd rfl valid
      · exact requested
    refine ⟨history, now, environment, [], ?_, requested, done_, early, ?_,
      ?_, state, ?_⟩
    · rw [List.append_nil]
    · rw [called]
      exact generated
    · rw [called]
      exact drawn
    · intro input member
      cases member
  | sent other => cases other.symm.trans inside

end Steps

theorem keeps_opened {event : Event} {environment : Environment}
    {session : KitsuBleSession}
    (keeps : Keeps (after crypto store stored history).session event session)
    (opened : session.pairingWindowOpen = true)
    (window : (after crypto store stored
        history).session.pairingWindowOpen = true →
      OpenedBy crypto store stored history
        (after crypto store stored history).session.pairingWindowRole
        (after crypto store stored history).session.pairingWindowDeadline) :
    OpenedBy crypto store stored (history ++ [.event event environment])
      session.pairingWindowRole session.pairingWindowDeadline := by
  cases keeps with
  | @opens flag remaining now role sets begun requested equal =>
    have sameRole : session.pairingWindowRole = role :=
      congrArg Window.role equal
    have sameDeadline : session.pairingWindowDeadline = now + remaining :=
      congrArg Window.deadline equal
    rw [sameRole, sets]
    refine ⟨history, flag, remaining, now, environment, [], ?_, begun,
      requested, sameDeadline, ?_⟩
    · rw [List.append_nil]
    · intro input member
      cases member
  | keeps other equal =>
    have sameOpen : session.pairingWindowOpen =
        (after crypto store stored history).session.pairingWindowOpen :=
      congrArg Window.opened equal
    have sameRole : session.pairingWindowRole =
        (after crypto store stored history).session.pairingWindowRole :=
      congrArg Window.role equal
    have sameDeadline : session.pairingWindowDeadline =
        (after crypto store stored history).session.pairingWindowDeadline :=
      congrArg Window.deadline equal
    rw [sameRole, sameDeadline]
    exact (window (sameOpen.symm.trans opened)).later other

theorem after_recalls (history : List (Input σ)) :
    Recalls crypto store stored history
      (after crypto store stored history).session := by
  refine @after_induction _ crypto store stored
    (fun history system =>
      Recalls crypto store stored history system.session) ?_ ?_ history
  · constructor
    · intro opened
      cases opened
    · intro state
      cases state
    · intro state
      cases state
  intro history input recalls
  cases input with
  | storeChange changed =>
    constructor
    · intro opened
      exact (recalls.window opened).later rfl
    · intro state
      rcases recalls.request state with wiped | requested
      · exact .inl wiped
      · exact .inr (requested.later rfl
          (by rw [after_concat]; exact state))
    · intro state
      exact (recalls.confirmation state).later rfl
        (by rw [after_concat]; exact state)
  | event event environment =>
    have started := @after_started σ crypto store stored history
    rw [← after_concat]
    constructor
    · intro opened
      rw [after_concat] at opened ⊢
      rcases @step_cases σ crypto store
        (after crypto store stored history) event environment with
          ⟨result, _, moved⟩ | ⟨_, session⟩
      · exact keeps_opened (moved_keeps moved started opened) opened
          recalls.window
      · rw [session] at opened
        cases opened
    · intro state
      rcases step_carried started
        (by rw [← after_concat, state]; rfl) with ⟨result, _, carried⟩
      rw [← after_concat] at carried
      exact carried_request carried recalls state
    · intro state
      rcases step_carried started
        (by rw [← after_concat, state]; rfl) with
          ⟨result, done_, carried⟩
      rw [← after_concat] at carried
      exact carried_confirmation done_ carried recalls state

end Chain

/-! ## Committing -/

section Commits

variable {system : System σ} {stored : σ} {history : List (Input σ)}
  {input : Input σ} {commit : PairingCommit}

/-- The input is a frame that commits the session's pairing. -/
structure CommitsBy (crypto : CompanionCrypto) (system : System σ)
    (input : Input σ) (commit : PairingCommit) : Prop where
  state : system.session.state = .pairingAwaitingCommit
  secure : system.session.linkSecure = true
  commitment : commit = system.session.commitment
  frame : ∃ json now environment,
    input = .event (.frame json now) environment ∧
      CommitChecked crypto system.session json

/-- A commit is called by a checked `pair_commit` frame only. -/
theorem commits_by_frame (called : .commitControllerAfterPairing commit ∈
      system.calls crypto store input) : CommitsBy crypto system input commit := by
  cases input with
  | storeChange changed => cases called
  | event event environment =>
    have operation : Call.commitControllerAfterPairing commit ∈
        operations (system.calls crypto store (.event event environment)) :=
      List.mem_filter.mpr ⟨called, rfl⟩
    have none_ {calls : List Call} {goal : Prop}
        (silent : operations calls = [])
        (member : Call.commitControllerAfterPairing commit ∈
          operations calls) : goal := by
      rw [silent] at member
      cases member
    have same {session : KitsuBleSession} {calls : List Call}
        (equal : operations calls =
          [.commitControllerAfterPairing session.commitment])
        (member : Call.commitControllerAfterPairing commit ∈
          operations calls) : commit = session.commitment := by
      rw [equal, List.mem_singleton] at member
      cases member
      rfl
    have request {secrets : Secrets} {request : DecodedEnvelope}
        {payload : Bytes} {goal : Prop}
        (member : Call.commitControllerAfterPairing commit ∈
          requestOperations secrets request payload) : goal := by
      unfold requestOperations at member
      split at member
      · split at member <;> simp at member
      · simp at member
    rcases @step_cases σ crypto store system event environment with
      ⟨result, _, moved⟩ | ⟨stopped, _⟩
    · generalize system.calls crypto store (.event event environment) =
        calls at moved operation
      generalize (system.step crypto store
        (.event event environment)).session = session at moved
      cases moved with
      | committed arrives state checked commits equal =>
        exact ⟨state, arrives.secure, same equal operation, _, _, _, rfl, checked⟩
      | enveloped arrives state ends =>
        generalize operations calls = made at ends operation
        cases ends with
        | violated => cases operation
        | admitted => exact request operation
      | quiet _ _ _ silent => exact none_ silent operation
      | rejected _ _ _ silent => exact none_ silent operation
      | late _ silent => exact none_ silent operation
      | ignored _ _ silent => exact none_ silent operation
      | failed _ _ _ _ silent => exact none_ silent operation
      | greeted _ _ _ silent => exact none_ silent operation
      | declined _ _ silent => exact none_ silent operation
      | requested _ _ _ silent => exact none_ silent operation
      | entered _ _ _ silent => exact none_ silent operation
      | confirmed _ silent => exact none_ silent operation
      | unsent _ silent => exact none_ silent operation
      | sent _ _ silent => exact none_ silent operation
    · generalize system.calls crypto store (.event event environment) =
        calls at stopped operation
      cases stopped with
      | unbegun _ silent => exact none_ silent operation
      | confirming _ silent => exact none_ silent operation
      | committing arrives state checked equal =>
        exact ⟨state, arrives.secure, same equal operation, _, _, _, rfl, checked⟩
      | revoking arrives state taken equal =>
        rw [equal] at operation
        exact request operation

/-- A pairing that ends in this commit. -/
structure PairedBy (crypto : CompanionCrypto) (store : ControllerStore σ)
    (stored : σ) (history : List (Input σ)) (input : Input σ)
    (commit : PairingCommit) : Prop where
  secure : (after crypto store stored history).session.linkSecure = true
  facts : commit.facts = ⟨true, true, true, true⟩
  pairing : ∃ deadline version clientNonce deviceNonce json now environment
      supplied, ∃ pending : PendingPairing,
    pending = ⟨commit.controllerId, commit.pendingRoot, clientNonce,
        deviceNonce, commit.role, version⟩ ∧
      (after crypto store stored history).session.pending = pending ∧
      ConfirmedBy crypto store stored history pending deadline ∧
      input = .event (.frame json now) environment ∧
      readPairCommit pending json = some supplied ∧
      makePendingPairingProof crypto
        (after crypto store stored history).session .client = some supplied

theorem linkSecure_facts {session : KitsuBleSession}
    (secure : session.linkSecure = true) :
    session.pairingFacts = ⟨true, true, true, true⟩ := by
  simp only [KitsuBleSession.linkSecure, Bool.and_eq_true] at secure
  simp [KitsuBleSession.pairingFacts, secure.1.1.1, secure.1.1.2, secure.2]

/--
Every commit ends a pairing: the window was opened for the committed role, it
admitted a request of that role's version before its deadline on a secure link,
the request was confirmed before that deadline, and the client proved the root
that the confirmation drew; from the request on the session remained in the
pairing and nothing disturbed it.
-/
theorem pairing_authority (crypto : CompanionCrypto)
    (store : ControllerStore σ) (stored : σ) (history : List (Input σ))
    (input : Input σ) (commit : PairingCommit)
    (called : .commitControllerAfterPairing commit ∈
      (after crypto store stored history).calls crypto store input) :
    PairedBy crypto store stored history input commit := by
  rcases commits_by_frame called with
    ⟨state, secure, rfl, json, now, environment, frame, supplied, read, proof⟩
  have confirmed :=
    (@after_recalls σ crypto store stored history).confirmation state
  refine ⟨secure, linkSecure_facts secure, _, _, _, _, json, now,
    environment, supplied, _, rfl, rfl, confirmed, frame, read, proof⟩

end Commits

/-! ## A pairing that can be run -/

/-- A begun store without controllers. -/
def unpairedStore : Kitsu.Security.Store.Machine :=
  { sampleStore with
    ram := { Kitsu.Security.Store.Ram.cleared with begun := true }
    random := [some fun _ => 0x33] }

/-- The firmware's store. -/
abbrev firmwareStore : ControllerStore Kitsu.Security.Store.Machine :=
  deviceStore Kitsu.Security.Store.maskingPlatform

/-- The request of a phone to be paired. -/
def samplePairRequest : Bytes :=
  controlFrame "pair_request"
    (textField "client_nonce_b64" (encodeGroups sampleClientNonce.bytes) ++
      textField "label" (ascii "Phone") ++
      textField "platform" (ascii "android"))

/-- The commit of that phone, with its proof. -/
def samplePairCommit : Bytes :=
  controlFrame "pair_commit" (textField "proof_b64"
    (((makePairingProof maskingCrypto (.replicate _ 0x33) .client
      sampleDeviceNonce sampleDeviceUid sampleClientNonce
      sampleDeviceNonce).map fun proof => encodeGroups proof.bytes).getD []))

/-- The commit that the sample pairing leads to. -/
def sampleCommit : PairingCommit where
  controllerId := sampleDeviceNonce
  pendingRoot := .replicate _ 0x33
  facts := ⟨true, true, true, true⟩
  pairCommitVerified := true
  role := .owner

/-- A window of one minute, a request and its confirmation. -/
def confirmedPairing : List (Input Kitsu.Security.Store.Machine) :=
  sampleLink 100 ++
    [calmly (.setPairingWindow true 60000 1000 .owner),
      calmly (.frame samplePairRequest 2000), calmly (.confirmPairing 3000)]

theorem sample_pairing_authority :
    PairedBy maskingCrypto firmwareStore unpairedStore confirmedPairing
      (calmly (.frame samplePairCommit 4000)) sampleCommit := by
  apply pairing_authority
  decide +kernel

/-- The window is opened, then the link is replaced. -/
def relinkedPairing : List (Input Kitsu.Security.Store.Machine) :=
  sampleLink 100 ++
    [calmly (.setPairingWindow true 60000 1000 .owner), calmly (.linkClosed 1100),
      calmly (.secureLink ⟨true, true, true, true⟩ 1200),
      calmly (.frame samplePairRequest 2000), calmly (.confirmPairing 3000)]

/--
The link is closed and established anew between the only window of this run and
the request, and the pairing is committed.
-/
theorem pairing_outlives_link :
    (relinkedPairing.filter resetsWindow).length = 1 ∧
      .commitControllerAfterPairing sampleCommit ∈
        (after maskingCrypto firmwareStore unpairedStore
          relinkedPairing).calls maskingCrypto firmwareStore
            (calmly (.frame samplePairCommit 4000)) := by
  decide +kernel

/-! ## The deadline of a window -/

/-- The window and the pairing it admitted end at the deadline. -/
structure Bounded (deadline : UInt32) (session : KitsuBleSession) :
    Prop where
  window : session.pairingWindowOpen = true →
    session.pairingWindowDeadline = deadline
  pairing : isPairing session.state = true →
    session.stateDeadline = deadline

/-- There is neither a window nor a pairing. -/
structure Over (session : KitsuBleSession) : Prop where
  window : session.pairingWindowOpen = false
  pairing : isPairing session.state = false

section Deadline

variable {deadline : UInt32} {session : KitsuBleSession}

theorem isPairing_active {state : BleSessionState}
    (pairing : isPairing state = true) : isActive state = true := by
  cases state with
  | pairingAwaitingPhysical => rfl
  | pairingAwaitingCommit => rfl
  | _ => cases pairing

theorem initial_over : Over .initial :=
  ⟨rfl, rfl⟩

theorem setWindow_bounded {opened : Bool} {remaining : UInt32}
    {role : ControllerRole} {ready : Bool} (started : Started session) :
    Bounded (now + remaining) (quietly ready idle session
      (.setPairingWindow opened remaining now role)) := by
  cases begun : session.begun with
  | false =>
    rw [started begun]
    constructor
    · intro open_
      cases open_
    · intro pairing
      cases pairing
  | true =>
    simp only [quietly, begun, if_true]
    constructor
    · intro open_
      have requested : windowRequested opened remaining role = true :=
        open_
      simp [KitsuBleSession.setWindow, requested]
    · intro pairing
      have state : isPairing session.dropPairing.state = true := pairing
      cases before : isPairing session.state with
      | true =>
        rw [dropPairing_inactive before] at state
        cases state
      | false =>
        rw [dropPairing_eq before, before] at state
        cases state

/-- A loop at or after the deadline ends both. -/
theorem looped_over (bounded : Bounded deadline session)
    (nonzero : deadline ≠ 0) (late : deadlineReached now deadline = true) :
    Over (looped now idle session) := by
  have closes : (session.expireWindow now).pairingWindowOpen = false := by
    by_contra opened
    have same := expireWindow_window (by simpa using opened)
    rw [same] at opened
    have reached := bounded.window (by simpa using opened)
    rw [← reached] at late
    unfold KitsuBleSession.expireWindow at same
    rw [if_pos ⟨by simpa using opened, late⟩] at same
    rw [← same] at opened
    exact opened rfl
  have loops := looped_loops now idle session
  generalize looped now idle session = after at loops ⊢
  cases loops with
  | waited unexpired =>
    refine ⟨closes, ?_⟩
    by_contra pairing
    have before : isPairing session.state = true := by
      simpa using pairing
    have stays := @expireWindow_stays session now
    have reached := bounded.pairing before
    simp [stateExpired, expireWindow_state, before, stays.deadline, reached,
      nonzero, late] at unexpired
  | expired => exact ⟨closes, rfl⟩
  | cut state =>
    refine ⟨closes, ?_⟩
    simp [expireWindow_state, state, isPairing]
  | ended => exact ⟨closes, rfl⟩

variable {system : System σ} {input : Input σ}

theorem step_window (started : Started system.session)
    (other : resetsWindow input = false)
    (opened : (system.step crypto store input).session.pairingWindowOpen = true) :
    windowOf (system.step crypto store input).session =
      windowOf system.session := by
  cases input with
  | storeChange changed => rfl
  | event event environment =>
    rcases @step_cases σ crypto store system event environment with
      ⟨result, _, moved⟩ | ⟨_, session⟩
    · cases moved_keeps moved started opened with
      | opens sets =>
        rw [sets] at other
        cases other
      | keeps _ window => exact window
    · rw [session] at opened
      cases opened

theorem step_bounded (started : Started system.session)
    (other : resetsWindow input = false)
    (bounded : Bounded deadline system.session) :
    Bounded deadline (system.step crypto store input).session := by
  constructor
  · intro opened
    have same := step_window started other opened
    have before : system.session.pairingWindowOpen = true :=
      (congrArg Window.opened same).symm.trans opened
    exact (congrArg Window.deadline same).trans (bounded.window before)
  intro pairing
  cases input with
  | storeChange changed => exact bounded.pairing pairing
  | event event environment =>
    rcases step_carried started (isPairing_active pairing) with
      ⟨result, _, carried⟩
    generalize (system.step crypto store
      (.event event environment)).session = session at carried pairing ⊢
    cases carried with
    | stayed frameless stays =>
      rw [stays.deadline]
      rw [stays.state] at pairing
      exact bounded.pairing pairing
    | greeted arrives state greets =>
      cases greets
      cases pairing
    | requested arrives state requests =>
      cases requests with
      | intro deviceNonce request opened =>
        exact bounded.window opened
    | entered arrives state enters =>
      cases enters
      cases pairing
    | answered barrier arrives state =>
      have kept : isPairing system.session.state = true := pairing
      rw [state] at kept
      cases kept
    | rootless => exact bounded.pairing pairing
    | granted admitted =>
      apply bounded.pairing
      rw [(confirmable_iff.mp admitted).2.1]
      rfl
    | sent state =>
      have kept : isPairing system.session.state = true := pairing
      rw [state] at kept
      cases kept

theorem step_over (started : Started system.session)
    (other : resetsWindow input = false) (settled : Over system.session) :
    Over (system.step crypto store input).session := by
  constructor
  · by_contra closed_
    have opened : (system.step crypto store
        input).session.pairingWindowOpen = true := by
      simpa using closed_
    have same := step_window started other opened
    have before : system.session.pairingWindowOpen = true :=
      (congrArg Window.opened same).symm.trans opened
    cases settled.window.symm.trans before
  by_contra contrary
  have pairing : isPairing
      (system.step crypto store input).session.state = true := by
    simpa using contrary
  cases input with
  | storeChange changed => cases settled.pairing.symm.trans pairing
  | event event environment =>
    rcases step_carried started (isPairing_active pairing) with
      ⟨result, _, carried⟩
    generalize (system.step crypto store
      (.event event environment)).session = session at carried pairing
    have physical (state : system.session.state =
        .pairingAwaitingPhysical) : False := by
      have idle := settled.pairing
      rw [state] at idle
      cases idle
    cases carried with
    | stayed frameless stays =>
      rw [stays.state, settled.pairing] at pairing
      cases pairing
    | greeted arrives state greets =>
      cases greets
      cases pairing
    | requested arrives state requests =>
      cases requests with
      | intro deviceNonce request opened =>
        cases settled.window.symm.trans opened
    | entered arrives state enters =>
      cases enters
      cases pairing
    | answered => cases settled.pairing.symm.trans pairing
    | rootless admitted => exact physical (confirmable_iff.mp admitted).2.1
    | granted admitted => exact physical (confirmable_iff.mp admitted).2.1
    | sent => cases settled.pairing.symm.trans pairing

theorem step_quiet {event : Event} {environment : Environment}
    (quiet : isQuiet event = true) :
    ∃ ready idle, (system.step crypto store (.event event environment)).session =
      quietly ready idle system.session event := by
  have run := @wp_quietly σ
    ⟨system.session, system.store, environment, []⟩ (fun _ => False) crypto
    store event quiet
  unfold Kitsu.Lib.Crash.wp at run
  simp only [System.step, System.run]
  cases outcome : event.program crypto store
    ⟨system.session, system.store, environment, []⟩ with
  | done result reached =>
    rw [outcome] at run
    exact run.2
  | cut reached =>
    rw [outcome] at run
    exact run.elim

/-- A loop at or after the deadline ends the window and its pairing for good. -/
theorem over_after_loop {inputs : List (Input σ)}
    (started : Started system.session)
    (bounded : Bounded deadline system.session) (nonzero : deadline ≠ 0)
    (untouched : ∀ input ∈ inputs, resetsWindow input = false)
    (looped : ∃ now environment, .event (.loop now) environment ∈ inputs ∧
        deadlineReached now deadline = true) :
    Over (inputs.foldl (System.step crypto store) system).session := by
  have stays (rest : List (Input σ)) (system : System σ)
      (started : Started system.session) (settled : Over system.session)
      (untouched : ∀ input ∈ rest, resetsWindow input = false) :
      Over (rest.foldl (System.step crypto store) system).session := by
    induction rest generalizing system with
    | nil => exact settled
    | cons input rest induction =>
      apply induction
      · exact step_started input started
      · exact step_over started (untouched input List.mem_cons_self) settled
      · intro other member
        exact untouched other (List.mem_cons_of_mem _ member)
  induction inputs generalizing system with
  | nil =>
    rcases looped with ⟨_, _, member, _⟩
    cases member
  | cons input rest induction =>
    have first := untouched input List.mem_cons_self
    have others : ∀ input ∈ rest, resetsWindow input = false := by
      intro other member
      exact untouched other (List.mem_cons_of_mem _ member)
    rcases looped with ⟨now, environment, member, late⟩
    rcases List.mem_cons.mp member with rfl | later
    · rw [List.foldl_cons]
      apply stays
      · exact step_started _ started
      · rcases @step_quiet σ crypto store system (.loop now) environment
          rfl with ⟨ready, idle, session⟩
        rw [session]
        simp only [quietly]
        split
        · exact looped_over bounded nonzero late
        · rename_i unbegun
          rw [started (by simpa using unbegun)]
          exact initial_over
      · exact others
    · exact induction (step_started input started)
        (step_bounded started first bounded) others
        ⟨now, environment, later, late⟩

end Deadline

/--
The frame arrives after these inputs, at or after the deadline of the window that
was opened last among them; `since` are the inputs behind that window.
-/
def LateFrame (before since : List (Input σ)) (deadline : UInt32)
    (frame : Input σ) : Prop :=
  ∃ earlier opened remaining now role environment json at_ during,
    before = earlier ++
        [.event (.setPairingWindow opened remaining now role)
          environment] ++ since ∧
      windowRequested opened remaining role = true ∧
      deadline = now + remaining ∧
      (∀ input ∈ since, resetsWindow input = false) ∧
      frame = .event (.frame json at_) during ∧
      deadlineReached at_ deadline = true

/-- `loop` was called at or after the deadline, which is not the sentinel. -/
def LoopedLate (since : List (Input σ)) (deadline : UInt32) : Prop :=
  deadline ≠ 0 ∧ ∃ at_ during,
    .event (.loop at_) during ∈ since ∧
      deadlineReached at_ deadline = true

/--
After every run, a frame at or after the deadline of the last window leads to no
commit, provided that `loop` was called between that deadline and the frame.
-/
theorem late_frame_commits_nothing (crypto : CompanionCrypto)
    (store : ControllerStore σ) (stored : σ)
    (before since : List (Input σ)) (deadline : UInt32) (frame : Input σ)
    (late : LateFrame before since deadline frame)
    (looped : LoopedLate since deadline) (commit : PairingCommit) :
    .commitControllerAfterPairing commit ∉
      (after crypto store stored before).calls crypto store frame := by
  intro called
  have state := (commits_by_frame called).state
  rcases looped with ⟨nonzero, looped⟩
  rcases late with ⟨earlier, opened, remaining, now, role, environment, _, _,
    _, rfl, _, rfl, untouched, _⟩
  rcases @step_quiet σ crypto store (after crypto store stored earlier)
    (.setPairingWindow opened remaining now role) environment rfl with
      ⟨ready, idle, session⟩
  rw [← after_concat] at session
  have bounded : Bounded (now + remaining) (after crypto store stored
      (earlier ++ [.event (.setPairingWindow opened remaining now role)
        environment])).session := by
    rw [session]
    exact setWindow_bounded (after_started earlier)
  have settled := @over_after_loop σ crypto store _ _ since
    (after_started _) bounded nonzero untouched looped
  have last : after crypto store stored
      (earlier ++ [.event (.setPairingWindow opened remaining now role)
        environment] ++ since) =
      since.foldl (System.step crypto store) (after crypto store stored
        (earlier ++ [.event (.setPairingWindow opened remaining now role)
          environment])) :=
    exec_append ..
  rw [← last] at settled
  have none_ := settled.pairing
  rw [state] at none_
  cases none_

/-- The confirmed pairing awaits its commit when `loop` meets the deadline. -/
def loopedPairing : List (Input Kitsu.Security.Store.Machine) :=
  confirmedPairing ++ [calmly (.loop 61000)]

/-- The commit with the right proof comes too late, unlike without the `loop`. -/
theorem closed_window_commits_nothing :
    (after maskingCrypto firmwareStore unpairedStore
        confirmedPairing).session.state = .pairingAwaitingCommit ∧
      .commitControllerAfterPairing sampleCommit ∉
        (after maskingCrypto firmwareStore unpairedStore loopedPairing).calls
          maskingCrypto firmwareStore
          (calmly (.frame samplePairCommit 61000)) := by
  refine ⟨by decide +kernel, ?_⟩
  apply late_frame_commits_nothing maskingCrypto firmwareStore unpairedStore
    loopedPairing
    [calmly (.frame samplePairRequest 2000), calmly (.confirmPairing 3000),
      calmly (.loop 61000)] 61000
  · refine ⟨sampleLink 100, true, 60000, 1000, .owner, calmEnvironment,
      samplePairCommit, 61000, calmEnvironment, rfl, rfl, rfl, ?_, rfl, by decide⟩
    intro input member
    simp only [List.mem_cons, List.not_mem_nil, or_false] at member
    rcases member with rfl | rfl | rfl
    · rfl
    · rfl
    · rfl
  · refine ⟨by decide, 61000, calmEnvironment, ?_, by decide⟩
    exact List.mem_cons_of_mem _ (List.mem_cons_of_mem _ List.mem_cons_self)

/-- The pairing is committed a moment after its window has ended. -/
theorem late_commit_stored :
    let last := after maskingCrypto firmwareStore unpairedStore
      confirmedPairing
    deadlineReached 61000 (1000 + 60000) = true ∧
      .commitControllerAfterPairing sampleCommit ∈
        last.calls maskingCrypto firmwareStore
          (calmly (.frame samplePairCommit 61000)) ∧
      (last.step maskingCrypto firmwareStore (calmly (.frame samplePairCommit
          61000))).store.ram.findControllerRoot
            sampleCommit.controllerId =
        some (sampleCommit.pendingRoot, .owner) := by
  decide +kernel

end Kitsu.Ble.Pairing
