import Kitsu.Ble.SessionSteps

/-!
# The moves of a session

`Moved` lists what an entry point can do to the session and which operations it
calls, and `Stopped` where it can be cut; `step_cases` says that there is
nothing else.  The theorems about runs use these cases and never unfold a
handler.
-/

namespace Kitsu.Ble.SessionMoves

open Kitsu.Lib.ByteString
open Kitsu.Lib.Crash
open Kitsu.Lib.Run
open Kitsu.Lib.WrapClock
open Kitsu.Ble.Permissions
open Kitsu.Ble.Session
open Kitsu.Ble.SessionSteps
open Kitsu.Companion.Base64Url
open Kitsu.Companion.Envelope
open Kitsu.Companion.Handshake
open Kitsu.Security.Record
open Kitsu.Security.Store (SecurityResult PairingCommit)

variable {σ : Type}

/-! ## The cases of a step -/

section Steps

variable (crypto : CompanionCrypto) (store : ControllerStore σ)

/-- The frame reaches the handler of the session's state. -/
structure Arrives (session : KitsuBleSession) (json : Bytes)
    (now : UInt32) : Prop where
  begun : session.begun = true
  nonempty : json ≠ []
  secure : session.linkSecure = true
  unexpired : handshakeExpired session now = false

/-- How a checked commit leaves the session. -/
inductive Commits (before : KitsuBleSession) (now : UInt32) :
    KitsuBleSession → Prop where
  | stored : Commits before now (completedPairing before)
  | refused : Commits before now (failedProof now before)
  | unencoded : Commits before now (closed now .pairingFailed before)
  | unanswered :
      Commits before now
        (closed now .responseSendFailed (completedPairing before))

/-- Only a session past its barrier gives an event to the transport. -/
def Speaks (session : KitsuBleSession) (calls : List Call) : Prop :=
  session.state = .authenticated ∧
      session.secrets.authenticatedRequestBarrier = true ∨
    calls.filter isSend = []

/-- The session an event leaves, its result and the calls it made. -/
inductive Moved (before : System σ) (environment : Environment) :
    Event → Bool → KitsuBleSession → List Call → Prop where
  | quiet {event : Event} {result : Bool} {calls : List Call}
      (ready idle : Bool) (quiet : isQuiet event = true)
      (silent : operations calls = []) :
      Moved before environment event result (quietly ready idle before.session event)
        calls
  | rejected {json : Bytes} {now : UInt32} {result : Bool}
      {calls : List Call} (cause : BleCloseCause)
      (begun : before.session.begun = true)
      (unusable : json = [] ∨ before.session.linkSecure = false)
      (silent : operations calls = []) :
      Moved before environment (.frame json now) result
        (closed now cause before.session) calls
  | late {json : Bytes} {now : UInt32} {result : Bool} {calls : List Call}
      (expired : handshakeExpired before.session now = true)
      (silent : operations calls = []) :
      Moved before environment (.frame json now) result
        (closed now .handshakeTimeout before.session) calls
  | ignored {json : Bytes} {now : UInt32} {result : Bool}
      {calls : List Call} (arrives : Arrives before.session json now)
      (state : before.session.state = .closing)
      (silent : operations calls = []) :
      Moved before environment (.frame json now) result before.session calls
  | failed {json : Bytes} {now : UInt32} {result : Bool}
      {calls : List Call} {marred : KitsuBleSession}
      (arrives : Arrives before.session json now)
      (open_ : before.session.state ≠ .closing)
      (unauthenticated : before.session.state ≠ .authenticated)
      (touched : Marred before.session marred)
      (silent : operations calls = []) :
      Moved before environment (.frame json now) result (failedProof now marred) calls
  | greeted {json : Bytes} {now : UInt32} {result : Bool}
      {calls : List Call} {after : KitsuBleSession}
      (arrives : Arrives before.session json now)
      (state : before.session.state = .awaitingHello)
      (greets : Greets (store.findControllerRoot before.store)
        before.session json calls after)
      (silent : operations calls = []) :
      Moved before environment (.frame json now) result after calls
  | declined {json : Bytes} {now : UInt32} {result : Bool}
      {calls : List Call} (arrives : Arrives before.session json now)
      (state : before.session.state = .awaitingHello)
      (silent : operations calls = []) :
      Moved before environment (.frame json now) result
        before.session.clearPendingPairing calls
  | requested {json : Bytes} {now : UInt32} {result : Bool}
      {calls : List Call} {after : KitsuBleSession}
      (arrives : Arrives before.session json now)
      (state : before.session.state = .awaitingHello)
      (requests : Requests before.session json now after)
      (silent : operations calls = []) :
      Moved before environment (.frame json now) result after calls
  | entered {json : Bytes} {now : UInt32} {result : Bool}
      {calls : List Call} {after : KitsuBleSession}
      (arrives : Arrives before.session json now)
      (state : before.session.state = .awaitingClientAuth)
      (enters : Enters crypto before.session json after)
      (silent : operations calls = []) :
      Moved before environment (.frame json now) result after calls
  | enveloped {json : Bytes} {now : UInt32} {result handled : Bool}
      {calls : List Call} {after : KitsuBleSession}
      (arrives : Arrives before.session json now)
      (state : before.session.state = .authenticated)
      (ends : EnvelopeEnds crypto environment.sends calls before.session
        json now handled after (operations calls)) :
      Moved before environment (.frame json now) result after calls
  | committed {json : Bytes} {now : UInt32} {result : Bool}
      {calls : List Call} {after : KitsuBleSession}
      (arrives : Arrives before.session json now)
      (state : before.session.state = .pairingAwaitingCommit)
      (checked : CommitChecked crypto before.session json)
      (commits : Commits before.session now after)
      (called : operations calls =
        [.commitControllerAfterPairing before.session.commitment]) :
      Moved before environment (.frame json now) result after calls
  | confirmed {now : UInt32} {result : Bool} {calls : List Call}
      {after : KitsuBleSession}
      (confirms : Confirms before.session now calls result after)
      (silent : operations calls = []) :
      Moved before environment (.confirmPairing now) result after calls
  | unsent {operation payload : Bytes} {result : Bool} {calls : List Call}
      (spoken : Speaks before.session calls)
      (silent : operations calls = []) :
      Moved before environment (.sendEvent operation payload) result before.session
        calls
  | sent {operation payload : Bytes} {result : Bool} {calls : List Call}
      (state : before.session.state = .authenticated)
      (spoken : Speaks before.session calls)
      (silent : operations calls = []) :
      Moved before environment (.sendEvent operation payload) result
        (sentEnvelope before.session) calls

/-- Where a power cut or a crash can stop an event. -/
inductive Stopped (before : System σ) : Event → List Call → Prop where
  | unbegun {json : Bytes} {now : UInt32} {calls : List Call}
      (unbegun : before.session.begun = false)
      (silent : operations calls = []) :
      Stopped before (.frame json now) calls
  | confirming {now : UInt32} {calls : List Call}
      (admitted : confirmable before.session now = true)
      (silent : operations calls = []) :
      Stopped before (.confirmPairing now) calls
  | committing {json : Bytes} {now : UInt32} {calls : List Call}
      (arrives : Arrives before.session json now)
      (state : before.session.state = .pairingAwaitingCommit)
      (checked : CommitChecked crypto before.session json)
      (called : operations calls =
        [.commitControllerAfterPairing before.session.commitment]) :
      Stopped before (.frame json now) calls
  | revoking {json : Bytes} {now : UInt32} {calls : List Call}
      {request : DecodedEnvelope} {payload : Bytes}
      (arrives : Arrives before.session json now)
      (state : before.session.state = .authenticated)
      (taken : admitRequest crypto before.session.secrets json =
        some (request, payload))
      (called : operations calls =
        requestOperations before.session.secrets request payload) :
      Stopped before (.frame json now) calls

end Steps

/-! ## Every event moves or is stopped -/

section Events

variable {crypto : CompanionCrypto} {store : ControllerStore σ}

theorem wp_settleFrame {before : Machine σ} {handled : Bool}
    {now : UInt32} {post : Unit → Machine σ → Prop} {crash : Machine σ → Prop}
    (kept : handled = true ∨ before.session.state = .closing → post () before)
    (failed : handled = false → before.session.state ≠ .closing →
      ∀ after, after.session = failedProof now before.session →
        Quiet before after → post () after) :
    wp (settleFrame handled now) post crash before := by
  simp only [settleFrame, wp_bind, wp_get]
  split
  · rename_i unhandled
    apply wp_failProof
    exact failed (by simpa using unhandled.1) unhandled.2
  · rename_i settled
    apply kept
    simp only [Bool.not_eq_true', not_and_or, ne_eq, not_not,
      Bool.not_eq_false] at settled
    exact settled

variable {system : System σ} {environment : Environment}

theorem wp_frame {json : Bytes} {now : UInt32}
    (arrives : Arrives system.session json now) :
    wp (do
        let handled ← dispatchFrame crypto store json now
        settleFrame handled now)
      (fun _ after => ∀ result, Moved crypto store system environment
        (.frame json now) result after.session after.calls)
      (fun after => Stopped crypto system (.frame json now) after.calls)
      (startOf system environment) := by
  simp only [dispatchFrame, wp_bind, wp_get]
  -- A handler that refuses has touched nothing that the failure keeps.
  have refuse {after : Machine σ}
      (open_ : system.session.state ≠ .closing)
      (unauthenticated : system.session.state ≠ .authenticated)
      (quiet : Quiet (startOf system environment) after)
      (touched : Marred system.session after.session) :
      wp (settleFrame false now)
        (fun _ after => ∀ result, Moved crypto store system environment
          (.frame json now) result after.session after.calls)
        (fun after => Stopped crypto system (.frame json now) after.calls)
        after := by
    apply wp_settleFrame
    · rintro (handled | closing)
      · cases handled
      · exact absurd (touched.state.symm.trans closing) open_
    · intro _ _ final session quiet' result
      rw [session]
      exact .failed arrives open_ unauthenticated touched
        (Quiet.trans quiet quiet').logged.operations
  cases state : system.session.state with
  | awaitingHello =>
    have open_ : system.session.state ≠ .closing := by simp [state]
    have unauthenticated : system.session.state ≠ .authenticated := by
      simp [state]
    rw [startOf_session, state]
    simp only [handleGreeting]
    split
    · exact refuse open_ unauthenticated (Quiet.refl _) (Marred.refl _)
    split
    · refine wp_post wp_handleClientHello ?_
      rintro handled after ⟨quiet, ends⟩
      cases handled with
      | false => exact refuse open_ unauthenticated quiet ends
      | true =>
        apply wp_settleFrame
        · intro _ result
          exact .greeted arrives state ends quiet.logged.operations
        · intro unhandled
          cases unhandled
    split
    · refine wp_post wp_handlePairRequest ?_
      rintro handled after ⟨quiet, ends⟩
      cases handled with
      | false => exact refuse open_ unauthenticated quiet ends
      | true =>
        apply wp_settleFrame
        · intro _ result
          rcases ends with session | requests
          · rw [session]
            exact .declined arrives state quiet.logged.operations
          · exact .requested arrives state requests
              quiet.logged.operations
        · intro unhandled
          cases unhandled
    · exact refuse open_ unauthenticated (Quiet.refl _) (Marred.refl _)
  | awaitingClientAuth =>
    rw [startOf_session, state]
    refine wp_post wp_handleClientAuth ?_
    rintro handled after ⟨quiet, ends⟩
    cases handled with
    | false => exact refuse (by simp [state]) (by simp [state]) quiet ends
    | true =>
      apply wp_settleFrame
      · intro _ result
        exact .entered arrives state ends quiet.logged.operations
      · intro unhandled
        cases unhandled
  | authenticated =>
    rw [startOf_session, state]
    refine wp_mono wp_handleAuthenticatedEnvelope ?_ ?_
    · rintro handled after ⟨called, logged, ends⟩
      rw [← logged.operations] at ends
      apply wp_settleFrame
      · intro _ result
        exact .enveloped arrives state ends
      · intro unhandled open_
        subst unhandled
        exact absurd ends.unhandled open_
    · rintro after ⟨request, payload, taken, logged⟩
      exact .revoking arrives state taken logged.operations
  | pairingAwaitingCommit =>
    rw [startOf_session, state]
    refine wp_mono wp_handlePairCommit ?_ ?_
    · rintro handled after (⟨rfl, quiet, session⟩ |
        ⟨checked, logged, ends⟩)
      · refine refuse (by simp [state]) (by simp [state]) quiet ?_
        rw [session]
        exact Marred.refl _
      · have moved {session : KitsuBleSession} {calls : List Call}
            (commits : Commits system.session now session)
            (called : operations calls = operations after.calls)
            (result : Bool) :
            Moved crypto store system environment (.frame json now) result session
              calls :=
          .committed arrives state checked commits
            (called.trans logged.operations)
        apply wp_settleFrame
        · intro settled result
          refine moved ?_ rfl result
          generalize after.session = session at ends settled
          cases ends with
          | stored => exact .stored
          | refused =>
            rcases settled with handled | closing
            · cases handled
            · have kept : system.session.state = .closing := closing
              rw [state] at kept
              cases kept
          | unencoded => exact .unencoded
          | unanswered => exact .unanswered
        · intro unhandled open_ final session quiet result
          refine moved ?_ quiet.operations result
          rw [session]
          generalize after.session = middle at ends open_
          cases ends with
          | stored => cases unhandled
          | refused => exact .refused
          | unencoded => exact absurd rfl open_
          | unanswered => exact absurd rfl open_
    · rintro after ⟨checked, logged⟩
      exact .committing arrives state checked logged.operations
  | closing =>
    rw [startOf_session, state]
    apply wp_settleFrame
    · intro _ result
      exact .ignored arrives state rfl
    · intro _ open_
      exact absurd state open_
  | pairingAwaitingPhysical =>
    rw [startOf_session, state]
    exact refuse (by simp [state]) (by simp [state]) (Quiet.refl _)
      (Marred.refl _)
  | backoff =>
    rw [startOf_session, state]
    exact refuse (by simp [state]) (by simp [state]) (Quiet.refl _)
      (Marred.refl _)
  | disconnected =>
    rw [startOf_session, state]
    exact refuse (by simp [state]) (by simp [state]) (Quiet.refl _)
      (Marred.refl _)

theorem wp_onFrame {json : Bytes} {now : UInt32} :
    wp (onFrame crypto store json now)
      (fun _ after => ∀ result, Moved crypto store system environment
        (.frame json now) result after.session after.calls)
      (fun after => Stopped crypto system (.frame json now) after.calls)
      (startOf system environment) := by
  simp only [onFrame, wp_bind, wp_get, wp_ite]
  constructor
  · intro unbegun
    exact .unbegun (by simpa using unbegun) rfl
  intro begun
  constructor
  · intro unusable
    apply wp_failAndClose
    intro after session quiet result
    rw [session]
    exact .rejected _ (by simpa using begun) (by simpa using unusable)
      quiet.logged.operations
  intro usable
  constructor
  · intro expired
    apply (silent_sendControlError "timeout").wp
    intro _ second session quiet
    apply wp_failAndClose
    intro after session' quiet' result
    rw [session', session]
    exact .late expired (Quiet.trans quiet quiet').logged.operations
  intro unexpired
  rw [not_or] at usable
  have arrives : Arrives system.session json now :=
    ⟨by simpa using begun, usable.1, by simpa using usable.2,
      by simpa using unexpired⟩
  have run := @wp_frame σ crypto store system environment json now arrives
  rw [wp_bind] at run
  exact run

/-- Whatever an event does is one of the cases. -/
theorem wp_event (event : Event) :
    wp (event.program crypto store)
      (fun result after => Moved crypto store system environment event result
        after.session after.calls)
      (fun after => Stopped crypto system event after.calls)
      (startOf system environment) := by
  cases quiet : isQuiet event with
  | true =>
    refine wp_post (wp_quietly quiet) ?_
    rintro result after ⟨silent, ready, idle, session⟩
    rw [session]
    exact .quiet ready idle quiet silent.logged.operations
  | false =>
    cases event with
    | frame json now =>
      apply wp_procedure
      refine wp_post wp_onFrame ?_
      intro _ after moved
      exact moved true
    | confirmPairing now =>
      refine wp_mono wp_confirmPendingPairing ?_ ?_
      · rintro result after ⟨logged, confirms⟩
        exact .confirmed confirms logged.operations
      · rintro after ⟨logged, admitted⟩
        exact .confirming admitted logged.operations
    | sendEvent operation payload =>
      simp only [Event.program, sendEvent, wp_bind, wp_get]
      split
      · exact .unsent (.inr rfl) rfl
      rename_i raised
      simp only [wp_bind]
      apply wp_randomBytes
      intro drawn second session silent _ _ spoken
      cases drawn with
      | none =>
        simp only [wp_pure]
        rw [session]
        exact .unsent (.inr spoken) silent.logged.operations
      | some requestId =>
        refine wp_post wp_sendAuthenticated ?_
        rintro sent after ⟨silent', spoken', ends⟩
        have called : operations after.calls = [] :=
          (Quiet.trans silent silent').logged.operations
        have speaks : Speaks system.session after.calls := by
          by_cases state : system.session.state = .authenticated
          · exact .inl ⟨state, by simpa using raised⟩
          · rw [session] at spoken'
            exact .inr ((spoken' state).trans spoken)
        cases sent with
        | false =>
          rw [ends, session]
          exact .unsent speaks called
        | true =>
          rcases ends with ⟨state, _, ends⟩
          rw [session] at state
          rw [ends, session]
          exact .sent state speaks called
    | _ => cases quiet

/-- What an entry point returned, unless it was stopped. -/
def returned : Outcome (Machine σ) Bool → Option Bool
  | .done result _ => some result
  | .cut _ => none

/-- A step moves the session, or it is stopped and the session starts anew. -/
theorem step_cases (system : System σ) (event : Event)
    (environment : Environment) :
    (∃ result, returned (system.run crypto store event environment) = some result ∧
      Moved crypto store system environment event result
      (system.step crypto store (.event event environment)).session
      (system.calls crypto store (.event event environment))) ∨
    Stopped crypto system event
        (system.calls crypto store (.event event environment)) ∧
      (system.step crypto store (.event event environment)).session =
        .initial := by
  have run := @wp_event σ crypto store system environment event
  unfold wp startOf at run
  simp only [System.step, System.calls, System.run]
  cases outcome : event.program crypto store
    ⟨system.session, system.store, environment, []⟩ with
  | done result after =>
    rw [outcome] at run
    exact .inl ⟨result, rfl, run⟩
  | cut after =>
    rw [outcome] at run
    exact .inr ⟨run, rfl⟩

end Events

/-! ## Sessions that have begun -/

/-- A session that has not begun is as it was constructed. -/
def Started (session : KitsuBleSession) : Prop :=
  session.begun = false → session = .initial

section Started

variable {crypto : CompanionCrypto} {store : ControllerStore σ}
  {system : System σ}

theorem Started.begun {session : KitsuBleSession}
    (started : Started session) (state : session.state ≠ .disconnected) :
    session.begun = true := by
  by_contra unbegun
  apply state
  rw [started (by simpa using unbegun)]
  rfl

@[simp]
theorem expireWindow_state (now : UInt32) (session : KitsuBleSession) :
    (session.expireWindow now).state = session.state := by
  unfold KitsuBleSession.expireWindow
  split <;> rfl

@[simp]
theorem expireWindow_begun (now : UInt32) (session : KitsuBleSession) :
    (session.expireWindow now).begun = session.begun := by
  unfold KitsuBleSession.expireWindow
  split <;> rfl

@[simp]
theorem looped_begun (now : UInt32) (idle : Bool) (session : KitsuBleSession) :
    (looped now idle session).begun = session.begun := by
  have ended (other : KitsuBleSession) :
      (other.endBackoff now).begun = other.begun := by
    unfold KitsuBleSession.endBackoff
    split <;> rfl
  have cut (other : KitsuBleSession) :
      (cutLink now idle other).begun = other.begun := by
    unfold cutLink
    split <;> rfl
  have timed (other : KitsuBleSession) :
      (timedOut now other).begun = other.begun := by
    unfold timedOut
    split <;> rfl
  simp only [looped, ended, cut, timed, expireWindow_begun]

@[simp]
theorem linked_begun (flags : LinkFlags) (now : UInt32)
    (session : KitsuBleSession) :
    (linked flags now session).begun = session.begun := by
  unfold linked
  split
  · rfl
  · split <;> rfl

@[simp]
theorem dropPairing_begun (session : KitsuBleSession) :
    session.dropPairing.begun = session.begun := by
  unfold KitsuBleSession.dropPairing
  split <;> rfl

theorem quietly_started {ready idle : Bool} {session : KitsuBleSession}
    (event : Event) (started : Started session) :
    Started (quietly ready idle session event) := by
  cases begun : session.begun with
  | false =>
    cases event with
    | begin deviceUid =>
      simp only [quietly]
      split
      · exact started
      · intro contrary
        cases contrary
    | _ => simpa [quietly, begun] using started
  | true =>
    intro unbegun
    cases event <;>
      simp [quietly, begun, KitsuBleSession.clearPendingPairing,
        KitsuBleSession.clearSessionSecrets, KitsuBleSession.unlinked,
        KitsuBleSession.setWindow] at unbegun

@[simp]
theorem closed_begun (now : UInt32) (cause : BleCloseCause)
    (session : KitsuBleSession) :
    (closed now cause session).begun = session.begun :=
  rfl

theorem failedProof_begun (now : UInt32) (session : KitsuBleSession) :
    (failedProof now session).begun = session.begun := by
  unfold failedProof KitsuBleSession.afterProofFailure
    KitsuBleSession.countProofFailure
  split <;> split <;> rfl

/-- Only a session that has begun leaves its first state. -/
theorem Moved.started {event : Event} {result : Bool}
    {after : KitsuBleSession} {calls : List Call}
    (moved : Moved crypto store system environment event result after calls)
    (started : Started system.session) : Started after := by
  have unbegun {session : KitsuBleSession}
      (begun : session.begun = true) : Started session := by
    intro contrary
    rw [begun] at contrary
    cases contrary
  cases moved with
  | quiet ready idle => exact quietly_started event started
  | rejected cause begun => exact unbegun begun
  | late expired =>
    refine unbegun (started.begun ?_)
    intro state
    simp [handshakeExpired, state] at expired
  | ignored => exact started
  | @failed _ _ _ _ marred arrives open_ unauthenticated touched =>
    rcases touched with ⟨_, _, _, _, rfl⟩
    apply unbegun
    rw [failedProof_begun]
    exact arrives.begun
  | greeted arrives state greets =>
    cases greets
    exact unbegun arrives.begun
  | declined arrives => exact unbegun arrives.begun
  | requested arrives state requests =>
    cases requests
    exact unbegun arrives.begun
  | entered arrives state enters =>
    cases enters
    exact unbegun arrives.begun
  | enveloped arrives state ends =>
    apply unbegun
    generalize operations calls = called at ends
    cases ends with
    | violated =>
      rw [closed_begun]
      exact arrives.begun
    | admitted _ finish =>
      cases finish with
      | _ => exact arrives.begun
  | committed arrives state checked commits =>
    apply unbegun
    cases commits with
    | refused =>
      rw [failedProof_begun]
      exact arrives.begun
    | _ => exact arrives.begun
  | confirmed confirms =>
    have begun {session : KitsuBleSession} {now : UInt32}
        (admitted : confirmable session now = true) :
        session.begun = true := by
      simp only [confirmable, Bool.and_eq_true] at admitted
      exact admitted.1.1.1.1.1.1
    cases confirms with
    | ignored => exact started
    | rootless admitted | abandoned _ admitted | granted admitted =>
      have kept := begun admitted
      exact unbegun kept
  | unsent => exact started
  | sent state =>
    refine unbegun (started.begun ?_)
    rw [state]
    simp

theorem step_started (input : Input σ) (started : Started system.session) :
    Started (system.step crypto store input).session := by
  cases input with
  | storeChange changed => exact started
  | event event environment =>
    rcases @step_cases σ crypto store system event environment with
      ⟨result, _, moved⟩ | ⟨_, session⟩
    · exact moved.started started
    · rw [session]
      intro _
      rfl

end Started

/-! ## Waiting -/

/-- What `loop` makes of a session. -/
inductive Loops (before : KitsuBleSession) (now : UInt32) :
    KitsuBleSession → Prop where
  | waited
      (unexpired : stateExpired (before.expireWindow now) now = false) :
      Loops before now (before.expireWindow now)
  | expired (cause : BleCloseCause)
      (expired : stateExpired (before.expireWindow now) now = true) :
      Loops before now (closed now cause (before.expireWindow now))
  | cut (state : before.state = .closing) :
      Loops before now
        { before.expireWindow now with
          closeAt := 0
          closeAfterTransmit := false }
  | ended (state : before.state = .backoff)
      (reached :
        deadlineReached now (before.expireWindow now).backoffUntil = true) :
      Loops before now
        { before.expireWindow now with
          backoffUntil := 0
          state := .disconnected }

/-- The link of a session that has just closed is kept for a moment. -/
theorem closeDue_closed (now : UInt32) (idle : Bool)
    (cause : BleCloseCause) (session : KitsuBleSession) :
    closeDue (closed now cause session) now idle = false := by
  have ahead : deadlineReached now (now + kCloseDelayMs) = false := by
    apply deadlineReached_ahead <;> decide
  simp [closeDue, closed, KitsuBleSession.startClosing, ahead]

theorem looped_loops (now : UInt32) (idle : Bool) (session : KitsuBleSession) :
    Loops session now (looped now idle session) := by
  have state := expireWindow_state now session
  have moved := @Loops.expired session now
  have kept := @Loops.waited session now
  have ended := @Loops.ended session now
  have cut := @Loops.cut session now
  unfold looped
  generalize session.expireWindow now = opened at state moved kept ended cut ⊢
  unfold timedOut
  split
  · rename_i expired
    rw [cutLink, closeDue_closed, if_neg Bool.false_ne_true,
      KitsuBleSession.endBackoff, if_neg]
    · exact moved _ expired
    · rintro ⟨closing, _⟩
      cases closing
  rename_i unexpired
  have waits := kept (by simpa using unexpired)
  unfold cutLink
  split
  · rename_i due
    have closing : opened.state = .closing := by
      simp only [closeDue, Bool.and_eq_true, beq_iff_eq] at due
      exact due.1
    rw [KitsuBleSession.endBackoff, if_neg]
    · exact cut (state.symm.trans closing)
    · rintro ⟨other, _⟩
      rw [closing] at other
      cases other
  · unfold KitsuBleSession.endBackoff
    split
    · rename_i elapsed
      exact ended (state.symm.trans elapsed.1) elapsed.2.2
    · exact waits

/-- A client is past its first frame. -/
def isActive : BleSessionState → Bool
  | .awaitingClientAuth | .authenticated => true
  | .pairingAwaitingPhysical | .pairingAwaitingCommit => true
  | _ => false

/-- The calls that begin or end a link. -/
def isLinkEvent : Event → Bool
  | .secureLink _ _ | .linkClosed _ => true
  | _ => false

/-- The events that end a pairing which is under way. -/
def isWindowEvent : Event → Bool
  | .setPairingWindow _ _ _ _ | .cancelPairing => true
  | _ => false

/-- The facts of the session's link. -/
def linkOf (session : KitsuBleSession) : LinkFlags where
  secureConnections := session.secureConnections
  encrypted := session.linkEncrypted
  authenticated := session.linkAuthenticated
  bonded := session.linkBonded

/-- The event leaves an active session active. -/
structure Stays (event : Event) (before after : KitsuBleSession) :
    Prop where
  unlinked : isLinkEvent event = false
  state : after.state = before.state
  secrets : after.secrets = before.secrets
  link : linkOf after = linkOf before
  deadline : after.stateDeadline = before.stateDeadline
  pairing : isPairing before.state = true →
    isWindowEvent event = false ∧ after.pending = before.pending ∧
      after.deviceUid = before.deviceUid

variable {event : Event}

theorem Stays.refl (session : KitsuBleSession)
    (unlinked : isLinkEvent event = false)
    (unpaired : isWindowEvent event = false) : Stays event session session :=
  ⟨unlinked, rfl, rfl, rfl, rfl, fun _ => ⟨unpaired, rfl, rfl⟩⟩

section Waiting

variable {session : KitsuBleSession} {ready idle : Bool}

theorem expireWindow_stays (now : UInt32) :
    Stays (.loop now) session (session.expireWindow now) := by
  unfold KitsuBleSession.expireWindow
  split <;> exact ⟨rfl, rfl, rfl, rfl, rfl, fun _ => ⟨rfl, rfl, rfl⟩⟩

theorem looped_stays {now : UInt32}
    (active : isActive (looped now idle session).state = true) :
    looped now idle session = session.expireWindow now := by
  have loops := looped_loops now idle session
  generalize looped now idle session = after at loops active ⊢
  cases loops with
  | waited => rfl
  | expired => cases active
  | cut state =>
    simp only [expireWindow_state, state] at active
    cases active
  | ended => cases active

theorem linked_inactive (flags : LinkFlags) (now : UInt32) :
    isActive (linked flags now session).state = false := by
  unfold linked
  split
  · rfl
  · split <;> rfl

theorem unlinked_inactive (other : KitsuBleSession) :
    isActive other.unlinked.state = false := by
  simp only [KitsuBleSession.unlinked]
  split <;> rfl

theorem dropPairing_inactive (pairing : isPairing session.state = true) :
    session.dropPairing.state = .awaitingHello := by
  simp [KitsuBleSession.dropPairing, pairing]

theorem dropPairing_eq (idle : isPairing session.state = false) :
    session.dropPairing = session := by
  simp [KitsuBleSession.dropPairing, idle]

theorem quietly_unbegun (event : Event) (started : Started session)
    (unbegun : session.begun = false) :
    (quietly ready idle session event).state = .disconnected := by
  have state : session.state = .disconnected := by
    rw [started unbegun]
    rfl
  cases event with
  | begin deviceUid =>
    simp only [quietly]
    split
    · exact state
    · rfl
  | _ => simpa [quietly, unbegun] using state

/-- A quiet event leaves an active session alone or ends it. -/
theorem quietly_stays (started : Started session) (quiet : isQuiet event = true)
    (active : isActive (quietly ready idle session event).state = true) :
    Stays event session (quietly ready idle session event) := by
  cases begun : session.begun with
  | false =>
    rw [quietly_unbegun event started begun] at active
    cases active
  | true =>
    -- A pairing that is dropped awaits a greeting.
    have unpaired {after : KitsuBleSession}
        (state : after.state = session.dropPairing.state)
        (active : isActive after.state = true) :
        isPairing session.state = false := by
      by_contra pairing
      rw [state, dropPairing_inactive (by simpa using pairing)] at active
      cases active
    cases event with
    | begin deviceUid =>
      simp only [quietly, begun, Bool.or_true, if_true]
      exact Stays.refl session rfl rfl
    | secureLink flags now =>
      simp only [quietly, begun, if_true, linked_inactive] at active
      cases active
    | linkClosed now =>
      simp only [quietly, begun, if_true, unlinked_inactive] at active
      cases active
    | setPairingWindow opened remaining now role =>
      simp only [quietly, begun, if_true] at active ⊢
      have idle := unpaired rfl active
      rw [dropPairing_eq idle]
      refine ⟨rfl, rfl, rfl, rfl, rfl, ?_⟩
      intro pairing
      rw [idle] at pairing
      cases pairing
    | loop now =>
      simp only [quietly, begun, if_true] at active ⊢
      rw [looped_stays active]
      exact expireWindow_stays now
    | cancelPairing =>
      simp only [quietly, begun, if_true] at active ⊢
      have idle := unpaired rfl active
      rw [dropPairing_eq idle]
      refine ⟨rfl, rfl, rfl, rfl, rfl, ?_⟩
      intro pairing
      rw [idle] at pairing
      cases pairing
    | _ => cases quiet

theorem failedProof_inactive (now : UInt32) :
    isActive (failedProof now session).state = false := by
  unfold failedProof KitsuBleSession.afterProofFailure
  split <;> rfl

end Waiting

/-- The calls that bring a frame. -/
def isFrame : Event → Bool
  | .frame _ _ => true
  | _ => false

/-- The moves that leave the session active. -/
inductive Carried (crypto : CompanionCrypto) (store : ControllerStore σ)
    (before : System σ) (environment : Environment) :
    Event → Bool → KitsuBleSession → List Call → Prop where
  | stayed {event : Event} {result : Bool} {calls : List Call}
      {after : KitsuBleSession} (frameless : isFrame event = false)
      (stays : Stays event before.session after) :
      Carried crypto store before environment event result after calls
  | greeted {json : Bytes} {now : UInt32} {result : Bool}
      {calls : List Call} {after : KitsuBleSession}
      (arrives : Arrives before.session json now)
      (state : before.session.state = .awaitingHello)
      (greets : Greets (store.findControllerRoot before.store)
        before.session json calls after) :
      Carried crypto store before environment (.frame json now)
        result after calls
  | requested {json : Bytes} {now : UInt32} {result : Bool}
      {calls : List Call} {after : KitsuBleSession}
      (arrives : Arrives before.session json now)
      (state : before.session.state = .awaitingHello)
      (requests : Requests before.session json now after) :
      Carried crypto store before environment (.frame json now)
        result after calls
  | entered {json : Bytes} {now : UInt32} {result : Bool}
      {calls : List Call} {after : KitsuBleSession}
      (arrives : Arrives before.session json now)
      (state : before.session.state = .awaitingClientAuth)
      (enters : Enters crypto before.session json after) :
      Carried crypto store before environment (.frame json now)
        result after calls
  | answered {json : Bytes} {now : UInt32} {result : Bool}
      {calls : List Call} {request : DecodedEnvelope} {payload : Bytes}
      (barrier : Bool) (arrives : Arrives before.session json now)
      (state : before.session.state = .authenticated)
      (taken : admitRequest crypto before.session.secrets json =
        some (request, payload))
      (raised : barrier = before.session.secrets.authenticatedRequestBarrier ∨
        Accepted environment.sends calls) :
      Carried crypto store before environment (.frame json now)
        result
        (served barrier before.session) calls
  | rootless {now : UInt32} {calls : List Call}
      (admitted : confirmable before.session now = true) :
      Carried crypto store before environment (.confirmPairing now) false
        before.session.clearPendingPairing calls
  | granted {now : UInt32} {calls : List Call} {controllerId : Nonce}
      {root : Key} (admitted : confirmable before.session now = true)
      (generated : .generatePendingControllerRoot .ok root ∈ calls)
      (drawn : .randomBytes controllerId.bytes ∈ calls) :
      Carried crypto store before environment (.confirmPairing now) true
        { before.session with
          pending :=
            { before.session.pending with
              controllerId
              controllerRoot := root }
          state := .pairingAwaitingCommit } calls
  | sent {operation payload : Bytes} {result : Bool} {calls : List Call}
      (state : before.session.state = .authenticated) :
      Carried crypto store before environment
        (.sendEvent operation payload) result
        (sentEnvelope before.session) calls

/-- Every move to an active session is one of these. -/
theorem Moved.carried {crypto : CompanionCrypto} {store : ControllerStore σ}
    {system : System σ} {environment : Environment} {result : Bool}
    {after : KitsuBleSession} {calls : List Call}
    (moved : Moved crypto store system environment event result after calls)
    (started : Started system.session) (active : isActive after.state = true) :
    Carried crypto store system environment event result after calls := by
  cases moved with
  | quiet ready idle quiet =>
    refine .stayed ?_ (quietly_stays started quiet active)
    cases event with
    | frame => cases quiet
    | _ => rfl
  | rejected => cases active
  | late => cases active
  | ignored arrives state =>
    rw [state] at active
    cases active
  | failed =>
    rw [failedProof_inactive] at active
    cases active
  | greeted arrives state greets => exact .greeted arrives state greets
  | declined arrives state =>
    have hello : isActive system.session.state = true := active
    rw [state] at hello
    cases hello
  | requested arrives state requests =>
    exact .requested arrives state requests
  | entered arrives state enters => exact .entered arrives state enters
  | enveloped arrives state ends =>
    generalize operations calls = called at ends
    cases ends with
    | violated => cases active
    | admitted taken finish =>
      cases finish with
      | answered barrier raised =>
        exact .answered barrier arrives state taken raised
      | forgotten => cases active
      | unanswered => cases active
  | committed arrives state checked commits =>
    cases commits with
    | refused =>
      rw [failedProof_inactive] at active
      cases active
    | _ => cases active
  | confirmed confirms =>
    cases confirms with
    | ignored => exact .stayed rfl (Stays.refl _ rfl rfl)
    | rootless admitted => exact .rootless admitted
    | abandoned => cases active
    | granted admitted generated drawn =>
      exact .granted admitted generated drawn
  | unsent => exact .stayed rfl (Stays.refl _ rfl rfl)
  | sent state => exact .sent state

/-- A step to an active session is one of these, or others used the store. -/
theorem step_carried {crypto : CompanionCrypto} {store : ControllerStore σ}
    {system : System σ} {environment : Environment}
    (started : Started system.session) (active : isActive (system.step crypto store
      (.event event environment)).session.state = true) :
    ∃ result, returned (system.run crypto store event environment) =
        some result ∧
      Carried crypto store system environment event result
      (system.step crypto store (.event event environment)).session
      (system.calls crypto store (.event event environment)) := by
  rcases @step_cases σ crypto store system event environment with
    ⟨result, done_, moved⟩ | ⟨_, session⟩
  · exact ⟨result, done_, moved.carried started active⟩
  · rw [session] at active
    cases active

/-- The session is in the state before the inputs and after each of them. -/
def Remains (crypto : CompanionCrypto) (store : ControllerStore σ)
    (state : BleSessionState) (system : System σ) : List (Input σ) → Prop
  | [] => system.session.state = state
  | input :: later =>
    system.session.state = state ∧
      Remains crypto store state (system.step crypto store input) later

section Remains

variable {crypto : CompanionCrypto} {store : ControllerStore σ}
  {state : BleSessionState} {system : System σ}

theorem Remains.first {inputs : List (Input σ)}
    (remains : Remains crypto store state system inputs) :
    system.session.state = state := by
  cases inputs with
  | nil => exact remains
  | cons => exact remains.1

theorem Remains.concat {inputs : List (Input σ)} {input : Input σ}
    (remains : Remains crypto store state system inputs)
    (last : ((inputs ++ [input]).foldl (System.step crypto store)
      system).session.state = state) :
    Remains crypto store state system (inputs ++ [input]) := by
  induction inputs generalizing system with
  | nil => exact ⟨remains, last⟩
  | cons first rest induction => exact ⟨remains.1, induction remains.2 last⟩

end Remains

/-! ## Runs -/

section Runs

variable (crypto : CompanionCrypto) (store : ControllerStore σ)

/-- A session that was just constructed, over some store. -/
def poweredOn (stored : σ) : System σ :=
  ⟨.initial, stored⟩

/-- The system after a history of inputs. -/
def after (stored : σ) (history : List (Input σ)) : System σ :=
  exec (System.step crypto store) (poweredOn stored) history

variable {crypto store} {stored : σ}

@[simp]
theorem after_concat (history : List (Input σ)) (input : Input σ) :
    after crypto store stored (history ++ [input]) =
      (after crypto store stored history).step crypto store input :=
  exec_concat ..

/-- A stretch of a run that remained in a state is prolonged by an input. -/
theorem Remains.later {earlier during : List (Input σ)} {input : Input σ}
    {state : BleSessionState} (remains : Remains crypto store state
      (after crypto store stored earlier) during)
    (last : (after crypto store stored
      (earlier ++ during ++ [input])).session.state = state) :
    Remains crypto store state (after crypto store stored earlier)
      (during ++ [input]) := by
  apply remains.concat
  rw [List.append_assoc] at last
  unfold after at last ⊢
  rw [exec_append] at last
  exact last

/-- What holds of a new session and is kept by every step holds in every run. -/
theorem after_induction {Holds : List (Input σ) → System σ → Prop}
    (initially : Holds [] (poweredOn stored)) (preserved : ∀ history input,
      Holds history (after crypto store stored history) →
        Holds (history ++ [input])
          ((after crypto store stored history).step crypto store input))
    (history : List (Input σ)) :
    Holds history (after crypto store stored history) :=
  exec_induction initially preserved history

theorem after_started (history : List (Input σ)) :
    Started (after crypto store stored history).session := by
  refine @after_induction _ crypto store stored
    (fun _ system => Started system.session) ?_ ?_ history
  · intro _
    rfl
  · intro history input started
    exact step_started input started

end Runs

/-! ## A client that can be run -/

/-- Primitives that mask; they are used on concrete runs only. -/
def maskingCrypto : CompanionCrypto where
  sha256 message := some (.front _ message)
  hmacSha256 key message :=
    some (.front _ (List.zipWith (· ^^^ ·) key.bytes message.reverse))
  hkdfSha256 key salt _ :=
    some (.front _ (List.zipWith (· + ·) key.bytes salt))

/-- The controller of the sample runs. -/
def sampleController : Controller where
  valid := true
  role := .owner
  id := .replicate _ 7
  root := .replicate _ 9

/-- A begun store that knows the controller. -/
def sampleStore : Kitsu.Security.Store.Machine where
  ram :=
    { Kitsu.Security.Store.Ram.cleared with
      begun := true
      controllerCount := 1
      material :=
        { Material.zeroed with
          controllers :=
            ⟨sampleController ::
              List.replicate (kKitsuControllerCapacity - 1) .zeroed, rfl⟩ } }
  slots := fun _ => []
  storage := []
  random := []

def sampleDeviceUid : ByteVec 7 :=
  ⟨ascii "KT00A1" ++ [0], rfl⟩

/-- Every send succeeds and the random bytes are all alike. -/
def calmEnvironment : Environment where
  random := List.replicate 4 (some fun _ => 0x22)
  sends := []
  flags := []
  transmitIdle := true
  respond := fun _ _ _ => some (ascii "\x7b\x7d")

def sampleClientNonce : Nonce :=
  .replicate _ 0x11

/-- The nonce that the calm environment draws. -/
def sampleDeviceNonce : Nonce :=
  .replicate _ 0x22

/-- A string field behind another one. -/
def textField (name : String) (value : Bytes) : Bytes :=
  ascii ",\"" ++ ascii name ++ ascii "\":\"" ++ value ++ ascii "\""

def controlFrame (kind : String) (fields : Bytes) : Bytes :=
  ascii "\x7b\"v\":1,\"type\":\"" ++ ascii kind ++ ascii "\"" ++ fields ++
    ascii "\x7d"

/-- The greeting of a phone. -/
def sampleHello : Bytes :=
  controlFrame "client_hello"
    (textField "controller_id_b64" (encodeGroups sampleController.id.bytes) ++
      textField "client_nonce_b64" (encodeGroups sampleClientNonce.bytes))

/-- The proof of that phone. -/
def sampleAuth : Bytes :=
  controlFrame "client_auth" (textField "proof_b64"
    (((makeHandshakeProof maskingCrypto sampleController.root .client
      sampleController.id sampleClientNonce sampleDeviceNonce).map
        fun proof => encodeGroups proof.bytes).getD []))

/-- Entry points are called on the calm environment. -/
def calmly (event : Event) : Input Kitsu.Security.Store.Machine :=
  .event event calmEnvironment

/-- The device is begun and a secure link comes up. -/
def sampleLink (now : UInt32) : List (Input Kitsu.Security.Store.Machine) :=
  [calmly (.begin sampleDeviceUid),
    calmly (.secureLink ⟨true, true, true, true⟩ now)]

end Kitsu.Ble.SessionMoves
