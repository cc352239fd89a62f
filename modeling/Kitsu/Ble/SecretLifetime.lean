import Kitsu.Ble.Authentication

/-!
# The lifetime of secrets

The keys of a session live while a client is being authenticated or is
authenticated, the material of a pairing while that pairing is under way.  Every
path out of these states wipes, but one: a secure link that meets an unexpired
back-off only sets the state.
-/

namespace Kitsu.Ble.SecretLifetime

open Kitsu.Lib.ByteString
open Kitsu.Lib.Run
open Kitsu.Lib.WrapClock
open Kitsu.Ble.Session
open Kitsu.Ble.SessionSteps
open Kitsu.Ble.SessionMoves
open Kitsu.Ble.Authentication
open Kitsu.Companion.Envelope

/-- Secrets are held only by the states that need them. -/
structure Wiped (session : KitsuBleSession) : Prop where
  secrets : session.state ≠ .awaitingClientAuth →
    session.state ≠ .authenticated → session.secrets = .cleared
  pending : isPairing session.state = false →
    session.pending = .cleared
  barrier : session.state = .awaitingClientAuth →
    session.secrets.authenticatedRequestBarrier = false

section Wiped

variable {before after : KitsuBleSession}

theorem Wiped.same (wiped : Wiped before) (state : after.state = before.state)
    (secrets : after.secrets = before.secrets)
    (pending : after.pending = before.pending) : Wiped after := by
  constructor
  · rw [state, secrets]
    exact wiped.secrets
  · rw [state, pending]
    exact wiped.pending
  · rw [state, secrets]
    exact wiped.barrier

/-- A session that was wiped may be in any state. -/
theorem Wiped.cleared (secrets : after.secrets = .cleared)
    (pending : after.pending = .cleared) : Wiped after := by
  constructor
  · intro _ _
    exact secrets
  · intro _
    exact pending
  · intro _
    rw [secrets]
    rfl

/-- An inactive session holds nothing. -/
theorem Wiped.inactive (wiped : Wiped before)
    (inactive : isActive before.state = false) :
    before.secrets = .cleared ∧ before.pending = .cleared := by
  constructor
  · apply wiped.secrets
    · intro state
      rw [state] at inactive
      cases inactive
    · intro state
      rw [state] at inactive
      cases inactive
  · apply wiped.pending
    cases state : before.state with
    | pairingAwaitingPhysical =>
      rw [state] at inactive
      cases inactive
    | pairingAwaitingCommit =>
      rw [state] at inactive
      cases inactive
    | _ => rfl

theorem closed_wiped (now : UInt32) (cause : BleCloseCause)
    (session : KitsuBleSession) : Wiped (closed now cause session) :=
  Wiped.cleared rfl rfl

theorem failedProof_wiped (now : UInt32) (session : KitsuBleSession) :
    Wiped (failedProof now session) := by
  unfold failedProof KitsuBleSession.afterProofFailure
    KitsuBleSession.countProofFailure
  split <;> split <;> exact Wiped.cleared rfl rfl

theorem expireWindow_secrets (now : UInt32) (session : KitsuBleSession) :
    (session.expireWindow now).secrets = session.secrets := by
  unfold KitsuBleSession.expireWindow
  split <;> rfl

theorem expireWindow_pending (now : UInt32) (session : KitsuBleSession) :
    (session.expireWindow now).pending = session.pending := by
  unfold KitsuBleSession.expireWindow
  split <;> rfl

theorem expireWindow_wiped (now : UInt32) (wiped : Wiped before) :
    Wiped (before.expireWindow now) :=
  wiped.same (expireWindow_state now before)
    (expireWindow_secrets now before) (expireWindow_pending now before)

theorem dropPairing_wiped (wiped : Wiped before) : Wiped before.dropPairing := by
  unfold KitsuBleSession.dropPairing
  split
  · rename_i pairing
    apply Wiped.cleared
    · apply wiped.secrets
      · intro state
        rw [state] at pairing
        cases pairing
      · intro state
        rw [state] at pairing
        cases pairing
    · rfl
  · exact wiped

theorem looped_wiped (now : UInt32) (idle : Bool) (wiped : Wiped before) :
    Wiped (looped now idle before) := by
  have expired := expireWindow_wiped now wiped
  have loops := looped_loops now idle before
  generalize looped now idle before = session at loops ⊢
  cases loops with
  | waited => exact expired
  | expired cause => exact closed_wiped now cause _
  | cut => exact expired.same rfl rfl rfl
  | ended state =>
    have inactive : isActive (before.expireWindow now).state = false := by
      rw [expireWindow_state, state]
      rfl
    have held := expired.inactive inactive
    exact Wiped.cleared held.1 held.2

end Wiped

/-! ## Steps -/

/--
A secure link that meets an unexpired back-off finds the session without a
client: the only branch that leaves a state without wiping.
-/
def MeetsBackoffIdle {σ : Type} (system : System σ) : Input σ → Prop
  | .event (.secureLink flags now) _ =>
    flags.all = true → system.session.backoffUntil ≠ 0 →
      deadlineReached now system.session.backoffUntil = false →
      isActive system.session.state = false
  | _ => True

section Steps

variable {σ : Type} {crypto : CompanionCrypto} {store : ControllerStore σ}
  {system : System σ} {environment : Environment}

theorem linked_wiped {flags : LinkFlags} {now : UInt32}
    (idle : MeetsBackoffIdle system (.event (.secureLink flags now) environment))
    (wiped : Wiped system.session) : Wiped (linked flags now system.session) := by
  unfold linked
  split
  · exact closed_wiped now _ _
  rename_i secure
  split
  · rename_i waits
    have held := wiped.inactive
      (idle (by simpa using secure) waits.1 (by simpa using waits.2))
    exact Wiped.cleared held.1 held.2
  · exact Wiped.cleared rfl rfl

theorem quietly_wiped {ready idle : Bool} {event : Event}
    (started : Started system.session)
    (allowed : MeetsBackoffIdle system (.event event environment))
    (wiped : Wiped system.session) :
    Wiped (quietly ready idle system.session event) := by
  cases event with
  | begin deviceUid =>
    simp only [quietly]
    split
    · exact wiped
    · rename_i accepted
      have unbegun : system.session.begun = false := by
        simp only [Bool.or_eq_true, not_or] at accepted
        simpa using accepted.2
      have held := wiped.inactive (by rw [started unbegun]; rfl)
      exact Wiped.cleared held.1 held.2
  | secureLink flags now =>
    simp only [quietly]
    split
    · exact linked_wiped allowed wiped
    · exact wiped
  | linkClosed now =>
    simp only [quietly]
    split
    · apply Wiped.cleared
      · exact expireWindow_secrets now _
      · exact expireWindow_pending now _
    · exact wiped
  | setPairingWindow opened remaining now role =>
    simp only [quietly]
    split
    · exact (dropPairing_wiped wiped).same rfl rfl rfl
    · exact wiped
  | loop now =>
    simp only [quietly]
    split
    · exact looped_wiped now idle wiped
    · exact wiped
  | cancelPairing =>
    simp only [quietly]
    split
    · have dropped := dropPairing_wiped wiped
      exact ⟨dropped.secrets, fun _ => rfl, dropped.barrier⟩
    · exact wiped
  | _ => exact wiped

theorem moved_wiped {event : Event} {result : Bool}
    {session : KitsuBleSession} {calls : List Call}
    (moved : Moved crypto store system environment event result session calls)
    (started : Started system.session)
    (allowed : MeetsBackoffIdle system (.event event environment))
    (wiped : Wiped system.session) : Wiped session := by
  cases moved with
  | quiet ready idle quiet => exact quietly_wiped started allowed wiped
  | rejected cause => exact closed_wiped _ cause _
  | late => exact closed_wiped _ _ _
  | ignored => exact wiped
  | failed => exact failedProof_wiped _ _
  | greeted arrives state greets =>
    have held := wiped.inactive (by rw [state]; rfl)
    cases greets
    refine ⟨?_, fun _ => held.2, fun _ => ?_⟩
    · intro other
      exact absurd rfl other
    · simp only [held.1]
      rfl
  | declined arrives state =>
    exact Wiped.cleared (wiped.inactive (by rw [state]; rfl)).1 rfl
  | requested arrives state requests =>
    have held := wiped.inactive (by rw [state]; rfl)
    cases requests
    refine ⟨fun _ _ => held.1, ?_, ?_⟩
    · intro idle
      cases idle
    · intro awaits
      cases awaits
  | entered arrives state enters =>
    have pending := wiped.pending (by rw [state]; rfl)
    cases enters
    refine ⟨?_, fun _ => pending, ?_⟩
    · intro _ other
      exact absurd rfl other
    · intro awaits
      cases awaits
  | enveloped arrives state ends =>
    have pending := wiped.pending (by rw [state]; rfl)
    generalize operations calls = called at ends
    cases ends with
    | violated => exact closed_wiped _ _ _
    | admitted taken finish =>
      cases finish with
      | answered barrier =>
        refine ⟨?_, fun _ => pending, ?_⟩
        · intro _ other
          exact absurd state other
        · intro awaits
          cases state.symm.trans awaits
      | forgotten => exact Wiped.cleared rfl pending
      | unanswered => exact closed_wiped _ _ _
  | committed arrives state checked commits =>
    have secrets := wiped.secrets (by rw [state]; simp)
      (by rw [state]; simp)
    cases commits with
    | stored => exact Wiped.cleared secrets rfl
    | refused => exact failedProof_wiped _ _
    | unencoded => exact closed_wiped _ _ _
    | unanswered => exact closed_wiped _ _ _
  | confirmed confirms =>
    have physical {now : UInt32}
        (admitted : confirmable system.session now = true) :
        system.session.state = .pairingAwaitingPhysical := by
      simp only [confirmable, Bool.and_eq_true, beq_iff_eq] at admitted
      exact admitted.1.1.1.1.1.2
    cases confirms with
    | ignored => exact wiped
    | rootless admitted =>
      exact ⟨wiped.secrets, fun _ => rfl, wiped.barrier⟩
    | abandoned cause => exact closed_wiped _ cause _
    | granted admitted =>
      have secrets := wiped.secrets
        (by rw [physical admitted]; simp)
        (by rw [physical admitted]; simp)
      refine ⟨fun _ _ => secrets, ?_, ?_⟩
      · intro idle
        cases idle
      · intro awaits
        cases awaits
  | unsent => exact wiped
  | sent state =>
    refine ⟨?_, wiped.pending, ?_⟩
    · intro _ other
      exact absurd state other
    · intro awaits
      cases state.symm.trans awaits

theorem step_wiped {input : Input σ} (started : Started system.session)
    (allowed : MeetsBackoffIdle system input) (wiped : Wiped system.session) :
    Wiped (system.step crypto store input).session := by
  cases input with
  | storeChange changed => exact wiped
  | event event environment =>
    rcases @step_cases σ crypto store system event environment with
      ⟨result, _, moved⟩ | ⟨_, session⟩
    · exact moved_wiped moved started allowed wiped
    · rw [session]
      exact Wiped.cleared rfl rfl

end Steps

/-! ## Events behind the barrier -/

section Barrier

variable {σ : Type} (crypto : CompanionCrypto) (store : ControllerStore σ)

/-- A request of the session that is still authenticated was answered. -/
def Answered (stored : σ) (history : List (Input σ)) : Prop :=
  ∃ earlier json now environment later,
    history = earlier ++ [.event (.frame json now) environment] ++ later ∧
      (passed crypto (after crypto store stored earlier)
        (.event (.frame json now) environment)).isSome = true ∧
      Accepted environment.sends
        ((after crypto store stored earlier).calls crypto store
          (.event (.frame json now) environment)) ∧
      Remains crypto store .authenticated
        (after crypto store stored
          (earlier ++ [.event (.frame json now) environment])) later

variable {crypto store} {stored : σ}

theorem Answered.later {history : List (Input σ)} {input : Input σ}
    (answered : Answered crypto store stored history)
    (inside : (after crypto store stored
      (history ++ [input])).session.state = .authenticated) :
    Answered crypto store stored (history ++ [input]) := by
  rcases answered with ⟨earlier, json, now, environment, later, rfl,
    passes, accepted, stays⟩
  refine ⟨earlier, json, now, environment, later ++ [input], ?_, passes,
    accepted, stays.later inside⟩
  rw [List.append_assoc _ later]

/-- The barrier is raised by an answer, in the session it belongs to. -/
def Raised (crypto : CompanionCrypto) (store : ControllerStore σ)
    (stored : σ) (history : List (Input σ)) (session : KitsuBleSession) :
    Prop :=
  session.state = .authenticated →
    session.secrets.authenticatedRequestBarrier = true →
      Answered crypto store stored history

theorem carried_raised {history : List (Input σ)} {event : Event}
    {environment : Environment} {result : Bool}
    (carried : Carried crypto store (after crypto store stored history)
      environment event result (after crypto store stored
        (history ++ [.event event environment])).session
      ((after crypto store stored history).calls crypto store
        (.event event environment)))
    (wiped : Wiped (after crypto store stored history).session)
    (raised : Raised crypto store stored history
      (after crypto store stored history).session) :
    Raised crypto store stored (history ++ [.event event environment])
      (after crypto store stored
        (history ++ [.event event environment])).session := by
  intro inside up
  have later (before : (after crypto store stored history).session.state =
        .authenticated)
      (old : (after crypto store stored
        history).session.secrets.authenticatedRequestBarrier = true) :
      Answered crypto store stored
        (history ++ [.event event environment]) :=
    (raised before old).later inside
  generalize reached : (after crypto store stored
    (history ++ [.event event environment])).session = session
      at carried inside up
  generalize called : (after crypto store stored history).calls crypto store
    (.event event environment) = calls at carried
  cases carried with
  | stayed frameless stays =>
    rw [stays.secrets] at up
    exact later (stays.state.symm.trans inside) up
  | greeted arrives state greets =>
    cases greets
    cases inside
  | requested arrives state requests =>
    cases requests
    cases inside
  | entered arrives state enters =>
    cases enters
    cases (wiped.barrier state).symm.trans up
  | @answered json now _ _ request payload barrier arrives state taken
      source =>
      rcases source with same | accepted
      · exact later state (same.symm.trans up)
      · refine ⟨history, json, now, environment, [], ?_, ?_, ?_, ?_⟩
        · rw [List.append_nil]
        · rw [passed_arrives arrives state, taken]
          rfl
        · rw [called]
          exact accepted
        · change (after crypto store stored _).session.state = _
          rw [reached]
          exact inside
  | rootless admitted =>
    simp only [confirmable, Bool.and_eq_true, beq_iff_eq] at admitted
    cases admitted.1.1.1.1.1.2.symm.trans inside
  | granted => cases inside
  | sent state => exact later state up

/-- The calls of an event show whether it was given to the transport. -/
theorem sendEvent_speaks (system : System σ) (operation payload : Bytes)
    (environment : Environment) :
    Speaks system.session (system.calls crypto store
      (.event (.sendEvent operation payload) environment)) := by
  rcases @step_cases σ crypto store system
    (.sendEvent operation payload) environment with ⟨result, _, moved⟩ |
      ⟨stopped, _⟩
  · generalize system.calls crypto store
      (.event (.sendEvent operation payload) environment) = calls at moved ⊢
    generalize (system.step crypto store
      (.event (.sendEvent operation payload) environment)).session =
        session at moved
    cases moved with
    | quiet _ _ quiet => cases quiet
    | unsent spoken => exact spoken
    | sent state spoken => exact spoken
  · cases stopped

/--
In every run in which no secure link meets an unexpired back-off while a client
is present: a state that needs no keys holds none, a state that needs no
pairing holds none, and an event is given to the transport only by an
authenticated session one of whose requests was answered.
-/
theorem secrets_wiped (crypto : CompanionCrypto)
    (store : ControllerStore σ) (stored : σ) (history : List (Input σ))
    (allowed : Throughout (System.step crypto store) (poweredOn stored)
      MeetsBackoffIdle history) :
    let session := (after crypto store stored history).session
    (session.state ≠ .awaitingClientAuth →
      session.state ≠ .authenticated → session.secrets = .cleared) ∧
    (session.state ≠ .pairingAwaitingPhysical →
      session.state ≠ .pairingAwaitingCommit → session.pending = .cleared) ∧
    ∀ operation payload environment,
      ((after crypto store stored history).calls crypto store
        (.event (.sendEvent operation payload) environment)).filter
          isSend ≠ [] →
      session.state = .authenticated ∧
        Answered crypto store stored history := by
  intro session
  have kept : Wiped session ∧
      Raised crypto store stored history session := by
    refine @after_induction _ crypto store stored
      (fun history system =>
        Throughout (System.step crypto store) (poweredOn stored)
          MeetsBackoffIdle history →
        Wiped system.session ∧
          Raised crypto store stored history system.session)
      ?_ ?_ history allowed
    · intro _
      exact ⟨Wiped.cleared rfl rfl, fun inside => by cases inside⟩
    intro history input induction allowed
    rcases induction allowed.earlier with ⟨wiped, raised⟩
    refine ⟨step_wiped (after_started history) allowed.last wiped, ?_⟩
    intro inside
    cases input with
    | storeChange changed =>
      intro up
      exact (raised inside up).later (by rw [after_concat]; exact inside)
    | event event environment =>
      rcases step_carried (after_started history)
        (by rw [inside]; rfl) with ⟨result, _, carried⟩
      rw [← after_concat] at carried inside ⊢
      exact carried_raised carried wiped raised inside
  rcases kept with ⟨wiped, raised⟩
  refine ⟨wiped.secrets, ?_, ?_⟩
  · intro physical commit
    apply wiped.pending
    simp [isPairing, physical, commit]
  · intro operation payload environment spoken
    rcases sendEvent_speaks (after crypto store stored history) operation
      payload environment with ⟨state, up⟩ | silent
    · exact ⟨state, raised state up⟩
    · exact absurd silent spoken

end Barrier

/-- An authenticated session whose link closes holds nothing. -/
theorem closed_link_wiped :
    let session := (after maskingCrypto
      (deviceStore Kitsu.Security.Store.maskingPlatform) sampleStore
      (sampleGreeting ++ [sampleProof, calmly (.linkClosed 400)])).session
    session.state = .disconnected ∧ session.secrets = .cleared := by
  have allowed : Throughout
      (System.step maskingCrypto
        (deviceStore Kitsu.Security.Store.maskingPlatform))
      (poweredOn sampleStore) MeetsBackoffIdle
      (sampleGreeting ++ [sampleProof, calmly (.linkClosed 400)]) := by
    refine Throughout.cons (by trivial) (Throughout.cons ?_ ?_)
    · intro _ waits
      exact absurd (by decide +kernel) waits
    refine Throughout.cons (by trivial) ?_
    refine Throughout.cons (by trivial) ?_
    refine Throughout.cons (by trivial) ?_
    exact Throughout.nil
  have state : (after maskingCrypto
      (deviceStore Kitsu.Security.Store.maskingPlatform) sampleStore
      (sampleGreeting ++ [sampleProof, calmly (.linkClosed 400)])).session.state =
          .disconnected := by
    decide +kernel
  refine ⟨state, (secrets_wiped _ _ _ _ allowed).1 ?_ ?_⟩
  · rw [state]
    simp
  · rw [state]
    simp

/-- The clock after half a period. -/
def halfPeriod : UInt32 := 2147483648

/--
A violation starts a back-off; on the next link a stray frame lets the client
greet once more, since the deadline zero counts as ahead in this half of the
clock; the link then comes up again.
-/
def greetedInBackoff : List (Input Kitsu.Security.Store.Machine) :=
  sampleLink halfPeriod ++
    [calmly (.frame sampleHello (halfPeriod + 100)),
      calmly (.frame sampleAuth (halfPeriod + 200)),
      calmly (.frame (ascii "x") (halfPeriod + 300)),
      calmly (.linkClosed (halfPeriod + 400)),
      calmly (.secureLink ⟨true, true, true, true⟩ (halfPeriod + 500)),
      calmly (.frame (ascii "x") (halfPeriod + 600)),
      calmly (.frame sampleHello (halfPeriod + 700)),
      calmly (.secureLink ⟨true, true, true, true⟩ (halfPeriod + 800))]

/-- The root of the controller stays in a session that is in back-off. -/
theorem backoff_keeps_root :
    let session := (after maskingCrypto
      (deviceStore Kitsu.Security.Store.maskingPlatform) sampleStore
      greetedInBackoff).session
    session.state = .backoff ∧ session.secrets.controllerKnown = true ∧
      session.secrets.controllerRoot = sampleController.root ∧
      session.secrets.controllerRoot ≠ .zero _ := by
  decide +kernel

end Kitsu.Ble.SecretLifetime
