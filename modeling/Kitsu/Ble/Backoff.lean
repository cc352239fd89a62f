import Kitsu.Ble.Authentication

/-!
# Authentication back-off

A third failed proof in a row and a protocol violation start a back-off of half
a minute, in which no client is to be authenticated.  The back-off is kept in
three members: its end, the state, and the deadline of the handshake, where
zero stands for none.
-/

namespace Kitsu.Ble.Backoff

open Kitsu.Lib.ByteString
open Kitsu.Lib.Run
open Kitsu.Lib.WrapClock
open Kitsu.Ble.Session
open Kitsu.Ble.SessionSteps
open Kitsu.Ble.SessionMoves
open Kitsu.Companion.Envelope

variable {σ : Type} {crypto : CompanionCrypto} {store : ControllerStore σ}

/--
The frame at this time fails after two failures in a row, or it is a violation
by an authenticated client.
-/
def StartsBackoff (crypto : CompanionCrypto) (store : ControllerStore σ)
    (system : System σ) (input : Input σ) (start : UInt32) : Prop :=
  ∃ json environment, input = .event (.frame json start) environment ∧
    (2 ≤ system.session.proofFailures ∧
        (∃ failing, failing.proofFailures = system.session.proofFailures ∧
          (system.step crypto store input).session = failedProof start failing) ∨
      system.session.state = .authenticated ∧ Arrives system.session json start ∧
        admitRequest crypto system.session.secrets json = none)

/-- The time at which an input is processed. -/
def timeOf : Input σ → Option UInt32
  | .event (.secureLink _ now) _ | .event (.linkClosed now) _
  | .event (.setPairingWindow _ _ now _) _ | .event (.frame _ now) _
  | .event (.loop now) _ | .event (.confirmPairing now) _ => some now
  | _ => none

/--
The clock is not at one of the values that the sentinel zero confuses: a
back-off does not end at zero, and a frame that meets a greeting without a
deadline comes in the first half of the clock's period.
-/
def ClockAllows (system : System σ) : Input σ → Prop
  | .event (.frame _ now) _ =>
    (2 ≤ system.session.proofFailures ∨ system.session.state = .authenticated →
        now + kBleControllerBackoffMs ≠ 0) ∧
    (system.session.state = .awaitingHello →
      system.session.stateDeadline = 0 → deadlineReached now 0 = true)
  | _ => True

/-- The session is in the back-off that began at `start`. -/
structure Blocked (start : UInt32) (session : KitsuBleSession) : Prop where
  begun : session.begun = true
  ends : ∃ latest, Within start kBleControllerBackoffMs.toNat latest ∧
    session.backoffUntil = latest + kBleControllerBackoffMs
  pending : session.backoffUntil ≠ 0
  state :
    (session.state = .closing ∨ session.state = .backoff) ∧
        (kBleMaximumProofFailures ≤ session.proofFailures ∨
          session.stateDeadline = 0) ∨
      session.state = .awaitingHello ∧ session.stateDeadline = 0

section Blocked

variable {start now : UInt32} {session after : KitsuBleSession}

theorem Blocked.inactive (blocked : Blocked start session) :
    isActive session.state = false := by
  rcases blocked.state with ⟨closing | backoff, _⟩ | ⟨hello, _⟩
  · rw [closing]
    rfl
  · rw [backoff]
    rfl
  · rw [hello]
    rfl

/-- An active session is not in a back-off. -/
theorem Blocked.absurd_active {goal : Prop} (blocked : Blocked start session)
    (active : isActive session.state = true) : goal := by
  rw [blocked.inactive] at active
  cases active

theorem Blocked.unended (blocked : Blocked start session)
    (during : Within start kBleControllerBackoffMs.toNat now) :
    deadlineReached now session.backoffUntil = false := by
  rcases blocked.ends with ⟨latest, before, equal⟩
  rw [equal]
  exact deadlineReached_within (by decide) before during

/-- What the back-off rests on is kept. -/
theorem Blocked.same (blocked : Blocked start session)
    (begun : after.begun = session.begun)
    (ends : after.backoffUntil = session.backoffUntil)
    (failures : after.proofFailures = session.proofFailures)
    (deadline : after.stateDeadline = session.stateDeadline)
    (state : after.state = session.state) : Blocked start after := by
  rcases blocked with ⟨begun', ends', pending, state'⟩
  constructor
  · rw [begun]
    exact begun'
  · rw [ends]
    exact ends'
  · rw [ends]
    exact pending
  · rw [state, failures, deadline]
    exact state'

/-- The session closes or falls back to the back-off. -/
theorem Blocked.shut (blocked : Blocked start session)
    (begun : after.begun = session.begun)
    (ends : after.backoffUntil = session.backoffUntil)
    (failures : after.proofFailures = session.proofFailures)
    (deadline : after.stateDeadline = session.stateDeadline ∨
      after.stateDeadline = 0)
    (state : after.state = .closing ∨ after.state = .backoff) :
    Blocked start after := by
  have bound : kBleMaximumProofFailures ≤ after.proofFailures ∨
      after.stateDeadline = 0 := by
    rcases deadline with same | zero
    · rcases blocked.state with ⟨_, many | zero⟩ | ⟨_, zero⟩
      · rw [failures]
        exact .inl many
      · exact .inr (same.trans zero)
      · exact .inr (same.trans zero)
    · exact .inr zero
  rcases blocked with ⟨begun', ends', pending, _⟩
  constructor
  · rw [begun]
    exact begun'
  · rw [ends]
    exact ends'
  · rw [ends]
    exact pending
  · exact .inl ⟨state, bound⟩

theorem Blocked.closed (blocked : Blocked start session) (now : UInt32)
    (cause : BleCloseCause) : Blocked start (closed now cause session) :=
  blocked.shut rfl rfl rfl (.inl rfl) (.inl rfl)

/-- The members of the back-off that a window does not touch. -/
theorem expireWindow_backoff (now : UInt32) (session : KitsuBleSession) :
    (session.expireWindow now).begun = session.begun ∧
      (session.expireWindow now).backoffUntil = session.backoffUntil ∧
      (session.expireWindow now).proofFailures = session.proofFailures ∧
      (session.expireWindow now).stateDeadline = session.stateDeadline ∧
      (session.expireWindow now).state = session.state := by
  unfold KitsuBleSession.expireWindow
  split <;> exact ⟨rfl, rfl, rfl, rfl, rfl⟩

theorem Blocked.expireWindow (blocked : Blocked start session)
    (now : UInt32) : Blocked start (session.expireWindow now) := by
  rcases expireWindow_backoff now session with
    ⟨begun, ends, failures, deadline, state⟩
  exact blocked.same begun ends failures deadline state

theorem Blocked.looped {idle : Bool} (blocked : Blocked start session)
    (during : Within start kBleControllerBackoffMs.toNat now) :
    Blocked start (looped now idle session) := by
  have expired := blocked.expireWindow now
  have loops := looped_loops now idle session
  generalize SessionSteps.looped now idle session = last at loops ⊢
  cases loops with
  | waited => exact expired
  | expired cause => exact expired.closed now cause
  | cut => exact expired.same rfl rfl rfl rfl rfl
  | ended state reached =>
    rw [expired.unended during] at reached
    cases reached

theorem Blocked.linked {flags : LinkFlags} (blocked : Blocked start session)
    (during : Within start kBleControllerBackoffMs.toNat now) :
    Blocked start (linked flags now session) := by
  unfold SessionSteps.linked
  split
  · exact blocked.shut rfl rfl rfl (.inl rfl) (.inl rfl)
  split
  · exact blocked.shut rfl rfl rfl (.inl rfl) (.inr rfl)
  · rename_i elapsed
    exact absurd ⟨blocked.pending, by simp [blocked.unended during]⟩ elapsed

theorem Blocked.quietly {ready idle : Bool} {event : Event}
    {environment : Environment} (blocked : Blocked start session)
    (during : ∀ now, timeOf (.event event environment : Input σ) =
      some now → Within start kBleControllerBackoffMs.toNat now) :
    Blocked start (quietly ready idle session event) := by
  have unpaired : isPairing session.state = false := by
    cases state : session.state with
    | pairingAwaitingPhysical =>
      exact blocked.absurd_active (by rw [state]; rfl)
    | pairingAwaitingCommit =>
      exact blocked.absurd_active (by rw [state]; rfl)
    | _ => rfl
  cases event with
  | begin deviceUid =>
    simp only [SessionSteps.quietly, blocked.begun, Bool.or_true, if_true]
    exact blocked
  | secureLink flags now =>
    simp only [SessionSteps.quietly, blocked.begun, if_true]
    exact blocked.linked (during now rfl)
  | linkClosed now =>
    simp only [SessionSteps.quietly, blocked.begun, if_true]
    have cleared : Blocked start
        session.clearPendingPairing.clearSessionSecrets :=
      blocked.same rfl rfl rfl rfl rfl
    have expired := cleared.expireWindow now
    refine expired.shut rfl rfl rfl (.inr rfl) (.inr ?_)
    simp only [KitsuBleSession.unlinked]
    rw [if_neg expired.pending]
  | setPairingWindow opened remaining now role =>
    simp only [SessionSteps.quietly, blocked.begun, if_true,
      dropPairing_eq unpaired]
    exact blocked.same rfl rfl rfl rfl rfl
  | loop now =>
    simp only [SessionSteps.quietly, blocked.begun, if_true]
    exact blocked.looped (during now rfl)
  | cancelPairing =>
    simp only [SessionSteps.quietly, blocked.begun, if_true,
      dropPairing_eq unpaired]
    exact blocked.same rfl rfl rfl rfl rfl
  | _ => exact blocked

end Blocked

/-! ## Frames -/

section Frames

variable {start now : UInt32} {session : KitsuBleSession}

theorem countProofFailure_cases (session : KitsuBleSession) :
    let after := session.countProofFailure
    after.begun = session.begun ∧
      after.stateDeadline = session.stateDeadline ∧
      after.backoffUntil = session.backoffUntil ∧
      (2 ≤ session.proofFailures ∧ kBleMaximumProofFailures ≤ after.proofFailures ∨
        session.proofFailures < 2 ∧
          after.proofFailures < kBleMaximumProofFailures) := by
  simp only [KitsuBleSession.countProofFailure]
  split
  · rename_i below
    refine ⟨rfl, rfl, rfl, ?_⟩
    simp only [kBleMaximumProofFailures, UInt8.le_iff_toNat_le,
      UInt8.lt_iff_toNat_lt, UInt8.toNat_add, UInt8.reduceToNat]
      at below ⊢
    omega
  · rename_i full
    refine ⟨rfl, rfl, rfl, .inl ?_⟩
    simp only [kBleMaximumProofFailures, UInt8.le_iff_toNat_le,
      UInt8.lt_iff_toNat_lt, UInt8.reduceToNat] at full ⊢
    omega

/-- What a failed proof does to the members of the back-off. -/
theorem failedProof_cases (now : UInt32) (session : KitsuBleSession) :
    let after := failedProof now session
    after.begun = session.begun ∧
      after.stateDeadline = session.stateDeadline ∧
      (2 ≤ session.proofFailures ∧ kBleMaximumProofFailures ≤ after.proofFailures ∧
          after.state = .closing ∧
          after.backoffUntil = now + kBleControllerBackoffMs ∨
        session.proofFailures < 2 ∧
          after.proofFailures < kBleMaximumProofFailures ∧
          after.state = .awaitingHello ∧
          after.backoffUntil = session.backoffUntil) := by
  rcases countProofFailure_cases
    session.clearPendingPairing.clearSessionSecrets with
      ⟨begun, deadline, ends, counted⟩
  intro after
  have equal : after =
      (session.clearPendingPairing.clearSessionSecrets.countProofFailure
        ).afterProofFailure now := rfl
  rw [equal]
  unfold KitsuBleSession.afterProofFailure
  rcases counted with ⟨many, bound⟩ | ⟨few, bound⟩
  · rw [if_pos bound]
    exact ⟨begun, deadline, .inl ⟨many, bound, rfl, rfl⟩⟩
  · rw [if_neg (UInt8.not_le.mpr bound)]
    exact ⟨begun, deadline, .inr ⟨few, bound, rfl, ends⟩⟩

theorem Blocked.failed (blocked : Blocked start session)
    (during : Within start kBleControllerBackoffMs.toNat now)
    (nonzero : 2 ≤ session.proofFailures → now + kBleControllerBackoffMs ≠ 0) :
    Blocked start (failedProof now session) := by
  rcases failedProof_cases now session with
    ⟨begun, deadline, ⟨many, bound, state, ends⟩ |
      ⟨few, bound, state, ends⟩⟩
  · exact ⟨begun.trans blocked.begun, ⟨now, during, ends⟩,
      by rw [ends]; exact nonzero many, .inl ⟨.inl state, .inl bound⟩⟩
  · have zero : session.stateDeadline = 0 := by
      rcases blocked.state with ⟨_, three | zero⟩ | ⟨_, zero⟩
      · have contrary : kBleMaximumProofFailures < 2 :=
          UInt8.lt_of_le_of_lt three few
        exact absurd contrary (by decide)
      · exact zero
      · exact zero
    refine ⟨begun.trans blocked.begun, ?_, ?_, .inr ⟨state, deadline.trans zero⟩⟩
    · rw [ends]
      exact blocked.ends
    · rw [ends]
      exact blocked.pending

/-- No greeting arrives while the back-off lasts. -/
theorem Blocked.no_greeting {goal : Prop} {system : System σ}
    {json : Bytes} {environment : Environment}
    (blocked : Blocked start system.session) (allowed : ClockAllows system
      (.event (.frame json now) environment))
    (arrives : Arrives system.session json now)
    (state : system.session.state = .awaitingHello) : goal := by
  have zero : system.session.stateDeadline = 0 := by
    rcases blocked.state with ⟨closing | backoff, _⟩ | ⟨_, zero⟩
    · cases state.symm.trans closing
    · cases state.symm.trans backoff
    · exact zero
  have expired : handshakeExpired system.session now = true := by
    simp [handshakeExpired, state, zero, allowed.2 state zero]
  cases arrives.unexpired.symm.trans expired

end Frames

/-! ## Runs -/

section Runs

variable {start : UInt32} {system : System σ} {input : Input σ}

theorem moved_blocked {environment : Environment} {event : Event}
    {result : Bool} {session : KitsuBleSession} {calls : List Call}
    (moved : Moved crypto store system environment event result session calls)
    (allowed : ClockAllows system (.event event environment))
    (during : ∀ now, timeOf (.event event environment : Input σ) =
      some now → Within start kBleControllerBackoffMs.toNat now)
    (blocked : Blocked start system.session) : Blocked start session := by
  have physical {now : UInt32} {goal : Prop}
      (admitted : confirmable system.session now = true) : goal := by
    simp only [confirmable, Bool.and_eq_true, beq_iff_eq] at admitted
    exact blocked.absurd_active (by rw [admitted.1.1.1.1.1.2]; rfl)
  cases moved with
  | quiet ready idle => exact blocked.quietly during
  | rejected cause => exact blocked.closed _ cause
  | late => exact blocked.closed _ _
  | ignored => exact blocked
  | @failed json now _ _ marred arrives open_ _ touched =>
    rcases touched with ⟨_, _, _, _, rfl⟩
    apply Blocked.failed
    · exact blocked.same rfl rfl rfl rfl rfl
    · exact during now rfl
    · intro many
      exact allowed.1 (.inl many)
  | greeted arrives state => exact blocked.no_greeting allowed arrives state
  | declined arrives state => exact blocked.no_greeting allowed arrives state
  | requested arrives state =>
    exact blocked.no_greeting allowed arrives state
  | entered arrives state =>
    exact blocked.absurd_active (by rw [state]; rfl)
  | enveloped arrives state =>
    exact blocked.absurd_active (by rw [state]; rfl)
  | committed arrives state =>
    exact blocked.absurd_active (by rw [state]; rfl)
  | confirmed confirms =>
    cases confirms with
    | ignored => exact blocked
    | rootless admitted => exact physical admitted
    | abandoned _ admitted => exact physical admitted
    | granted admitted => exact physical admitted
  | unsent => exact blocked
  | sent state => exact blocked.absurd_active (by rw [state]; rfl)

theorem step_blocked (allowed : ClockAllows system input)
    (during : ∀ now, timeOf input = some now →
      Within start kBleControllerBackoffMs.toNat now)
    (blocked : Blocked start system.session) :
    Blocked start (system.step crypto store input).session := by
  cases input with
  | storeChange changed => exact blocked
  | event event environment =>
    rcases @step_cases σ crypto store system event environment with
      ⟨result, _, moved⟩ | ⟨stopped, _⟩
    · exact moved_blocked moved allowed during blocked
    · cases stopped with
      | unbegun unbegun => cases unbegun.symm.trans blocked.begun
      | confirming admitted =>
        simp only [confirmable, Bool.and_eq_true, beq_iff_eq] at admitted
        exact blocked.absurd_active (by rw [admitted.1.1.1.1.1.2]; rfl)
      | committing arrives state =>
        exact blocked.absurd_active (by rw [state]; rfl)
      | revoking arrives state =>
        exact blocked.absurd_active (by rw [state]; rfl)

/-- An authenticated session has no deadline left. -/
theorem authenticated_deadline (stored : σ) (history : List (Input σ)) :
    (after crypto store stored history).session.state = .authenticated →
      (after crypto store stored history).session.stateDeadline = 0 := by
  refine @after_induction _ crypto store stored
    (fun _ system => system.session.state = .authenticated →
      system.session.stateDeadline = 0) ?_ ?_ history
  · intro inside
    cases inside
  intro history input induction inside
  cases input with
  | storeChange changed => exact induction inside
  | event event environment =>
    rcases step_carried (after_started history) (by rw [inside]; rfl) with
      ⟨result, _, carried⟩
    generalize ((after crypto store stored history).step crypto store
      (.event event environment)).session = session at carried inside ⊢
    cases carried with
    | stayed frameless stays =>
      rw [stays.deadline]
      exact induction (stays.state.symm.trans inside)
    | greeted arrives state greets =>
      cases greets
      cases inside
    | requested arrives state requests =>
      cases requests
      cases inside
    | entered arrives state enters =>
      cases enters
      rfl
    | answered barrier arrives state => exact induction state
    | rootless => exact induction inside
    | granted => cases inside
    | sent state => exact induction state

theorem within_start (start : UInt32) :
    Within start kBleControllerBackoffMs.toNat start := by
  simp only [Within, UInt32.sub_self]
  decide

theorem violated_blocked {session : KitsuBleSession} {until_ now : UInt32}
    {cause : BleCloseCause} (begun : session.begun = true)
    (deadline : session.stateDeadline = 0)
    (ends : until_ = start + kBleControllerBackoffMs) (nonzero : until_ ≠ 0) :
    Blocked start
      (closed now cause { session with backoffUntil := until_ }) :=
  ⟨begun, ⟨start, within_start start, ends⟩, nonzero,
    .inl ⟨.inl rfl, .inr deadline⟩⟩

/-- A back-off begins in the state that `Blocked` describes. -/
theorem starts_blocked {stored : σ} {earlier : List (Input σ)}
    (starts : StartsBackoff crypto store
      (after crypto store stored earlier) input start)
    (allowed : ClockAllows (after crypto store stored earlier) input) :
    Blocked start
      ((after crypto store stored earlier).step crypto store input).session := by
  rcases starts with ⟨json, environment, rfl, ⟨twice, failing, same, step⟩ |
    ⟨state, arrives, refused⟩⟩
  · have started := @step_started σ crypto store
      (after crypto store stored earlier)
      (.event (.frame json start) environment) (after_started earlier)
    rw [step] at started ⊢
    rcases failedProof_cases start failing with
      ⟨_, _, ⟨_, bound, closing, ends⟩ | ⟨few, _⟩⟩
    · have begun := started.begun (by rw [closing]; simp)
      refine ⟨begun, ⟨start, within_start start, ends⟩, ?_,
        .inl ⟨.inl closing, .inl bound⟩⟩
      rw [ends]
      exact allowed.1 (.inl twice)
    · rw [same] at few
      exact absurd (UInt8.lt_of_lt_of_le few twice) (UInt8.lt_irrefl _)
  · have deadline := authenticated_deadline stored earlier state
    have nonzero := allowed.1 (.inr state)
    rcases @step_cases σ crypto store (after crypto store stored earlier)
      (.frame json start) environment with ⟨result, _, moved⟩ |
        ⟨stopped, _⟩
    · generalize ((after crypto store stored earlier).step crypto store
        (.event (.frame json start) environment)).session = session
          at moved ⊢
      generalize (after crypto store stored earlier).calls crypto store
        (.event (.frame json start) environment) = calls at moved
      cases moved with
      | quiet _ _ quiet => cases quiet
      | rejected _ _ unusable =>
        rcases unusable with empty | insecure
        · exact absurd empty arrives.nonempty
        · cases arrives.secure.symm.trans insecure
      | late expired => cases arrives.unexpired.symm.trans expired
      | ignored _ other => cases state.symm.trans other
      | failed _ _ unauthenticated => exact absurd state unauthenticated
      | greeted _ other => cases state.symm.trans other
      | declined _ other => cases state.symm.trans other
      | requested _ other => cases state.symm.trans other
      | entered _ other => cases state.symm.trans other
      | enveloped _ _ ends =>
        generalize operations calls = called at ends
        cases ends with
        | violated =>
          exact violated_blocked arrives.begun deadline rfl nonzero
        | admitted taken =>
          rw [refused] at taken
          cases taken
      | committed _ other => cases state.symm.trans other
    · cases stopped with
      | unbegun unbegun => cases unbegun.symm.trans arrives.begun
      | committing _ other => cases state.symm.trans other
      | revoking _ _ taken =>
        rw [refused] at taken
        cases taken

/--
In every run on a clock that does not meet the sentinel, no inputs within half a
minute of the start of a back-off lead to an authenticated session.
-/
theorem backoff_blocks (crypto : CompanionCrypto)
    (store : ControllerStore σ) (stored : σ)
    (earlier later : List (Input σ)) (input : Input σ) (start : UInt32)
    (starts : StartsBackoff crypto store
      (after crypto store stored earlier) input start)
    (during : ∀ other ∈ later, ∀ now, timeOf other = some now →
      Within start 30000 now)
    (allowed : Throughout (System.step crypto store) (poweredOn stored)
      ClockAllows (earlier ++ [input] ++ later)) :
    (after crypto store stored
      (earlier ++ [input] ++ later)).session.state ≠ .authenticated := by
  have blocked : Blocked start (after crypto store stored
      (earlier ++ [input] ++ later)).session := by
    induction later using List.reverseRecOn with
    | nil =>
      rw [List.append_nil] at allowed ⊢
      rw [after_concat]
      exact starts_blocked starts allowed.last
    | append_singleton rest last induction =>
      rw [← List.append_assoc] at allowed ⊢
      rw [after_concat]
      apply step_blocked allowed.last
      · exact during last (List.mem_append_right _ (List.mem_singleton.mpr rfl))
      · apply induction
        · intro other member
          exact during other (List.mem_append_left _ member)
        · exact allowed.earlier
  intro inside
  exact blocked.absurd_active (by rw [inside]; rfl)

end Runs

/-! ## Two runs -/

/-- The greeting of an authenticated client, and its proof. -/
def authenticatedClient : List (Input Kitsu.Security.Store.Machine) :=
  Authentication.sampleGreeting ++ [Authentication.sampleProof]

/-- The client violates the protocol, and its link is replaced. -/
theorem violation_blocks :
    (after maskingCrypto (deviceStore Kitsu.Security.Store.maskingPlatform)
      sampleStore
      (authenticatedClient ++ [calmly (.frame (ascii "x") 400)] ++
        [calmly (.linkClosed 500),
          calmly (.secureLink ⟨true, true, true, true⟩ 600),
          calmly (.frame sampleHello 700)])).session.state ≠
      .authenticated := by
  apply backoff_blocks maskingCrypto _ _ _ _ _ 400
  · have arrived : (after maskingCrypto
        (deviceStore Kitsu.Security.Store.maskingPlatform) sampleStore
        authenticatedClient).session.state = .authenticated ∧
        (after maskingCrypto
          (deviceStore Kitsu.Security.Store.maskingPlatform) sampleStore
          authenticatedClient).session.begun = true ∧
        (after maskingCrypto
          (deviceStore Kitsu.Security.Store.maskingPlatform) sampleStore
          authenticatedClient).session.linkSecure = true ∧
        handshakeExpired (after maskingCrypto
          (deviceStore Kitsu.Security.Store.maskingPlatform) sampleStore
          authenticatedClient).session 400 = false ∧
        admitRequest maskingCrypto (after maskingCrypto
          (deviceStore Kitsu.Security.Store.maskingPlatform) sampleStore
          authenticatedClient).session.secrets (ascii "x") = none := by
      decide +kernel
    rcases arrived with ⟨state, begun, secure, unexpired, refused⟩
    exact ⟨ascii "x", calmEnvironment, rfl,
      .inr ⟨state, ⟨begun, by decide, secure, unexpired⟩, refused⟩⟩
  · intro other member now time
    unfold Within
    simp only [List.mem_cons, List.not_mem_nil, or_false] at member
    rcases member with rfl | rfl | rfl <;>
      · cases time
        decide
  · refine Throughout.cons (by trivial) (Throughout.cons (by trivial) ?_)
    refine Throughout.cons ⟨fun _ => by decide, fun _ _ => by decide⟩ ?_
    refine Throughout.cons ⟨fun _ => by decide, fun _ _ => by decide⟩ ?_
    refine Throughout.cons ⟨fun _ => by decide, fun _ _ => by decide⟩ ?_
    refine Throughout.cons (by trivial) (Throughout.cons (by trivial) ?_)
    refine Throughout.cons ⟨fun _ => by decide, fun _ _ => by decide⟩ ?_
    exact Throughout.nil

/-- The clock has run for half its period. -/
def lateGreeting : List (Input Kitsu.Security.Store.Machine) :=
  sampleLink 2147483648 ++
    [calmly (.frame sampleHello 2147483748), calmly (.frame sampleAuth 2147483848)]

/--
In the second half of the clock's period a stray frame on the link that was put
into back-off opens the way for a new handshake: the client is authenticated a
second after its violation.
-/
theorem backoff_bypassed :
    let before := after maskingCrypto
      (deviceStore Kitsu.Security.Store.maskingPlatform) sampleStore
      lateGreeting
    let later := after maskingCrypto
      (deviceStore Kitsu.Security.Store.maskingPlatform) sampleStore
      (lateGreeting ++ [calmly (.frame (ascii "x") 2147483948),
        calmly (.linkClosed 2147484048),
        calmly (.secureLink ⟨true, true, true, true⟩ 2147484148),
        calmly (.frame (ascii "x") 2147484248),
        calmly (.frame sampleHello 2147484348),
        calmly (.frame sampleAuth 2147484448)])
    before.session.state = .authenticated ∧
      (admitRequest maskingCrypto before.session.secrets
        (ascii "x")).isNone = true ∧
      later.session.state = .authenticated := by
  decide +kernel

end Kitsu.Ble.Backoff
