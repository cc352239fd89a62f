import Kitsu.Ble.Session

/-!
# What a handler can do

Every handler of the session is described once, by the session it leaves behind
and by the operations it calls: requests to the delegate, commits and
revocations.  The other calls (random bytes, frames, link flags) are silent:
they change neither the session nor the store.
-/

namespace Kitsu.Ble.SessionSteps

open Kitsu.Lib.ByteString
open Kitsu.Lib.Crash
open Kitsu.Lib.WrapClock
open Kitsu.Ble.Permissions
open Kitsu.Ble.ControlFrame
open Kitsu.Ble.Session
open Kitsu.Companion.Base64Url
open Kitsu.Companion.Envelope
open Kitsu.Companion.Handshake
open Kitsu.Security.Record
open Kitsu.Security.Store (SecurityResult PairingCommit)

/-! ## Silent programs -/

/-- The calls that authority is needed for. -/
def isOperation : Call → Bool
  | .handleAuthorizedBleRequest _ _ _ => true
  | .commitControllerAfterPairing _ => true
  | .revokeAuthenticatedController _ => true
  | _ => false

/-- The calls that do something for an authenticated phone. -/
def operations (calls : List Call) : List Call :=
  calls.filter isOperation

@[simp]
theorem operations_append (first second : List Call) :
    operations (first ++ second) =
      operations first ++ operations second :=
  List.filter_append ..

variable {σ : Type}

/-- The store is the same and no operation was called. -/
structure Quiet (before after : Machine σ) : Prop where
  store : after.store = before.store
  calls : ∃ more, after.calls = before.calls ++ more ∧
    operations more = []

section Quiet

variable {first second third : Machine σ}

theorem Quiet.refl (machine : Machine σ) : Quiet machine machine :=
  ⟨rfl, [], by simp, rfl⟩

theorem Quiet.trans (earlier : Quiet first second)
    (later : Quiet second third) : Quiet first third := by
  rcases earlier with ⟨sameStore, more, calls, silent⟩
  rcases later with ⟨sameStore', more', calls', silent'⟩
  refine ⟨sameStore'.trans sameStore, more ++ more', ?_, ?_⟩
  · rw [calls', calls, List.append_assoc]
  · rw [operations_append, silent, silent']
    rfl

/-- These operations were called between the two. -/
def Logged (before after : Machine σ) (called : List Call) : Prop :=
  ∃ more, after.calls = before.calls ++ more ∧ operations more = called

theorem Quiet.logged (quiet : Quiet first second) : Logged first second [] :=
  quiet.calls

theorem Logged.quiet {called : List Call}
    (logged : Logged first second called) (quiet : Quiet second third) :
    Logged first third called := by
  rcases logged with ⟨more, calls, operations⟩
  rcases quiet.calls with ⟨more', calls', silent⟩
  refine ⟨more ++ more', ?_, ?_⟩
  · rw [calls', calls, List.append_assoc]
  · rw [operations_append, operations, silent, List.append_nil]

/-- What is done to the session does not matter. -/
theorem Quiet.session (quiet : Quiet first second) (session : KitsuBleSession) :
    Quiet first { second with session } :=
  ⟨quiet.store, quiet.calls⟩

theorem Quiet.operations (quiet : Quiet first second) :
    operations second.calls = operations first.calls := by
  rcases quiet.calls with ⟨more, calls, silent⟩
  rw [calls, operations_append, silent, List.append_nil]

/-- A recorded call stays recorded. -/
theorem Quiet.mem (quiet : Quiet first second) {call : Call}
    (recorded : call ∈ first.calls) : call ∈ second.calls := by
  rcases quiet.calls with ⟨more, calls, _⟩
  rw [calls]
  exact List.mem_append_left more recorded

/-- The machine on which an event is run. -/
def startOf (system : System σ) (environment : Environment) : Machine σ :=
  ⟨system.session, system.store, environment, []⟩

variable {system : System σ} {environment : Environment}

@[simp]
theorem startOf_session : (startOf system environment).session = system.session :=
  rfl

theorem Logged.operations {after : Machine σ} {called : List Call}
    (logged : Logged (startOf system environment) after called) :
    operations after.calls = called := by
  rcases logged with ⟨more, calls, operations⟩
  rw [calls]
  exact operations

end Quiet

/-- The program completes and leaves the session alone. -/
def Silent {α : Type} (program : Prog (Machine σ) α) : Prop :=
  ∀ before, ∃ value after, program before = .done value after ∧
    after.session = before.session ∧ Quiet before after

section Silent

variable {α : Type} {program : Prog (Machine σ) α}
  {post : α → Machine σ → Prop} {crash : Machine σ → Prop}
  {before : Machine σ}

theorem Silent.wp (silent : Silent program)
    (continued : ∀ value after, after.session = before.session →
      Quiet before after → post value after) : wp program post crash before := by
  rcases silent before with ⟨value, after, run, session, quiet⟩
  unfold Kitsu.Lib.Crash.wp
  rw [run]
  exact continued value after session quiet

theorem silent_pure (value : α) : Silent (pure value : Prog (Machine σ) α) :=
  fun before => ⟨value, before, rfl, rfl, Quiet.refl before⟩

theorem silent_randomBytes (count : Nat) :
    Silent (randomBytes count : Prog (Machine σ) _) := by
  intro before
  unfold randomBytes
  split
  · exact ⟨none, before, rfl, rfl, Quiet.refl before⟩
  · rename_i source later _
    refine ⟨_, _, rfl, rfl, rfl, _, rfl, ?_⟩
    cases source <;> rfl

theorem silent_sendBleJson (json : Bytes) :
    Silent (sendBleJson json : Prog (Machine σ) _) :=
  fun _ => ⟨_, _, rfl, rfl, rfl, _, rfl, rfl⟩

theorem silent_setBleApplicationAuthenticated (authenticated : Bool) :
    Silent (setBleApplicationAuthenticated authenticated : Prog (Machine σ) _) :=
  fun _ => ⟨_, _, rfl, rfl, rfl, _, rfl, rfl⟩

theorem silent_disconnectBle (cause : BleCloseCause) :
    Silent (disconnectBle cause : Prog (Machine σ) _) :=
  fun _ => ⟨_, _, rfl, rfl, rfl, _, rfl, rfl⟩

theorem silent_sendFrame (frame : Option Bytes) :
    Silent (sendFrame frame : Prog (Machine σ) _) := by
  unfold sendFrame
  split
  · exact silent_pure false
  · exact silent_sendBleJson _

theorem silent_sendControlError (code : String) :
    Silent (sendControlError code : Prog (Machine σ) _) :=
  silent_sendFrame (errorFrame code)

end Silent

/-- The frames that were given to the transport. -/
def isSend : Call → Bool
  | .sendBleJson _ => true
  | _ => false

/-- Random bytes that were drawn are recorded; nothing is sent. -/
theorem wp_randomBytes {count : Nat}
    {post : Option (ByteVec count) → Machine σ → Prop}
    {crash : Machine σ → Prop} {before : Machine σ}
    (continued : ∀ drawn after, after.session = before.session →
      Quiet before after → (∀ bytes, drawn = some bytes →
        Call.randomBytes bytes.bytes ∈ after.calls) →
      after.environment.sends = before.environment.sends →
      after.calls.filter isSend = before.calls.filter isSend → post drawn after) :
    wp (randomBytes count) post crash before := by
  unfold wp randomBytes
  cases before.environment.random with
  | nil =>
    apply continued
    · rfl
    · exact Quiet.refl before
    · intro bytes equal
      cases equal
    · rfl
    · rfl
  | cons source later =>
    apply continued
    · rfl
    · refine ⟨rfl, _, rfl, ?_⟩
      cases source <;> rfl
    · intro bytes equal
      simp [equal]
    · rfl
    · simp only [List.filter_append]
      cases source <;> simp [isSend]

section Rules

variable {post : Unit → Machine σ → Prop} {crash : Machine σ → Prop}
  {before : Machine σ}

@[simp]
theorem wp_modifySession (update : KitsuBleSession → KitsuBleSession) :
    wp (modifySession update) post crash before ↔
      post () { before with session := update before.session } :=
  Iff.rfl

@[simp]
theorem wp_modifySecrets (update : Secrets → Secrets) :
    wp (modifySecrets update) post crash before ↔
      post () { before with
        session := { before.session with
          secrets := update before.session.secrets } } :=
  Iff.rfl

@[simp]
theorem wp_modifyPending (update : PendingPairing → PendingPairing) :
    wp (modifyPending update) post crash before ↔
      post () { before with
        session := { before.session with
          pending := update before.session.pending } } :=
  Iff.rfl

@[simp]
theorem wp_record (call : Call) :
    wp (record call) post crash before ↔
      post () { before with calls := before.calls ++ [call] } :=
  Iff.rfl

/-! ## Closing -/

/-- The session that `failProof` leaves. -/
def failedProof (now : UInt32) (session : KitsuBleSession) :
    KitsuBleSession :=
  ((session.clearPendingPairing.clearSessionSecrets).countProofFailure
    ).afterProofFailure now

/-- The session that `failAndClose` leaves. -/
def closed (now : UInt32) (cause : BleCloseCause)
    (session : KitsuBleSession) : KitsuBleSession :=
  (session.clearPendingPairing.clearSessionSecrets).startClosing now cause

theorem wp_failProof {now : UInt32} (continued : ∀ after,
      after.session = failedProof now before.session →
        Quiet before after → post () after) :
    wp (failProof now) post crash before := by
  simp only [failProof, wp_bind, wp_modifySession]
  apply (silent_setBleApplicationAuthenticated false).wp
  intro _ second session quiet
  apply (silent_sendControlError "auth_failed").wp
  intro _ third session' quiet'
  apply continued
  · rw [session']
    simp only [session]
    rfl
  · have whole : Quiet before third :=
      Quiet.trans ⟨quiet.store, quiet.calls⟩ ⟨quiet'.store, quiet'.calls⟩
    exact whole.session _

theorem wp_failAndClose {now : UInt32} {cause : BleCloseCause}
    (continued : ∀ after, after.session = closed now cause before.session →
        Quiet before after → post () after) :
    wp (failAndClose now cause) post crash before := by
  simp only [failAndClose, wp_bind, wp_modifySession]
  apply (silent_setBleApplicationAuthenticated false).wp
  intro _ second session quiet
  apply continued
  · rw [session]
    rfl
  · exact ⟨quiet.store, quiet.calls⟩

end Rules

/-! ## Reading frames -/

/-- The controller and the nonce of a `client_hello` frame. -/
def clientHello? (json : Bytes) : Option (Nonce × Nonce) :=
  let read := readClientHello json .cleared
  if read.2 then some (read.1.controllerId, read.1.clientNonce) else none

/-- The version and the nonce of a `pair_request` frame. -/
def pairRequest? (json : Bytes) : Option (Nat × Nonce) :=
  let read := readPairRequest json (.zero _)
  read.2.map fun version => (version, read.1)

/-- A buffer that was filled does not depend on what it held. -/
theorem decodeExact_filled {count : Nat} {fields : List FlatField}
    {name : String} {output : ByteVec count}
    (filled : (decodeExact fields name output).2 = true) (other : ByteVec count) :
    decodeExact fields name other = decodeExact fields name output := by
  unfold decodeExact at filled ⊢
  split
  · rename_i missing
    rw [missing] at filled
    cases filled
  · rename_i field found
    rw [found] at filled
    simp only at filled ⊢
    split
    · rename_i refused
      rw [if_pos refused] at filled
      cases filled
    · rename_i accepted
      rw [if_neg accepted] at filled
      simp only [Bool.and_eq_true, beq_iff_eq] at filled
      refine Prod.ext (ByteVec.ext ?_) rfl
      simp only [ByteVec.overwrite, filled.2]
      rw [List.take_left' filled.2, List.take_left' filled.2]

theorem readClientHello_read {json : Bytes} {secrets : Secrets}
    (read : (readClientHello json secrets).2 = true) :
    ∃ id nonce, clientHello? json = some (id, nonce) ∧
      (readClientHello json secrets).1 =
        { secrets with controllerId := id, clientNonce := nonce } := by
  unfold clientHello? readClientHello at *
  cases parsed : parseFlatObject json with
  | none =>
    rw [parsed] at read
    cases read
  | some fields =>
    simp only [parsed] at read ⊢
    split at read
    · cases read
    rename_i shaped
    simp only [if_neg shaped]
    split at read
    · cases read
    rename_i idFilled
    simp only [Bool.not_eq_true, Bool.not_eq_false'] at idFilled
    have nonceFilled :
        (decodeExact fields "client_nonce_b64"
          secrets.clientNonce).2 = true := by
      simp only [Bool.and_eq_true] at read
      exact read.1
    rw [decodeExact_filled idFilled Secrets.cleared.controllerId,
      decodeExact_filled nonceFilled Secrets.cleared.clientNonce, idFilled]
    simp only [Bool.not_true, Bool.false_eq_true, if_false, if_true, read]
    exact ⟨_, _, rfl, rfl⟩

theorem readPairRequest_read {json : Bytes} {held : Nonce}
    {version : Nat} (read : (readPairRequest json held).2 = some version) :
    pairRequest? json = some (version, (readPairRequest json held).1) := by
  unfold pairRequest? readPairRequest at *
  cases parsed : parseFlatObject json with
  | none =>
    rw [parsed] at read
    cases read
  | some fields =>
    simp only [parsed] at read ⊢
    split at read
    · cases read
    rename_i shaped
    simp only [if_neg shaped]
    split at read
    · cases read
    rename_i accepted
    simp only [Bool.not_eq_true, Bool.not_eq_false'] at accepted
    have filled : (decodeExact fields "client_nonce_b64" held).2 =
        true := by
      simp only [Bool.and_eq_true] at accepted
      exact accepted.1
    rw [decodeExact_filled filled (ByteVec.zero 16), accepted]
    exact congrArg (fun found => some (found, _))
      (Option.some.inj read)

/-! ## The handshake -/

section Handlers

variable {crypto : CompanionCrypto} {store : ControllerStore σ}
  {before : Machine σ} {json : Bytes} {now : UInt32}

/-- What a handler may have touched before it refused. -/
def Marred (before after : KitsuBleSession) : Prop :=
  ∃ secrets pending completed role,
    after = { before with
      secrets := secrets
      pending := pending
      pairingCompleted := completed
      completedPairingRole := role }

theorem Marred.refl (session : KitsuBleSession) : Marred session session :=
  ⟨session.secrets, session.pending, session.pairingCompleted,
    session.completedPairingRole, rfl⟩

theorem Marred.secrets (session : KitsuBleSession) (secrets : Secrets) :
    Marred session { session with secrets } :=
  ⟨secrets, session.pending, session.pairingCompleted,
    session.completedPairingRole, rfl⟩

theorem Marred.pending (session : KitsuBleSession)
    (pending : PendingPairing) : Marred session { session with pending } :=
  ⟨session.secrets, pending, session.pairingCompleted,
    session.completedPairingRole, rfl⟩

theorem Marred.state {before after : KitsuBleSession}
    (marred : Marred before after) : after.state = before.state := by
  rcases marred with ⟨_, _, _, _, rfl⟩
  rfl

theorem Marred.trans {first second third : KitsuBleSession}
    (earlier : Marred first second) (later : Marred second third) :
    Marred first third := by
  rcases earlier with ⟨_, _, _, _, rfl⟩
  rcases later with ⟨secrets, pending, completed, role, rfl⟩
  exact ⟨secrets, pending, completed, role, rfl⟩

/-- A `client_hello` was answered; the calls are those made so far. -/
inductive Greets (found : ControllerId → Option (Secret × ControllerRole))
    (before : KitsuBleSession) (json : Bytes) (calls : List Call) :
    KitsuBleSession → Prop where
  | intro {controllerId clientNonce : Nonce} (deviceNonce : Nonce)
      (root : Key) (role : ControllerRole)
      (hello : clientHello? json = some (controllerId, clientNonce))
      (known : ∀ entry, found controllerId = some entry → entry = (root, role))
      (drawn : .randomBytes deviceNonce.bytes ∈ calls) :
      Greets found before json calls
        { before with
          secrets :=
            { before.secrets with
              controllerId := controllerId
              controllerRoot := root
              clientNonce := clientNonce
              deviceNonce := deviceNonce
              controllerKnown := (found controllerId).isSome
              controllerRole := role }
          state := .awaitingClientAuth }

theorem wp_lookUpController {post : Bool → Machine σ → Prop}
    {crash : Machine σ → Prop}
    (refused : ∀ after, Marred before.session after.session →
      Quiet before after → post false after) (looked : ∀ root role after,
      (∀ entry, store.findControllerRoot before.store
        before.session.secrets.controllerId = some entry → entry = (root, role)) →
      after.session = { before.session with
        secrets :=
          { before.session.secrets with
            controllerKnown := (store.findControllerRoot before.store
              before.session.secrets.controllerId).isSome
            controllerRoot := root
            controllerRole := role } } →
      Quiet before after → post true after) :
    wp (lookUpController store) post crash before := by
  simp only [lookUpController, wp_bind, wp_get]
  cases found : store.findControllerRoot before.store
    before.session.secrets.controllerId with
  | some entry =>
    rcases entry with ⟨root, role⟩
    refine looked root role _ ?_ ?_ ((Quiet.refl before).session _)
    · intro entry equal
      rw [found] at equal
      exact (Option.some.inj equal).symm
    · rw [found]
      rfl
  | none =>
    simp only [wp_bind, wp_modifySecrets]
    apply (silent_randomBytes 32).wp
    intro drawn after session quiet
    cases drawn with
    | none =>
      apply refused
      · rw [session]
        exact Marred.secrets _ _
      · exact ⟨quiet.store, quiet.calls⟩
    | some root =>
      simp only [wp_bind, wp_modifySecrets, wp_pure]
      refine looked root .invalid _ ?_ ?_
        ⟨quiet.store, quiet.calls⟩
      · intro entry equal
        rw [found] at equal
        cases equal
      · rw [session, found]
        rfl

theorem wp_handleClientHello {crash : Machine σ → Prop} :
    wp (handleClientHello crypto store json)
      (fun handled after => Quiet before after ∧
        if handled then
          Greets (store.findControllerRoot before.store) before.session json
            after.calls after.session
        else Marred before.session after.session)
      crash before := by
  simp only [handleClientHello, wp_bind, wp_get, wp_modifySecrets]
  cases read : (readClientHello json before.session.secrets).2 with
  | false =>
    exact ⟨(Quiet.refl before).session _, Marred.secrets _ _⟩
  | true =>
    rcases readClientHello_read read with ⟨id, nonce, hello, secrets⟩
    simp only [Bool.not_true, Bool.false_eq_true, if_false, wp_bind, secrets]
    apply wp_lookUpController
    · intro after marred quiet
      exact ⟨⟨quiet.store, quiet.calls⟩, Marred.trans (Marred.secrets _ _) marred⟩
    intro root role second known session quiet
    simp only [Bool.not_true, Bool.false_eq_true, if_false, wp_bind]
    apply wp_randomBytes
    intro drawn third session' quiet' recorded _ _
    have whole : Quiet before third :=
      Quiet.trans ⟨quiet.store, quiet.calls⟩ quiet'
    have marred : Marred before.session third.session := by
      rw [session', session]
      exact Marred.secrets _ _
    cases drawn with
    | none => exact ⟨whole, marred⟩
    | some deviceNonce =>
      simp only [wp_bind, wp_modifySecrets, wp_get]
      apply (silent_sendFrame _).wp
      intro sent fourth session'' quiet''
      have answered : Quiet before fourth :=
        Quiet.trans (whole.session _) quiet''
      cases sent with
      | false =>
        refine ⟨answered, ?_⟩
        rw [session'']
        exact Marred.trans marred (Marred.secrets _ _)
      | true =>
        refine ⟨answered.session _, ?_⟩
        simp only [session'', session', session, if_true]
        exact Greets.intro deviceNonce root role hello known
          (quiet''.mem (recorded deviceNonce rfl))

/-- A client proved itself. -/
inductive Enters (crypto : CompanionCrypto) (before : KitsuBleSession)
    (json : Bytes) : KitsuBleSession → Prop where
  | intro {supplied clientToDevice deviceToClient : Key}
      (proof : readClientAuth json = some supplied)
      (verified : clientVerified crypto before.secrets supplied = true)
      (keys : deriveBleSessionKeys crypto before.secrets.controllerRoot
        before.secrets.clientNonce before.secrets.deviceNonce =
          some (clientToDevice, deviceToClient)) :
      Enters crypto before json
        { before with
          secrets :=
            { before.secrets with
              clientToDeviceKey := clientToDevice
              deviceToClientKey := deviceToClient } }.enter

theorem wp_handleClientAuth {crash : Machine σ → Prop} :
    wp (handleClientAuth crypto json) (fun handled after => Quiet before after ∧
        if handled then Enters crypto before.session json after.session
        else Marred before.session after.session)
      crash before := by
  simp only [handleClientAuth, wp_bind, wp_get]
  cases proof : readClientAuth json with
  | none => exact ⟨Quiet.refl before, Marred.refl _⟩
  | some supplied =>
    simp only
    cases verified :
      clientVerified crypto before.session.secrets supplied with
    | false => exact ⟨Quiet.refl before, Marred.refl _⟩
    | true =>
      simp only [Bool.not_true, Bool.false_eq_true, if_false]
      split
      · simp only [wp_bind, wp_modifySecrets, wp_pure]
        exact ⟨(Quiet.refl before).session _, Marred.secrets _ _⟩
      rename_i clientToDevice deviceToClient keys
      simp only [wp_bind, wp_modifySecrets]
      split
      · exact ⟨(Quiet.refl before).session _, Marred.secrets _ _⟩
      simp only [wp_bind]
      apply (silent_setBleApplicationAuthenticated true).wp
      intro admitted second session quiet
      have whole : Quiet before second := ⟨quiet.store, quiet.calls⟩
      have marred : Marred before.session second.session := by
        rw [session]
        exact Marred.secrets _ _
      cases admitted with
      | false => exact ⟨whole, marred⟩
      | true =>
        simp only [Bool.not_true, Bool.false_eq_true, if_false, wp_bind]
        apply (silent_sendFrame _).wp
        intro sent third session' quiet'
        have sentQuiet := Quiet.trans whole quiet'
        cases sent with
        | false =>
          simp only [Bool.not_false, if_true, wp_bind]
          apply (silent_setBleApplicationAuthenticated false).wp
          intro _ fourth session'' quiet''
          refine ⟨Quiet.trans sentQuiet quiet'', ?_⟩
          rw [session'', session']
          exact marred
        | true =>
          refine ⟨sentQuiet.session _, ?_⟩
          simp only [session', session, if_true]
          exact Enters.intro proof verified keys

end Handlers

/-! ## Pairing -/

variable {start : KitsuBleSession}

section Pairing

variable {crypto : CompanionCrypto} {store : ControllerStore σ}
  {before : Machine σ} {json : Bytes} {now : UInt32}

/-- A `pair_request` was admitted by the open window. -/
inductive Requests (before : KitsuBleSession) (json : Bytes)
    (now : UInt32) : KitsuBleSession → Prop where
  | intro {version : Nat} {clientNonce : Nonce} (deviceNonce : Nonce)
      (request : pairRequest? json = some (version, clientNonce))
      (opened : before.pairingWindowOpen = true)
      (early : deadlineReached now before.pairingWindowDeadline = false)
      (matching : version = pairingVersionForRole before.pairingWindowRole) :
      Requests before json now
        { before with
          pending :=
            { before.pending with
              clientNonce := clientNonce
              deviceNonce := deviceNonce
              version := version
              role := before.pairingWindowRole }
          pairingCompleted := false
          completedPairingRole := .invalid
          state := .pairingAwaitingPhysical
          stateDeadline := before.pairingWindowDeadline }

theorem wp_refusePairing {code : String} {post : Bool → Machine σ → Prop}
    {crash : Machine σ → Prop} (continued : ∀ after,
      after.session = before.session.clearPendingPairing →
        Quiet before after → post true after) :
    wp (refusePairing code) post crash before := by
  simp only [refusePairing, wp_bind, wp_modifySession]
  apply (silent_sendControlError code).wp
  intro _ after session quiet
  apply continued
  · rw [session]
  · exact ⟨quiet.store, quiet.calls⟩

theorem wp_handlePairRequest {crash : Machine σ → Prop} :
    wp (handlePairRequest store json now)
      (fun handled after => Quiet before after ∧
        if handled then
          after.session = before.session.clearPendingPairing ∨
            Requests before.session json now after.session
        else Marred before.session after.session)
      crash before := by
  simp only [handlePairRequest, wp_bind, wp_get, wp_modifyPending]
  have refuse (code : String) : wp (refusePairing code)
      (fun handled after => Quiet before after ∧
        if handled then
          after.session = before.session.clearPendingPairing ∨
            Requests before.session json now after.session
        else Marred before.session after.session) crash
      { before with
        session := { before.session with
          pending := { before.session.pending with
            clientNonce := (readPairRequest json
              before.session.pending.clientNonce).1 } } } := by
    apply wp_refusePairing
    intro after session quiet
    refine ⟨⟨quiet.store, quiet.calls⟩, ?_⟩
    rw [session]
    exact .inl rfl
  split
  · exact ⟨(Quiet.refl before).session _, Marred.pending _ _⟩
  rename_i version read
  split
  · exact refuse "pairing_closed"
  rename_i inTime
  split
  · exact ⟨(Quiet.refl before).session _, Marred.pending _ _⟩
  rename_i matching
  split
  · exact refuse "controller_full"
  simp only [wp_bind]
  apply (silent_randomBytes 16).wp
  intro drawn second session quiet
  have whole : Quiet before second := ⟨quiet.store, quiet.calls⟩
  cases drawn with
  | none =>
    refine ⟨whole, ?_⟩
    rw [session]
    exact Marred.pending _ _
  | some deviceNonce =>
    simp only [wp_bind, wp_modifyPending, wp_modifySession]
    apply (silent_sendFrame _).wp
    intro sent third session' quiet'
    have answered : Quiet before third :=
      Quiet.trans (whole.session _) quiet'
    cases sent with
    | false =>
      refine ⟨answered, ?_⟩
      rw [session']
      simp only [session]
      exact ⟨_, _, _, _, rfl⟩
    | true =>
      refine ⟨answered.session _, .inr ?_⟩
      simp only [session', session]
      simp only [Bool.or_eq_true, Bool.not_eq_true', not_or,
        Bool.not_eq_false, Bool.not_eq_true] at inTime
      exact Requests.intro deviceNonce (readPairRequest_read read)
        inTime.1 inTime.2 (not_not.mp matching)

theorem wp_callStore {α : Type} {program : Prog σ α}
    {post : α → Machine σ → Prop} {crash : Machine σ → Prop}
    (returned : ∀ value changed, post value { before with store := changed })
    (stopped : ∀ changed, crash { before with store := changed }) :
    wp (callStore program) post crash before := by
  unfold wp callStore
  cases program before.store with
  | done value changed => exact returned value changed
  | cut changed => exact stopped changed

/-- The frame is the commit of the pending pairing. -/
def CommitChecked (crypto : CompanionCrypto) (session : KitsuBleSession)
    (json : Bytes) : Prop :=
  ∃ supplied, readPairCommit session.pending json = some supplied ∧
    makePendingPairingProof crypto session .client = some supplied

/-- The session behind a pairing that was stored. -/
def completedPairing (session : KitsuBleSession) : KitsuBleSession :=
  { session.clearPendingPairing with
    pairingCompleted := true
    completedPairingRole := session.pending.role
    state := .awaitingHello }

/-- How a checked commit ends. -/
inductive CommitEnds (before : KitsuBleSession) (now : UInt32) :
    Bool → KitsuBleSession → Prop where
  | stored : CommitEnds before now true (completedPairing before)
  | refused : CommitEnds before now false before.clearPendingPairing
  | unencoded :
      CommitEnds before now false (closed now .pairingFailed before)
  | unanswered :
      CommitEnds before now false
        (closed now .responseSendFailed (completedPairing before))

theorem wp_abandonPairing {cause : BleCloseCause}
    {post : Bool → Machine σ → Prop} {crash : Machine σ → Prop}
    (continued : ∀ after, after.session = closed now cause before.session →
        Quiet before after → post false after) :
    wp (abandonPairing now cause) post crash before := by
  simp only [abandonPairing, wp_bind, wp_modifySession]
  apply wp_failAndClose
  intro after session quiet
  apply continued
  · rw [session]
    rfl
  · exact ⟨quiet.store, quiet.calls⟩

theorem wp_finishPairing {okProof : Key} {crash : Machine σ → Prop}
    (unchanged : before.session = start) :
    wp (finishPairing start.pending.version start.pending.role okProof now)
      (fun handled after => Quiet before after ∧
        CommitEnds start now handled after.session)
      crash before := by
  subst unchanged
  unfold finishPairing
  split
  · apply wp_abandonPairing
    intro after session quiet
    refine ⟨quiet, ?_⟩
    rw [session]
    exact .unencoded
  simp only [wp_bind]
  apply (silent_sendFrame _).wp
  intro sent second session quiet
  simp only [wp_modifySession]
  cases sent with
  | true =>
    refine ⟨quiet.session _, ?_⟩
    simp only [session]
    exact .stored
  | false =>
    simp only [Bool.not_false, if_true, wp_bind]
    apply wp_failAndClose
    intro after session' quiet'
    refine ⟨Quiet.trans (quiet.session _) quiet', ?_⟩
    rw [session']
    simp only [session]
    exact .unanswered

theorem wp_handlePairCommit :
    wp (handlePairCommit crypto store json now) (fun handled after =>
        handled = false ∧ Quiet before after ∧
            after.session = before.session ∨
          CommitChecked crypto before.session json ∧
            Logged before after
              [.commitControllerAfterPairing before.session.commitment] ∧
            CommitEnds before.session now handled after.session)
      (fun after => CommitChecked crypto before.session json ∧
        Logged before after
          [.commitControllerAfterPairing before.session.commitment])
      before := by
  simp only [handlePairCommit, wp_bind, wp_get]
  split
  · rename_i supplied expected okProof read proof _
    by_cases different : expected ≠ supplied
    · rw [if_pos different]
      exact .inl ⟨rfl, Quiet.refl before, rfl⟩
    rw [if_neg different]
    have same : expected = supplied := not_not.mp different
    subst same
    have checked : CommitChecked crypto before.session json :=
      ⟨expected, read, proof⟩
    simp only [wp_bind]
    have logged (changed : σ) : Logged before
        { before with
          calls := before.calls ++
            [.commitControllerAfterPairing before.session.commitment]
          store := changed }
        [.commitControllerAfterPairing before.session.commitment] :=
      ⟨_, rfl, rfl⟩
    apply wp_callStore
    · intro committed changed
      by_cases refused : committed ≠ .ok
      · rw [if_pos refused]
        simp only [wp_bind, wp_modifySession]
        apply (silent_sendControlError _).wp
        intro _ after session quiet
        refine .inr ⟨checked, (logged changed).quiet
          ⟨quiet.store, quiet.calls⟩, ?_⟩
        rw [session]
        exact .refused
      · rw [if_neg refused]
        refine wp_post (wp_finishPairing rfl) ?_
        rintro handled after ⟨quiet, ends⟩
        exact .inr ⟨checked, (logged changed).quiet quiet, ends⟩
    · intro changed
      exact ⟨checked, logged changed⟩
  · exact .inl ⟨rfl, Quiet.refl before, rfl⟩

end Pairing

/-! ## Confirming a pairing -/

section Confirming

variable {crypto : CompanionCrypto} {store : ControllerStore σ}
  {before : Machine σ} {now : UInt32} {crash : Machine σ → Prop}

theorem wp_drawControllerId (attempts : Nat) :
    wp (drawControllerId store attempts) (fun drawn after => Quiet before after ∧
        ∃ id, after.session = { before.session with
            pending := { before.session.pending with controllerId := id } } ∧
          (drawn = true → Call.randomBytes id.bytes ∈ after.calls))
      crash before := by
  induction attempts generalizing before with
  | zero =>
    refine ⟨Quiet.refl before, before.session.pending.controllerId, rfl, ?_⟩
    intro drawn
    cases drawn
  | succ attempts induction =>
    simp only [drawControllerId, wp_bind]
    apply wp_randomBytes
    intro drawn second session quiet recorded _ _
    cases drawn with
    | none =>
      refine wp_post induction ?_
      rintro found after ⟨quiet', id, session', drawn⟩
      refine ⟨Quiet.trans quiet quiet', id, ?_, drawn⟩
      rw [session', session]
    | some id =>
      simp only [wp_bind, wp_modifyPending, wp_get]
      rw [wp_ite]
      constructor
      · intro _
        refine wp_post induction ?_
        rintro found after ⟨quiet', id', session', drawn⟩
        refine ⟨Quiet.trans (quiet.session _) quiet', id', ?_, drawn⟩
        rw [session']
        simp only [session]
      · intro _
        refine ⟨quiet.session _, id, ?_, ?_⟩
        · simp only [session]
        · intro _
          exact recorded id rfl

/-- How a confirmation ends; the calls are those made so far. -/
inductive Confirms (before : KitsuBleSession) (now : UInt32)
    (calls : List Call) : Bool → KitsuBleSession → Prop where
  | ignored (refused : confirmable before now = false) :
      Confirms before now calls false before
  | rootless (admitted : confirmable before now = true) :
      Confirms before now calls false before.clearPendingPairing
  | abandoned (cause : BleCloseCause)
      (admitted : confirmable before now = true) :
      Confirms before now calls false (closed now cause before)
  | granted {controllerId : Nonce} {root : Key}
      (admitted : confirmable before now = true)
      (generated : .generatePendingControllerRoot .ok root ∈ calls)
      (drawn : .randomBytes controllerId.bytes ∈ calls) :
      Confirms before now calls true
        { before with
          pending :=
            { before.pending with controllerId, controllerRoot := root }
          state := .pairingAwaitingCommit }

theorem wp_sendGrant :
    wp (sendGrant crypto now) (fun granted after => Quiet before after ∧
        if granted then
          after.session =
            { before.session with state := .pairingAwaitingCommit }
        else ∃ cause, after.session = closed now cause before.session)
      crash before := by
  simp only [sendGrant, wp_bind, wp_get]
  split
  · apply wp_abandonPairing
    intro after session quiet
    exact ⟨quiet, _, session⟩
  simp only [wp_bind]
  apply (silent_sendFrame _).wp
  intro sent second session quiet
  cases sent with
  | true =>
    refine ⟨quiet.session _, ?_⟩
    simp only [session, if_true]
  | false =>
    apply wp_abandonPairing
    intro after session' quiet'
    refine ⟨Quiet.trans quiet quiet', .responseSendFailed, ?_⟩
    rw [session', session]

theorem wp_confirmPendingPairing :
    wp (confirmPendingPairing crypto store now)
      (fun result after => Logged before after [] ∧
        Confirms before.session now after.calls result after.session)
      (fun after => Logged before after [] ∧
        confirmable before.session now = true) before := by
  simp only [confirmPendingPairing, wp_bind, wp_get]
  cases admitted : confirmable before.session now with
  | false => exact ⟨(Quiet.refl before).logged, .ignored admitted⟩
  | true =>
    simp only [Bool.not_true, Bool.false_eq_true, if_false, wp_bind]
    apply wp_callStore
    · rintro ⟨result, root⟩ changed
      have logged : Logged before
          { before with
            calls := before.calls ++
              [.generatePendingControllerRoot result root]
            store := changed } [] :=
        ⟨_, rfl, rfl⟩
      change wp _ _ _ { before with
        store := changed
        calls := before.calls ++
          [Call.generatePendingControllerRoot result root]
        session := { before.session with
          pending := { before.session.pending with
            controllerRoot := root } } }
      by_cases failed : result ≠ .ok
      · rw [if_pos failed]
        simp only [wp_bind, wp_modifySession, wp_get]
        apply (silent_sendControlError _).wp
        intro _ after session quiet
        refine ⟨logged.quiet ⟨quiet.store, quiet.calls⟩, ?_⟩
        rw [session]
        exact .rootless admitted
      · rw [if_neg failed]
        have ok : result = .ok := not_not.mp failed
        subst ok
        simp only [wp_bind]
        refine wp_post (wp_drawControllerId 8) ?_
        rintro drawn second ⟨quiet, id, session, recorded⟩
        have whole : Logged before second [] :=
          logged.quiet ⟨quiet.store, quiet.calls⟩
        cases drawn with
        | false =>
          apply wp_abandonPairing
          intro after session' quiet'
          refine ⟨whole.quiet quiet', ?_⟩
          rw [session', session]
          exact .abandoned _ admitted
        | true =>
          refine wp_post wp_sendGrant ?_
          rintro granted after ⟨quiet', ends⟩
          refine ⟨whole.quiet quiet', ?_⟩
          cases granted with
          | false =>
            rcases ends with ⟨cause, ends⟩
            rw [ends, session]
            exact .abandoned cause admitted
          | true =>
            rw [ends, session]
            refine .granted admitted ?_ ?_
            · apply quiet'.mem
              apply quiet.mem
              exact List.mem_append_right _ (List.mem_singleton.mpr rfl)
            · exact quiet'.mem (recorded rfl)
    · intro changed
      exact ⟨⟨[], (List.append_nil _).symm, rfl⟩, trivial⟩

end Confirming

/-! ## Authenticated requests -/

variable {request : DecodedEnvelope}

section Requesting

variable {crypto : CompanionCrypto} {store : ControllerStore σ}
  {before : Machine σ} {json : Bytes} {now : UInt32}
  {crash : Machine σ → Prop}

/-- The session after an envelope was sent. -/
def sentEnvelope (session : KitsuBleSession) : KitsuBleSession :=
  { session with
    secrets :=
      { session.secrets with
        nextDeviceSequence := session.secrets.nextDeviceSequence + 1 } }

/-- The transport took the first frame it was given. -/
def Accepted (sends : List Bool) (calls : List Call) : Prop :=
  sends.headD true = true ∧ ∃ json, Call.sendBleJson json ∈ calls

theorem wp_sendAuthenticated {channel : EnvelopeChannel}
    {requestId : Nonce} {operation payload : Bytes} :
    wp (sendAuthenticated crypto channel requestId operation payload)
      (fun sent after => Quiet before after ∧
        (before.session.state ≠ .authenticated →
          after.calls.filter isSend = before.calls.filter isSend) ∧
        if sent then
          before.session.state = .authenticated ∧
            Accepted before.environment.sends after.calls ∧
            after.session = sentEnvelope before.session
        else after.session = before.session)
      crash before := by
  simp only [sendAuthenticated, wp_bind, wp_get]
  split
  · exact ⟨Quiet.refl before, fun _ => rfl, rfl⟩
  rename_i ready
  have authenticated : before.session.state = .authenticated := by
    by_contra other
    exact ready (.inl other)
  have spoken {calls : List Call}
      (silent : before.session.state ≠ .authenticated) :
      calls.filter isSend = before.calls.filter isSend :=
    absurd authenticated silent
  simp only [wp_bind]
  apply wp_randomBytes
  intro drawn second session quiet _ sends _
  cases drawn with
  | none => exact ⟨quiet, spoken, session⟩
  | some nonce =>
    simp only
    split
    · exact ⟨quiet, spoken, session⟩
    rename_i json _
    simp only [wp_bind]
    have taken : wp (sendBleJson json : Prog (Machine σ) Bool)
        (fun sent third => third.session = second.session ∧
          Quiet second third ∧
          (sent = true → Accepted second.environment.sends third.calls))
        crash second := by
      refine ⟨rfl, ⟨rfl, _, rfl, rfl⟩, ?_⟩
      intro accepted
      exact ⟨accepted, json, List.mem_append_right _ (List.mem_singleton.mpr rfl)⟩
    refine wp_post taken ?_
    rintro sent third ⟨session', quiet', accepted⟩
    have whole := Quiet.trans quiet quiet'
    cases sent with
    | false => exact ⟨whole, spoken, session'.trans session⟩
    | true =>
      refine ⟨whole.session _, spoken, authenticated, ?_, ?_⟩
      · rw [← sends]
        exact accepted rfl
      · simp only [session', session]
        rfl

/-- The session after a request was taken and answered. -/
def served (barrier : Bool) (session : KitsuBleSession) : KitsuBleSession :=
  { session with
    secrets :=
      { session.secrets with
        authenticatedRequestBarrier := barrier
        expectedClientSequence := session.secrets.expectedClientSequence + 1
        nextDeviceSequence := session.secrets.nextDeviceSequence + 1 } }

/-- The operation that a request leads to. -/
def requestOperations (secrets : Secrets) (request : DecodedEnvelope)
    (payload : Bytes) : List Call :=
  if request.operation = ascii "controller.forget" then
    if payload = ascii "\x7b\x7d" then
      [.revokeAuthenticatedController secrets.controllerId]
    else []
  else
    [.handleAuthorizedBleRequest secrets.controllerRole request payload]

/-- How an admitted request ends. -/
inductive RequestEnds (sends : List Bool) (calls : List Call)
    (before : KitsuBleSession) (now : UInt32) :
    Bool → KitsuBleSession → Prop where
  | answered (barrier : Bool)
      (raised : barrier = before.secrets.authenticatedRequestBarrier ∨
        Accepted sends calls) :
      RequestEnds sends calls before now true (served barrier before)
  | forgotten :
      RequestEnds sends calls before now true (before.forgotten now)
  | unanswered :
      RequestEnds sends calls before now false
        (closed now .responseSendFailed before)

theorem wp_serveRequest {payload : Bytes} (taken : before.session = { start with
      secrets := { start.secrets with
        expectedClientSequence :=
          start.secrets.expectedClientSequence + 1 } }) :
    wp (serveRequest crypto request payload now)
      (fun handled after =>
        Logged before after
          [.handleAuthorizedBleRequest start.secrets.controllerRole request
            payload] ∧
        RequestEnds before.environment.sends after.calls start now handled
          after.session)
      crash before := by
  simp only [serveRequest, wp_bind, wp_get]
  have role : before.session.secrets.controllerRole =
      start.secrets.controllerRole := by
    rw [taken]
  have logged : Logged before
      { before with
        calls := before.calls ++
          [.handleAuthorizedBleRequest
            before.session.secrets.controllerRole request payload] }
      [.handleAuthorizedBleRequest start.secrets.controllerRole request
        payload] := by
    rw [role]
    exact ⟨_, rfl, rfl⟩
  simp only [wp_record]
  refine wp_post wp_sendAuthenticated ?_
  rintro sent second ⟨quiet, _, ends⟩
  have whole := logged.quiet quiet
  cases sent with
  | true =>
    rcases ends with ⟨_, accepted, session⟩
    refine ⟨whole, ?_⟩
    simp only [session, sentEnvelope, taken]
    exact .answered true (.inr accepted)
  | false =>
    simp only [Bool.not_false, if_true, wp_bind]
    apply wp_failAndClose
    intro after session quiet'
    refine ⟨whole.quiet quiet', ?_⟩
    rw [session]
    rw [ends, taken]
    exact .unanswered

/-- The answer does not depend on how the revocation was made. -/
theorem wp_answerForget {revoked : SecurityResult}
    (taken : before.session = { start with
      secrets := { start.secrets with
        expectedClientSequence :=
          start.secrets.expectedClientSequence + 1 } }) :
    wp (answerForget crypto store request revoked now)
      (fun handled after => Quiet before after ∧
        RequestEnds before.environment.sends after.calls start now handled
          after.session)
      crash before := by
  simp only [answerForget, wp_bind, wp_get]
  refine wp_post wp_sendAuthenticated ?_
  rintro sent second ⟨quiet, _, ends⟩
  cases sent with
  | false =>
    simp only [Bool.not_false, if_true, wp_bind]
    apply wp_failAndClose
    intro after session quiet'
    refine ⟨Quiet.trans quiet quiet', ?_⟩
    rw [session, ends, taken]
    exact .unanswered
  | true =>
    rcases ends with ⟨_, _, session⟩
    simp only [Bool.not_true, Bool.false_eq_true, if_false]
    split
    · simp only [wp_bind]
      apply (silent_setBleApplicationAuthenticated false).wp
      intro _ third session' quiet'
      refine ⟨(Quiet.trans quiet quiet').session _, ?_⟩
      simp only [session', session, taken, sentEnvelope]
      exact .forgotten
    · refine ⟨quiet, ?_⟩
      rw [session, taken]
      exact .answered _ (.inl rfl)

theorem wp_forgetController {payload : Bytes}
    (taken : before.session = { start with
      secrets := { start.secrets with
        expectedClientSequence :=
          start.secrets.expectedClientSequence + 1 } }) :
    wp (forgetController crypto store request payload now)
      (fun handled after =>
        Logged before after
          (if payload = ascii "\x7b\x7d" then
            [.revokeAuthenticatedController start.secrets.controllerId]
          else []) ∧
        RequestEnds before.environment.sends after.calls start now handled
          after.session)
      (fun after => payload = ascii "\x7b\x7d" ∧ Logged before after
        [.revokeAuthenticatedController start.secrets.controllerId])
      before := by
  have id : before.session.secrets.controllerId =
      start.secrets.controllerId := by
    rw [taken]
  simp only [forgetController, wp_bind, wp_get, id]
  split
  · rename_i empty
    simp only [wp_bind, wp_record]
    have logged (changed : σ) : Logged before
        { before with
          calls := before.calls ++
            [.revokeAuthenticatedController start.secrets.controllerId]
          store := changed }
        [.revokeAuthenticatedController start.secrets.controllerId] :=
      ⟨_, rfl, rfl⟩
    apply wp_callStore
    · intro revoked changed
      refine wp_post (wp_answerForget taken) ?_
      rintro handled after ⟨quiet, ends⟩
      exact ⟨(logged changed).quiet quiet, ends⟩
    · intro changed
      exact ⟨empty, logged changed⟩
  · refine wp_post (wp_answerForget taken) ?_
    rintro handled after ⟨quiet, ends⟩
    exact ⟨quiet.logged, ends⟩

/-- How a frame of an authenticated session ends. -/
inductive EnvelopeEnds (crypto : CompanionCrypto) (sends : List Bool)
    (calls : List Call) (before : KitsuBleSession) (json : Bytes)
    (now : UInt32) : Bool → KitsuBleSession → List Call → Prop where
  | violated (refused : admitRequest crypto before.secrets json = none) :
      EnvelopeEnds crypto sends calls before json now false
        (closed now .sessionProtocolViolation
          { before with
            backoffUntil := now + kBleControllerBackoffMs }) []
  | admitted {request : DecodedEnvelope} {payload : Bytes} {handled : Bool}
      {after : KitsuBleSession}
      (taken : admitRequest crypto before.secrets json = some (request, payload))
      (ends : RequestEnds sends calls before now handled after) :
      EnvelopeEnds crypto sends calls before json now handled after
        (requestOperations before.secrets request payload)

/-- A frame that is not handled has closed the session already. -/
theorem EnvelopeEnds.unhandled {after : KitsuBleSession} {sends : List Bool}
    {calls called : List Call}
    (ends : EnvelopeEnds crypto sends calls start json now false after
      called) : after.state = .closing := by
  cases ends with
  | violated => rfl
  | admitted _ finish =>
    cases finish with
    | unanswered => rfl

theorem wp_handleAuthenticatedEnvelope :
    wp (handleAuthenticatedEnvelope crypto store json now)
      (fun handled after => ∃ called,
        Logged before after called ∧
          EnvelopeEnds crypto before.environment.sends after.calls
            before.session json now handled after.session called)
      (fun after => ∃ request payload,
        admitRequest crypto before.session.secrets json =
            some (request, payload) ∧
          Logged before after
            (requestOperations before.session.secrets request payload))
      before := by
  simp only [handleAuthenticatedEnvelope, wp_bind, wp_get]
  cases taken : admitRequest crypto before.session.secrets json with
  | none =>
    simp only [wp_bind, wp_modifySession]
    apply wp_failAndClose
    intro after session quiet
    refine ⟨[], ⟨quiet.calls.choose, quiet.calls.choose_spec⟩, ?_⟩
    rw [session]
    exact .violated taken
  | some admitted =>
    rcases admitted with ⟨request, payload⟩
    simp only [wp_bind, wp_modifySecrets]
    split
    · rename_i forget
      refine wp_mono (wp_forgetController rfl) ?_ ?_
      · rintro handled after ⟨logged, ends⟩
        refine ⟨_, logged, ?_⟩
        have called := EnvelopeEnds.admitted taken ends
        simp only [requestOperations, if_pos forget] at called
        exact called
      · rintro after ⟨empty, logged⟩
        refine ⟨request, payload, rfl, ?_⟩
        simp only [requestOperations, if_pos forget, if_pos empty]
        exact logged
    · rename_i other
      refine wp_post (wp_serveRequest rfl) ?_
      rintro handled after ⟨logged, ends⟩
      refine ⟨_, logged, ?_⟩
      have called := EnvelopeEnds.admitted taken ends
      simp only [requestOperations, if_neg other] at called
      exact called

end Requesting

/-! ## Events without frames -/

section Quietly

variable {before : Machine σ} {now : UInt32} {crash : Machine σ → Prop}

/-- The session after `onSecureLinkEstablished`. -/
def linked (flags : LinkFlags) (now : UInt32) (session : KitsuBleSession) :
    KitsuBleSession :=
  let told :=
    { session with
      secureConnections := flags.secureConnections
      linkEncrypted := flags.encrypted
      linkAuthenticated := flags.authenticated
      linkBonded := flags.bonded }
  if !flags.all then closed now .secureLinkRejected told
  else if session.backoffUntil ≠ 0 ∧
      !deadlineReached now session.backoffUntil then
    { told with state := .backoff }
  else
    { told with
      backoffUntil := 0
      secrets := .cleared
      pending := .cleared
      state := .awaitingHello
      stateDeadline := now + kBleHandshakeTotalTimeoutMs
      closeAt := 0
      closeAfterTransmit := false
      pendingCloseCause := .none }

/-- The session after a state's own deadline was looked at. -/
def timedOut (now : UInt32) (session : KitsuBleSession) : KitsuBleSession :=
  if stateExpired session now then
    closed now
      (if isPairing session.state then .pairingTimeout
        else .handshakeTimeout) session
  else session

/-- The session after the link was cut, if it was due. -/
def cutLink (now : UInt32) (idle : Bool) (session : KitsuBleSession) :
    KitsuBleSession :=
  if closeDue session now idle then
    { session with closeAt := 0, closeAfterTransmit := false }
  else session

/-- The session after `loop`. -/
def looped (now : UInt32) (idle : Bool) (session : KitsuBleSession) :
    KitsuBleSession :=
  (cutLink now idle (timedOut now (session.expireWindow now))).endBackoff
    now

/-- The session after an event that is neither a frame nor a request to send. -/
def quietly (ready idle : Bool) (session : KitsuBleSession) :
    Event → KitsuBleSession
  | .begin deviceUid =>
    if !ready || !validDeviceUid deviceUid || session.begun then session
    else { session with deviceUid, state := .disconnected, begun := true }
  | .secureLink flags now =>
    if session.begun then linked flags now session else session
  | .linkClosed now =>
    if session.begun then
      ((session.clearPendingPairing.clearSessionSecrets).expireWindow now).unlinked
    else session
  | .setPairingWindow opened remaining now role =>
    if session.begun then
      session.dropPairing.setWindow
        (windowRequested opened remaining role) remaining now role
    else session
  | .loop now =>
    if session.begun then looped now idle session else session
  | .cancelPairing =>
    if session.begun then session.dropPairing.clearPendingPairing
    else session
  | .frame _ _ | .confirmPairing _ | .sendEvent _ _ => session

/-- The calls that neither read a frame nor send an envelope. -/
def isQuiet : Event → Bool
  | .frame _ _ | .confirmPairing _ | .sendEvent _ _ => false
  | _ => true

theorem wp_procedure {program : Prog (Machine σ) Unit}
    {post : Bool → Machine σ → Prop}
    (run : wp program (fun _ after => post true after) crash before) :
    wp (procedure program) post crash before := by
  simp only [procedure, wp_bind, wp_pure]
  exact run

theorem wp_onSecureLinkEstablished {flags : LinkFlags} :
    wp (onSecureLinkEstablished flags now)
      (fun _ after => Quiet before after ∧ after.session =
        if before.session.begun then linked flags now before.session
        else before.session) crash before := by
  simp only [onSecureLinkEstablished, wp_bind, wp_get]
  split
  · simp only [wp_bind, wp_modifySession, linked]
    split
    · apply wp_failAndClose
      intro after session quiet
      exact ⟨⟨quiet.store, quiet.calls⟩, session⟩
    split
    · simp only [wp_bind, wp_modifySession]
      apply (silent_disconnectBle _).wp
      intro _ after session quiet
      exact ⟨⟨quiet.store, quiet.calls⟩, session⟩
    · simp only [resetForSecureLink, wp_bind, wp_modifySession]
      apply (silent_setBleApplicationAuthenticated false).wp
      intro _ after session quiet
      refine ⟨⟨quiet.store, quiet.calls⟩, ?_⟩
      simp only [session]
      rfl
  · exact ⟨Quiet.refl before, rfl⟩

theorem wp_expireState :
    wp (expireState now) (fun _ after => Quiet before after ∧
        after.session = timedOut now before.session) crash before := by
  simp only [expireState, wp_bind, wp_get, timedOut]
  split
  · simp only [wp_bind, wp_modifySession]
    apply (silent_sendControlError _).wp
    intro _ second session quiet
    apply wp_failAndClose
    intro after session' quiet'
    refine ⟨Quiet.trans ⟨quiet.store, quiet.calls⟩ quiet', ?_⟩
    rw [session', session]
    rfl
  · exact ⟨Quiet.refl before, rfl⟩

theorem wp_closeLink :
    wp (closeLink now) (fun _ after => Quiet before after ∧
        ∃ idle, after.session = cutLink now idle before.session)
      crash before := by
  simp only [closeLink, wp_bind, wp_get]
  split
  · rename_i due
    simp only [wp_bind, wp_modifySession]
    apply (silent_disconnectBle _).wp
    intro _ after session quiet
    refine ⟨⟨quiet.store, quiet.calls⟩, before.environment.transmitIdle, ?_⟩
    rw [session, cutLink, if_pos due]
  · rename_i early
    refine ⟨Quiet.refl before, before.environment.transmitIdle, ?_⟩
    rw [cutLink, if_neg early]

theorem wp_loop :
    wp (loop now) (fun _ after => Quiet before after ∧ ∃ idle, after.session =
        if before.session.begun then looped now idle before.session
        else before.session) crash before := by
  simp only [loop, wp_bind, wp_get]
  split
  · simp only [wp_bind, wp_modifySession]
    refine wp_post wp_expireState ?_
    rintro _ second ⟨quiet, session⟩
    refine wp_post wp_closeLink ?_
    rintro _ third ⟨quiet', idle, session'⟩
    have whole : Quiet before third :=
      Quiet.trans ⟨quiet.store, quiet.calls⟩ quiet'
    refine ⟨whole.session _, idle, ?_⟩
    simp only [session', session]
    rfl
  · exact ⟨Quiet.refl before, true, rfl⟩

/-- Events without frames change the session as `quietly` says. -/
theorem wp_quietly {crypto : CompanionCrypto} {store : ControllerStore σ}
    {event : Event} (quiet : isQuiet event = true) :
    wp (event.program crypto store)
      (fun _ after => Quiet before after ∧ ∃ ready idle,
        after.session = quietly ready idle before.session event)
      crash before := by
  cases event with
  | begin deviceUid =>
    simp only [Event.program, begin, wp_bind, wp_get, quietly]
    split
    · rename_i refused
      refine ⟨Quiet.refl before, store.ready before.store, true, ?_⟩
      rw [if_pos refused]
    · rename_i accepted
      refine ⟨(Quiet.refl before).session _, store.ready before.store, true, ?_⟩
      rw [if_neg accepted]
  | secureLink flags now =>
    apply wp_procedure
    refine wp_post wp_onSecureLinkEstablished ?_
    rintro _ after ⟨quiet, session⟩
    exact ⟨quiet, true, true, session⟩
  | linkClosed now =>
    apply wp_procedure
    simp only [onLinkClosed, wp_bind, wp_get, quietly]
    split
    · exact ⟨(Quiet.refl before).session _, true, true, rfl⟩
    · exact ⟨Quiet.refl before, true, true, rfl⟩
  | setPairingWindow opened remaining now role =>
    apply wp_procedure
    simp only [setPairingWindow, wp_bind, wp_get, quietly]
    split
    · exact ⟨(Quiet.refl before).session _, true, true, rfl⟩
    · exact ⟨Quiet.refl before, true, true, rfl⟩
  | frame json now => cases quiet
  | loop now =>
    apply wp_procedure
    refine wp_post wp_loop ?_
    rintro _ after ⟨quiet, idle, session⟩
    exact ⟨quiet, true, idle, session⟩
  | confirmPairing now => cases quiet
  | cancelPairing =>
    apply wp_procedure
    simp only [cancelPendingPairing, wp_bind, wp_get, quietly]
    split
    · exact ⟨(Quiet.refl before).session _, true, true, rfl⟩
    · exact ⟨Quiet.refl before, true, true, rfl⟩
  | sendEvent operation payload => cases quiet

end Quietly

end Kitsu.Ble.SessionSteps
