import Kitsu.Ble.Action
import Kitsu.Ble.ControlFrame
import Kitsu.Lib.Run
import Kitsu.Lib.Saturating
import Kitsu.Security.Store

/-!
# The BLE session

`KitsuBleSession` of `kitsu_ble_session.cpp`, layered above the bonded link.
Every entry point is a program over the session, the controller store and what
the environment will answer; the calls it makes to the outside are recorded in
the order it makes them.  The store is an interface, instantiated below by the
store of `kitsu_device_security.cpp`; a power cut inside one of its calls stops
the session's program as well.
-/

namespace Kitsu.Ble.Session

open Kitsu.Lib.ByteString
open Kitsu.Lib.Crash
open Kitsu.Lib.Run
open Kitsu.Lib.WrapClock
open Kitsu.Ble.Permissions
open Kitsu.Ble.Action
open Kitsu.Ble.ControlFrame
open Kitsu.Companion.Envelope
open Kitsu.Companion.Handshake
open Kitsu.Security.Record
open Kitsu.Security.Store (SecurityResult LinkFacts PairingCommit)

def kBleHandshakeTotalTimeoutMs : UInt32 := 10000
def kBleControllerBackoffMs : UInt32 := 30000
def kBleMaximumProofFailures : UInt8 := 3
def kCloseDelayMs : UInt32 := 250
def kTransmitDrainTimeoutMs : UInt32 := 2000

/-- Where the session with the phone stands. -/
inductive BleSessionState where
  | disconnected
  | awaitingHello
  | awaitingClientAuth
  | authenticated
  | pairingAwaitingPhysical
  | pairingAwaitingCommit
  | closing
  | backoff
deriving DecidableEq, Repr

/-- The close causes the session gives. -/
inductive BleCloseCause where
  | none
  | secureLinkRejected
  | handshakeTimeout
  | authenticationFailed
  | sessionProtocolViolation
  | responseSendFailed
  | pairingFailed
  | pairingTimeout
  | controllerForget
  | authenticationBackoff
  | applicationRequest
deriving DecidableEq, Repr

/-- The members that `clearSessionSecrets` wipes. -/
structure Secrets where
  controllerId : Nonce
  controllerRoot : Key
  clientNonce : Nonce
  deviceNonce : Nonce
  clientToDeviceKey : Key
  deviceToClientKey : Key
  controllerKnown : Bool
  controllerRole : ControllerRole
  authenticatedRequestBarrier : Bool
  expectedClientSequence : UInt64
  nextDeviceSequence : UInt64
deriving DecidableEq

/-- No session, and no key of one. -/
def Secrets.cleared : Secrets where
  controllerId := .zero _
  controllerRoot := .zero _
  clientNonce := .zero _
  deviceNonce := .zero _
  clientToDeviceKey := .zero _
  deviceToClientKey := .zero _
  controllerKnown := false
  controllerRole := .invalid
  authenticatedRequestBarrier := false
  expectedClientSequence := 1
  nextDeviceSequence := 1

/-- The members that `clearPendingPairing` wipes. -/
structure PendingPairing where
  controllerId : Nonce
  controllerRoot : Key
  clientNonce : Nonce
  deviceNonce : Nonce
  role : ControllerRole
  version : Nat
deriving DecidableEq

/-- No pairing. -/
def PendingPairing.cleared : PendingPairing where
  controllerId := .zero _
  controllerRoot := .zero _
  clientNonce := .zero _
  deviceNonce := .zero _
  role := .invalid
  version := 0

/-- The fields of the session. -/
structure KitsuBleSession where
  deviceUid : ByteVec 7
  state : BleSessionState
  begun : Bool
  secureConnections : Bool
  linkEncrypted : Bool
  linkAuthenticated : Bool
  linkBonded : Bool
  pairingWindowOpen : Bool
  pairingWindowRole : ControllerRole
  proofFailures : UInt8
  stateDeadline : UInt32
  pairingWindowDeadline : UInt32
  closeAt : UInt32
  closeAfterTransmit : Bool
  pendingCloseCause : BleCloseCause
  backoffUntil : UInt32
  secrets : Secrets
  pending : PendingPairing
  pairingCompleted : Bool
  completedPairingRole : ControllerRole
deriving DecidableEq

/-- A session that has just been constructed. -/
def KitsuBleSession.initial : KitsuBleSession where
  deviceUid := .zero _
  state := .disconnected
  begun := false
  secureConnections := false
  linkEncrypted := false
  linkAuthenticated := false
  linkBonded := false
  pairingWindowOpen := false
  pairingWindowRole := .invalid
  proofFailures := 0
  stateDeadline := 0
  pairingWindowDeadline := 0
  closeAt := 0
  closeAfterTransmit := false
  pendingCloseCause := .none
  backoffUntil := 0
  secrets := .cleared
  pending := .cleared
  pairingCompleted := false
  completedPairingRole := .invalid

/-- The link is encrypted, authenticated and bonded. -/
def KitsuBleSession.linkSecure (session : KitsuBleSession) : Bool :=
  session.secureConnections && session.linkEncrypted &&
    session.linkAuthenticated && session.linkBonded

/-! ## The environment -/

/-- What the session uses of the controller store. -/
structure ControllerStore (σ : Type) where
  ready : σ → Bool
  controllerCount : σ → Nat
  findControllerRoot : σ → ControllerId → Option (Secret × ControllerRole)
  generatePendingControllerRoot : LinkFacts →
    Prog σ (SecurityResult × Secret)
  commitControllerAfterPairing : PairingCommit → Prog σ SecurityResult
  revokeAuthenticatedController : ControllerId → Prog σ SecurityResult

/-- The calls a session makes to the outside. -/
inductive Call where
  | randomBytes (bytes : Bytes)
  | sendBleJson (json : Bytes)
  | setBleApplicationAuthenticated (authenticated : Bool)
  | disconnectBle (cause : BleCloseCause)
  | handleAuthorizedBleRequest (role : ControllerRole)
      (request : DecodedEnvelope) (payload : Bytes)
  | generatePendingControllerRoot (result : SecurityResult) (root : Secret)
  | commitControllerAfterPairing (commit : PairingCommit)
  | revokeAuthenticatedController (controllerId : ControllerId)
deriving DecidableEq

/-- What the environment answers during one entry point. -/
structure Environment where
  random : List (Option (Nat → UInt8))
  sends : List Bool
  flags : List Bool
  transmitIdle : Bool
  respond : ControllerRole → DecodedEnvelope → Bytes → Option Bytes

/--
The session with the store it uses, what its calls return and a log of them.
-/
structure Machine (σ : Type) where
  session : KitsuBleSession
  store : σ
  environment : Environment
  calls : List Call

variable {σ : Type}

/-- Change the fields of the session. -/
def modifySession (update : KitsuBleSession → KitsuBleSession) :
    Prog (Machine σ) Unit :=
  Prog.modify fun machine =>
    { machine with session := update machine.session }

def record (call : Call) : Prog (Machine σ) Unit :=
  Prog.modify fun machine =>
    { machine with calls := machine.calls ++ [call] }

/-- A call of the store. -/
def callStore {α : Type} (program : Prog σ α) : Prog (Machine σ) α :=
  fun machine =>
    match program machine.store with
    | .done value store => .done value { machine with store }
    | .cut store => .cut { machine with store }

/-- The next bytes of the random source, which may fail. -/
def randomBytes (count : Nat) :
    Prog (Machine σ) (Option (ByteVec count)) := fun machine =>
  match machine.environment.random with
  | [] => .done none machine
  | source :: later =>
    let bytes := source.map (ByteVec.generate count)
    .done bytes
      { machine with
        environment := { machine.environment with random := later }
        calls := machine.calls ++
          (bytes.map fun filled => .randomBytes filled.bytes).toList }

/-- Send a frame over the link, which may fail. -/
def sendBleJson (json : Bytes) : Prog (Machine σ) Bool := fun machine =>
  .done (machine.environment.sends.headD true)
    { machine with
      environment :=
        { machine.environment with sends := machine.environment.sends.tail }
      calls := machine.calls ++ [.sendBleJson json] }

/-- Tell the link whether its peer is authenticated. -/
def setBleApplicationAuthenticated (authenticated : Bool) :
    Prog (Machine σ) Bool := fun machine =>
  .done (machine.environment.flags.headD true)
    { machine with
      environment :=
        { machine.environment with flags := machine.environment.flags.tail }
      calls := machine.calls ++
        [.setBleApplicationAuthenticated authenticated] }

/-- Tell the link to close. -/
def disconnectBle (cause : BleCloseCause) : Prog (Machine σ) Unit :=
  record (.disconnectBle cause)

/-! ## Closing -/

/-- Wipe the keys of the session. -/
def KitsuBleSession.clearSessionSecrets
    (session : KitsuBleSession) : KitsuBleSession :=
  { session with secrets := .cleared }

/-- Wipe the pairing that was begun. -/
def KitsuBleSession.clearPendingPairing
    (session : KitsuBleSession) : KitsuBleSession :=
  { session with pending := .cleared }

/-- Send a frame, unless its buffer was too small. -/
def sendFrame (frame : Option Bytes) : Prog (Machine σ) Bool :=
  match frame with
  | none => pure false
  | some json => sendBleJson json

/-- Tell the phone an error. -/
def sendControlError (code : String) : Prog (Machine σ) Bool :=
  sendFrame (errorFrame code)

/-- The members after a failed proof was counted and answered. -/
def KitsuBleSession.afterProofFailure (now : UInt32)
    (session : KitsuBleSession) : KitsuBleSession :=
  if session.proofFailures ≥ kBleMaximumProofFailures then
    { session with
      backoffUntil := now + kBleControllerBackoffMs
      state := .closing
      closeAt := now + kCloseDelayMs
      closeAfterTransmit := false
      pendingCloseCause := .authenticationFailed }
  else { session with state := .awaitingHello }

/-- Count a failed proof, up to what a byte holds. -/
def KitsuBleSession.countProofFailure
    (session : KitsuBleSession) : KitsuBleSession :=
  if session.proofFailures < 0xff then
    { session with proofFailures := session.proofFailures + 1 }
  else session

/-- A proof was wrong: the session ends and the peer has to wait. -/
def failProof (now : UInt32) : Prog (Machine σ) Unit := do
  modifySession fun session =>
    session.clearPendingPairing.clearSessionSecrets
  let _ ← setBleApplicationAuthenticated false
  modifySession KitsuBleSession.countProofFailure
  let _ ← sendControlError "auth_failed"
  modifySession (KitsuBleSession.afterProofFailure now)

/-- The members `failAndClose` sets behind the wiping. -/
def KitsuBleSession.startClosing (now : UInt32) (cause : BleCloseCause)
    (session : KitsuBleSession) : KitsuBleSession :=
  { session with
    pendingCloseCause :=
      if session.pendingCloseCause = .none then
        if cause = .none then .applicationRequest else cause
      else session.pendingCloseCause
    state := .closing
    closeAt := now + kCloseDelayMs
    closeAfterTransmit := false }

/-- The session ends and its link is closed. -/
def failAndClose (now : UInt32) (cause : BleCloseCause) :
    Prog (Machine σ) Unit := do
  modifySession fun session =>
    session.clearPendingPairing.clearSessionSecrets
  let _ ← setBleApplicationAuthenticated false
  modifySession (KitsuBleSession.startClosing now cause)

/-! ## Link events and the pairing window -/

/-- Begin once, with a store that is ready and a valid name. -/
def begin (store : ControllerStore σ) (deviceUid : ByteVec 7) :
    Prog (Machine σ) Bool := do
  let machine ← Prog.get
  if !store.ready machine.store || !validDeviceUid deviceUid ||
      machine.session.begun then pure false
  else
    modifySession fun session =>
      { session with deviceUid, state := .disconnected, begun := true }
    pure true

/-- A new link starts without secrets. -/
def resetForSecureLink (now : UInt32) : Prog (Machine σ) Unit := do
  modifySession fun session =>
    session.clearSessionSecrets.clearPendingPairing
  let _ ← setBleApplicationAuthenticated false
  modifySession fun session =>
    { session with
      state := .awaitingHello
      stateDeadline := now + kBleHandshakeTotalTimeoutMs
      closeAt := 0
      closeAfterTransmit := false
      pendingCloseCause := .none }

/-- The facts reported with a link. -/
structure LinkFlags where
  secureConnections : Bool
  encrypted : Bool
  authenticated : Bool
  bonded : Bool

def LinkFlags.all (flags : LinkFlags) : Bool :=
  flags.secureConnections && flags.encrypted && flags.authenticated &&
    flags.bonded

/-- A link was established; one that is not secure is closed. -/
def onSecureLinkEstablished (flags : LinkFlags) (now : UInt32) :
    Prog (Machine σ) Unit := do
  let machine ← Prog.get
  if machine.session.begun then
    modifySession fun session =>
      { session with
        secureConnections := flags.secureConnections
        linkEncrypted := flags.encrypted
        linkAuthenticated := flags.authenticated
        linkBonded := flags.bonded }
    if !flags.all then failAndClose now .secureLinkRejected
    else if machine.session.backoffUntil ≠ 0 ∧
        !deadlineReached now machine.session.backoffUntil then
      modifySession fun session => { session with state := .backoff }
      disconnectBle .authenticationBackoff
    else
      modifySession fun session => { session with backoffUntil := 0 }
      resetForSecureLink now

/-- Close the pairing window once its deadline is reached. -/
def KitsuBleSession.expireWindow (now : UInt32)
    (session : KitsuBleSession) : KitsuBleSession :=
  if session.pairingWindowOpen ∧
      deadlineReached now session.pairingWindowDeadline then
    { session with
      pairingWindowOpen := false
      pairingWindowDeadline := 0
      pairingWindowRole := .invalid }
  else session

/-- The members `onLinkClosed` sets; the window outlives the link. -/
def KitsuBleSession.unlinked (session : KitsuBleSession) : KitsuBleSession :=
  { session with
    secureConnections := false
    linkEncrypted := false
    linkAuthenticated := false
    linkBonded := false
    stateDeadline := 0
    closeAt := 0
    closeAfterTransmit := false
    pendingCloseCause := .none
    state :=
      if session.backoffUntil = 0 then .disconnected else .backoff }

/-- The link is gone, and with it the secrets of its session. -/
def onLinkClosed (now : UInt32) : Prog (Machine σ) Unit := do
  let machine ← Prog.get
  if machine.session.begun then
    modifySession fun session =>
      ((session.clearPendingPairing.clearSessionSecrets).expireWindow now).unlinked

def isPairing (state : BleSessionState) : Bool :=
  state == .pairingAwaitingPhysical || state == .pairingAwaitingCommit

/-- Leave a pairing that is under way. -/
def KitsuBleSession.dropPairing (session : KitsuBleSession) : KitsuBleSession :=
  if isPairing session.state then
    { session.clearPendingPairing with state := .awaitingHello }
  else session

/-- Open or close the pairing window for a role. -/
def KitsuBleSession.setWindow (opened : Bool) (remaining now : UInt32)
    (role : ControllerRole) (session : KitsuBleSession) : KitsuBleSession :=
  { session with
    pairingWindowOpen := opened
    pairingWindowRole := if opened then role else .invalid
    pairingWindowDeadline := if opened then now + remaining else 0
    pairingCompleted := false
    completedPairingRole := .invalid }

/-- The window is only opened for a role and for at most a minute. -/
def windowRequested (opened : Bool) (remaining : UInt32)
    (role : ControllerRole) : Bool :=
  opened && validPairingRole role && remaining != 0 &&
    remaining ≤ 60000

/-- The button opens or closes the pairing window. -/
def setPairingWindow (opened : Bool) (remaining now : UInt32)
    (role : ControllerRole) : Prog (Machine σ) Unit := do
  let machine ← Prog.get
  if machine.session.begun then
    modifySession fun session =>
      session.dropPairing.setWindow (windowRequested opened remaining role)
        remaining now role

/-- The player takes the pairing back. -/
def cancelPendingPairing : Prog (Machine σ) Unit := do
  let machine ← Prog.get
  if machine.session.begun then
    modifySession fun session =>
      session.dropPairing.clearPendingPairing

/-! ## The handshake -/

def modifySecrets (update : Secrets → Secrets) : Prog (Machine σ) Unit :=
  modifySession fun session =>
    { session with secrets := update session.secrets }

/-- Change the pairing that was begun. -/
def modifyPending (update : PendingPairing → PendingPairing) :
    Prog (Machine σ) Unit :=
  modifySession fun session =>
    { session with pending := update session.pending }

/-- The secrets after a `client_hello` was read into them. -/
def readClientHello (json : Bytes) (secrets : Secrets) : Secrets × Bool :=
  match parseFlatObject json with
  | none => (secrets, false)
  | some fields =>
    if !(schemaMatches fields
          ["v", "type", "controller_id_b64", "client_nonce_b64"] &&
        validVersion fields &&
        stringFieldEquals fields "type" "client_hello") then
      (secrets, false)
    else
      let id :=
        decodeExact fields "controller_id_b64" secrets.controllerId
      if !id.2 then ({ secrets with controllerId := id.1 }, false)
      else
        let nonce :=
          decodeExact fields "client_nonce_b64" secrets.clientNonce
        ({ secrets with controllerId := id.1, clientNonce := nonce.1 },
          nonce.2 && !id.1.allZero)

variable (crypto : CompanionCrypto) (store : ControllerStore σ)

/-- An unknown controller gets a random root, so that the answer looks alike. -/
def lookUpController : Prog (Machine σ) Bool := do
  let machine ← Prog.get
  match store.findControllerRoot machine.store
    machine.session.secrets.controllerId with
  | some (root, role) =>
    modifySecrets fun secrets =>
      { secrets with
        controllerKnown := true
        controllerRoot := root
        controllerRole := role }
    pure true
  | none =>
    modifySecrets fun secrets =>
      { secrets with
        controllerKnown := false
        controllerRoot := .zero _
        controllerRole := .invalid }
    match ← randomBytes 32 with
    | none => pure false
    | some root =>
      modifySecrets fun secrets => { secrets with controllerRoot := root }
      pure true

/-- The phone names its controller; the device answers with its proof. -/
def handleClientHello (json : Bytes) : Prog (Machine σ) Bool := do
  let machine ← Prog.get
  let read := readClientHello json machine.session.secrets
  modifySecrets fun _ => read.1
  if !read.2 then pure false
  else
    if !(← lookUpController store) then pure false
    else
      match ← randomBytes 16 with
      | none => pure false
      | some nonce =>
        modifySecrets fun secrets => { secrets with deviceNonce := nonce }
        let machine ← Prog.get
        let secrets := machine.session.secrets
        let answer :=
          (makeHandshakeProof crypto secrets.controllerRoot .device
            secrets.controllerId secrets.clientNonce nonce).bind
            (deviceHelloFrame nonce)
        if !(← sendFrame answer) then pure false
        else
          modifySession fun session =>
            { session with state := .awaitingClientAuth }
          pure true

/-- A field decoded into a local buffer. -/
def decodeField (count : Nat) (fields : List FlatField) (name : String) :
    Option (ByteVec count) :=
  let decoded := decodeExact fields name (ByteVec.zero count)
  if decoded.2 then some decoded.1 else none

/-- The proof of a `client_auth` frame. -/
def readClientAuth (json : Bytes) : Option Key :=
  match parseFlatObject json with
  | none => none
  | some fields =>
    if !(schemaMatches fields ["v", "type", "proof_b64"] &&
        validVersion fields &&
        stringFieldEquals fields "type" "client_auth") then none
    else decodeField 32 fields "proof_b64"

/-- The proof is the client's, by a controller that the store knows. -/
def clientVerified (secrets : Secrets) (supplied : Key) : Bool :=
  match makeHandshakeProof crypto secrets.controllerRoot .client
    secrets.controllerId secrets.clientNonce secrets.deviceNonce with
  | none => false
  | some expected => secrets.controllerKnown && expected == supplied

/-- The session of a client that has proved itself. -/
def KitsuBleSession.enter (session : KitsuBleSession) : KitsuBleSession :=
  { session with
    secrets :=
      { session.secrets with
        controllerRoot := .zero _
        expectedClientSequence := 1
        nextDeviceSequence := 1 }
    proofFailures := 0
    stateDeadline := 0
    state := .authenticated }

/-- The phone proves itself; the session keys are derived. -/
def handleClientAuth (json : Bytes) : Prog (Machine σ) Bool := do
  let machine ← Prog.get
  let secrets := machine.session.secrets
  match readClientAuth json with
  | none => pure false
  | some supplied =>
    if !clientVerified crypto secrets supplied then pure false
    else
      match deriveBleSessionKeys crypto secrets.controllerRoot
        secrets.clientNonce secrets.deviceNonce with
      | none =>
        modifySecrets fun secrets =>
          { secrets with
            clientToDeviceKey := .zero _
            deviceToClientKey := .zero _ }
        pure false
      | some (clientToDevice, deviceToClient) =>
        modifySecrets fun secrets =>
          { secrets with
            clientToDeviceKey := clientToDevice
            deviceToClientKey := deviceToClient }
        let okProof :=
          (makeHandshakeProof crypto secrets.controllerRoot .ok
            secrets.controllerId secrets.clientNonce
            secrets.deviceNonce).bind fun proof => encodeB64 proof 43
        match okProof with
        | none => pure false
        | some proofB64 =>
          if !(← setBleApplicationAuthenticated true) then pure false
          else
            if !(← sendFrame (deviceOkFrame proofB64)) then
              let _ ← setBleApplicationAuthenticated false
              pure false
            else
              modifySession KitsuBleSession.enter
              pure true

/-! ## Pairing -/

/-- The label and the platform of a `pair_request` are acceptable. -/
def validPairLabel (fields : List FlatField) : Bool :=
  match findField fields "label", findField fields "platform" with
  | some label, some platform =>
    label.kind == .string && label.value.bytes != [] &&
      label.value.bytes.length ≤ 96 && platform.kind == .string &&
      validPlatform platform.value
  | _, _ => false

/-- The version of a `pair_request`, and the nonce buffer it was read into. -/
def readPairRequest (json : Bytes) (clientNonce : Nonce) :
    Nonce × Option Nat :=
  match parseFlatObject json with
  | none => (clientNonce, none)
  | some fields =>
    if !(schemaMatches fields
          ["v", "type", "client_nonce_b64", "label", "platform"] &&
        (versionEquals fields 1 || versionEquals fields 2) &&
        stringFieldEquals fields "type" "pair_request") then
      (clientNonce, none)
    else
      let nonce := decodeExact fields "client_nonce_b64" clientNonce
      if !(nonce.2 && validPairLabel fields) then (nonce.1, none)
      else (nonce.1, some (if versionEquals fields 1 then 1 else 2))

/-- Answer a pairing request that cannot be granted. -/
def refusePairing (code : String) : Prog (Machine σ) Bool := do
  modifySession KitsuBleSession.clearPendingPairing
  let _ ← sendControlError code
  pure true

/-- The phone asks to be paired while the window is open. -/
def handlePairRequest (json : Bytes) (now : UInt32) :
    Prog (Machine σ) Bool := do
  let machine ← Prog.get
  let session := machine.session
  let read := readPairRequest json session.pending.clientNonce
  modifyPending fun pending => { pending with clientNonce := read.1 }
  match read.2 with
  | none => pure false
  | some version =>
    if !session.pairingWindowOpen ||
        deadlineReached now session.pairingWindowDeadline then
      refusePairing "pairing_closed"
    else if version ≠ pairingVersionForRole session.pairingWindowRole then
      pure false
    else if store.controllerCount machine.store ≥
        kKitsuControllerCapacity then
      refusePairing "controller_full"
    else
      match ← randomBytes 16 with
      | none => pure false
      | some nonce =>
        modifyPending fun pending =>
          { pending with
            deviceNonce := nonce
            version := version
            role := session.pairingWindowRole }
        modifySession fun session =>
          { session with
            pairingCompleted := false
            completedPairingRole := .invalid }
        let answer := (encodeB64 nonce 22).bind fun text =>
          pairPendingFrame version text
            (session.pairingWindowDeadline - now)
        if !(← sendFrame answer) then pure false
        else
          modifySession fun session =>
            { session with
              state := .pairingAwaitingPhysical
              stateDeadline := session.pairingWindowDeadline }
          pure true

/-- The proof of the pairing, bound to the role in the second version. -/
def makePendingPairingProof (session : KitsuBleSession) (role : ProofRole) :
    Option Key :=
  let pending := session.pending
  if pending.version = 1 ∧ pending.role = .owner then
    makePairingProof crypto pending.controllerRoot role
      pending.controllerId session.deviceUid pending.clientNonce
      pending.deviceNonce
  else if pending.version = 2 ∧ pending.role = .caretaker then
    makeRoleBoundPairingProof crypto pending.controllerRoot role
      "caretaker" pending.controllerId session.deviceUid
      pending.clientNonce pending.deviceNonce
  else none

/-- Draw an identity that no controller has. -/
def drawControllerId : Nat → Prog (Machine σ) Bool
  | 0 => pure false
  | attempts + 1 => do
      match ← randomBytes 16 with
      | none => drawControllerId attempts
      | some id =>
        modifyPending fun pending => { pending with controllerId := id }
        let machine ← Prog.get
        if id.allZero ||
            (store.findControllerRoot machine.store id).isSome then
          drawControllerId attempts
        else pure true

/-- Give up a pairing that was confirmed. -/
def abandonPairing (now : UInt32) (cause : BleCloseCause) :
    Prog (Machine σ) Bool := do
  modifySession KitsuBleSession.clearPendingPairing
  failAndClose now cause
  pure false

/-- The confirmation is for the pairing that the open window admitted. -/
def confirmable (session : KitsuBleSession) (now : UInt32) : Bool :=
  session.begun && session.state == .pairingAwaitingPhysical &&
    session.pairingWindowOpen &&
    !deadlineReached now session.stateDeadline && session.linkSecure &&
    session.pending.role == session.pairingWindowRole &&
    session.pending.version ==
      pairingVersionForRole session.pairingWindowRole

/-- What the store is told of the link when a pairing is confirmed. -/
def KitsuBleSession.pairingFacts (session : KitsuBleSession) : LinkFacts where
  secureConnections := session.secureConnections
  linkEncrypted := session.linkEncrypted
  bonded := session.linkBonded
  physicalConfirmed := true

/-- The grant of a pending pairing; the writer may still be too small. -/
def grantFrame (session : KitsuBleSession) : Option (Option Bytes) := do
  let pending := session.pending
  let proof ← makePendingPairingProof crypto session .device
  let controllerB64 ← encodeB64 pending.controllerId 22
  let rootB64 ← encodeB64 pending.controllerRoot 43
  let clientNonceB64 ← encodeB64 pending.clientNonce 22
  let deviceNonceB64 ← encodeB64 pending.deviceNonce 22
  let proofB64 ← encodeB64 proof 43
  pure (pairGrantFrame pending.version controllerB64 rootB64
    session.deviceUid clientNonceB64 deviceNonceB64 proofB64)

/-- Hand the new root to the phone, which then has to commit. -/
def sendGrant (now : UInt32) : Prog (Machine σ) Bool := do
  let machine ← Prog.get
  match grantFrame crypto machine.session with
  | none => abandonPairing now .pairingFailed
  | some grant =>
    if !(← sendFrame grant) then abandonPairing now .responseSendFailed
    else
      modifySession fun session =>
        { session with state := .pairingAwaitingCommit }
      pure true

/-- The player confirms the pairing: a root is made and handed over. -/
def confirmPendingPairing (now : UInt32) : Prog (Machine σ) Bool := do
  let machine ← Prog.get
  if !confirmable machine.session now then pure false
  else
    let (result, root) ← callStore (store.generatePendingControllerRoot
      machine.session.pairingFacts)
    record (.generatePendingControllerRoot result root)
    modifyPending fun pending => { pending with controllerRoot := root }
    if result ≠ .ok then
      modifySession KitsuBleSession.clearPendingPairing
      let machine ← Prog.get
      let _ ← sendControlError
        (if store.controllerCount machine.store ≥ kKitsuControllerCapacity
          then "controller_full" else "auth_failed")
      pure false
    else if !(← drawControllerId store 8) then
      abandonPairing now .pairingFailed
    else sendGrant crypto now

/-- The proof of a `pair_commit` frame for the pending pairing. -/
def readPairCommit (pending : PendingPairing) (json : Bytes) : Option Key :=
  match parseFlatObject json with
  | none => none
  | some fields =>
    let matching :=
      if pending.version = 1 ∧ pending.role = .owner then
        schemaMatches fields ["v", "type", "proof_b64"] &&
          versionEquals fields 1
      else
        pending.version == 2 && pending.role == .caretaker &&
          schemaMatches fields ["v", "type", "role", "proof_b64"] &&
          versionEquals fields 2 &&
          stringFieldEquals fields "role" "caretaker"
    if !(matching && stringFieldEquals fields "type" "pair_commit") then
      none
    else decodeField 32 fields "proof_b64"

/-- The arguments the session commits a pairing with. -/
def KitsuBleSession.commitment (session : KitsuBleSession) : PairingCommit where
  controllerId := session.pending.controllerId
  pendingRoot := session.pending.controllerRoot
  facts := session.pairingFacts
  pairCommitVerified := true
  role := session.pending.role

/-- Answer a commit that the store has taken. -/
def finishPairing (version : Nat) (role : ControllerRole) (okProof : Key)
    (now : UInt32) : Prog (Machine σ) Bool := do
  match encodeB64 okProof 43 with
  | none => abandonPairing now .pairingFailed
  | some proofB64 =>
    let sent ← sendFrame (pairOkFrame version proofB64)
    modifySession fun session =>
      { session.clearPendingPairing with
        pairingCompleted := true
        completedPairingRole := role
        state := .awaitingHello }
    if !sent then failAndClose now .responseSendFailed
    pure sent

/-- The phone proves that it has the root; the controller is stored. -/
def handlePairCommit (json : Bytes) (now : UInt32) :
    Prog (Machine σ) Bool := do
  let machine ← Prog.get
  let session := machine.session
  match readPairCommit session.pending json,
    makePendingPairingProof crypto session .client,
    makePendingPairingProof crypto session .ok with
  | some supplied, some expected, some okProof =>
    if expected ≠ supplied then pure false
    else
      record (.commitControllerAfterPairing session.commitment)
      let committed ← callStore
        (store.commitControllerAfterPairing session.commitment)
      if committed ≠ .ok then
        modifySession KitsuBleSession.clearPendingPairing
        let _ ← sendControlError
          (if committed = .controllerTableFull then "controller_full"
            else "auth_failed")
        pure false
      else
        finishPairing session.pending.version session.pending.role
          okProof now
  | _, _, _ => pure false

/-! ## Authenticated requests -/

/-- Send a sealed envelope with the next sequence number. -/
def sendAuthenticated (channel : EnvelopeChannel) (requestId : Nonce)
    (operation payload : Bytes) : Prog (Machine σ) Bool := do
  let machine ← Prog.get
  let secrets := machine.session.secrets
  if machine.session.state ≠ .authenticated ∨
      secrets.nextDeviceSequence = 0xffffffffffffffff then pure false
  else
    match ← randomBytes 16 with
    | none => pure false
    | some nonce =>
      match encodeEnvelope crypto
        ⟨channel, secrets.nextDeviceSequence, nonce, requestId,
          operation⟩ payload secrets.deviceToClientKey
        kMaximumFrameBytes with
      | .error _ => pure false
      | .ok json =>
        if !(← sendBleJson json) then pure false
        else
          modifySecrets fun secrets =>
            { secrets with
              nextDeviceSequence := secrets.nextDeviceSequence + 1 }
          pure true

/-- The role may make the request; an action is decided by its kind. -/
def requestAllowed (role : ControllerRole) (operation payload : Bytes) :
    Bool :=
  match controllerPermission role (.operation operation) with
  | .allowed => true
  | .actionRequired =>
    match decodeBleActionCommand payload with
    | .ok command =>
      controllerPermission role (.bleAction command.kind) == .allowed
    | .error _ => false
  | _ => false

/-- The request of a frame that is not a protocol violation. -/
def admitRequest (secrets : Secrets) (json : Bytes) :
    Option (DecodedEnvelope × Bytes) :=
  match decodeAndVerifyEnvelope crypto json secrets.clientToDeviceKey
    .request secrets.expectedClientSequence with
  | .error _ => none
  | .ok (request, payload) =>
    if requestAllowed secrets.controllerRole request.operation payload &&
        secrets.expectedClientSequence != 0xffffffffffffffff then
      some (request, payload)
    else none

/-- The answer to a controller that is forgotten. -/
def forgetAccepted : Bytes :=
  ascii
    "\x7b\"schema\":\"kitsu.controller-forget.v1\",\"accepted\":true\x7d"

/-- The answer to a controller that could not be forgotten. -/
def forgetRejected : Bytes :=
  ascii "\x7b\"schema\":\"kitsu.controller-forget.v1\",\"accepted\":false,"
    ++ ascii "\"error\":\"storage_failed\"\x7d"

/-- The answer in place of one that is missing, empty or too long. -/
def requestRejected : Bytes :=
  ascii "\x7b\"ok\":false,\"error\":\"request_rejected\"\x7d"

/-- The session that waits for its last response to leave. -/
def KitsuBleSession.forgotten (now : UInt32)
    (session : KitsuBleSession) : KitsuBleSession :=
  { session.clearSessionSecrets with
    state := .closing
    closeAfterTransmit := true
    closeAt := now + kTransmitDrainTimeoutMs
    pendingCloseCause := .controllerForget }

/-- Answer a forget request; a controller that is gone loses its session. -/
def answerForget (request : DecodedEnvelope) (revoked : SecurityResult)
    (now : UInt32) : Prog (Machine σ) Bool := do
  let machine ← Prog.get
  let stillAuthorized := (store.findControllerRoot machine.store
    machine.session.secrets.controllerId).isSome
  if !(← sendAuthenticated crypto .response request.requestId request.operation
      (if revoked = .ok then forgetAccepted else forgetRejected)) then
    failAndClose now .responseSendFailed
    pure false
  else if revoked = .ok ∨ !stillAuthorized then
    let _ ← setBleApplicationAuthenticated false
    modifySession (KitsuBleSession.forgotten now)
    pure true
  else pure true

/-- The controller asks to be forgotten. -/
def forgetController (request : DecodedEnvelope) (payload : Bytes)
    (now : UInt32) : Prog (Machine σ) Bool := do
  let machine ← Prog.get
  let controllerId := machine.session.secrets.controllerId
  if payload = ascii "\x7b\x7d" then
    record (.revokeAuthenticatedController controllerId)
    let revoked ←
      callStore (store.revokeAuthenticatedController controllerId)
    answerForget crypto store request revoked now
  else answerForget crypto store request .invalidArgument now

/-- The delegate's response, or the refusal that replaces it. -/
def boundedResponse (response : Option Bytes) : Bytes :=
  match response with
  | none => requestRejected
  | some bytes =>
    if bytes = [] ∨ bytes.length > kMaximumEnvelopePayloadBytes then
      requestRejected
    else bytes

/-- Hand a request to its handler and send the answer. -/
def serveRequest (request : DecodedEnvelope) (payload : Bytes)
    (now : UInt32) : Prog (Machine σ) Bool := do
  let machine ← Prog.get
  let role := machine.session.secrets.controllerRole
  record (.handleAuthorizedBleRequest role request payload)
  let response :=
    boundedResponse (machine.environment.respond role request payload)
  if !(← sendAuthenticated crypto .response request.requestId
      request.operation response) then
    failAndClose now .responseSendFailed
    pure false
  else
    modifySecrets fun secrets =>
      { secrets with authenticatedRequestBarrier := true }
    pure true

/-- A sealed request; one that is not admitted ends the session. -/
def handleAuthenticatedEnvelope (json : Bytes) (now : UInt32) :
    Prog (Machine σ) Bool := do
  let machine ← Prog.get
  match admitRequest crypto machine.session.secrets json with
  | none =>
    modifySession fun session =>
      { session with backoffUntil := now + kBleControllerBackoffMs }
    failAndClose now .sessionProtocolViolation
    pure false
  | some (request, payload) =>
    modifySecrets fun secrets =>
      { secrets with
        expectedClientSequence := secrets.expectedClientSequence + 1 }
    if request.operation = ascii "controller.forget" then
      forgetController crypto store request payload now
    else serveRequest crypto request payload now

/-! ## Frames, time and events -/

/-- The frame of a session that waits for a client. -/
def handleGreeting (json : Bytes) (now : UInt32) :
    Prog (Machine σ) Bool :=
  match parseFlatObject json with
  | none => pure false
  | some fields =>
    if validVersion fields &&
        stringFieldEquals fields "type" "client_hello" then
      handleClientHello crypto store json
    else if (versionEquals fields 1 || versionEquals fields 2) &&
        stringFieldEquals fields "type" "pair_request" then
      handlePairRequest store json now
    else pure false

/-- A frame is handled by the state of the session. -/
def dispatchFrame (json : Bytes) (now : UInt32) : Prog (Machine σ) Bool :=
  do
    let machine ← Prog.get
    match machine.session.state with
    | .awaitingHello => handleGreeting crypto store json now
    | .awaitingClientAuth => handleClientAuth crypto json
    | .authenticated => handleAuthenticatedEnvelope crypto store json now
    | .pairingAwaitingCommit => handlePairCommit crypto store json now
    | .pairingAwaitingPhysical | .closing | .backoff | .disconnected =>
      pure false

/-- The handshake's time is up. -/
def handshakeExpired (session : KitsuBleSession) (now : UInt32) : Bool :=
  (session.state == .awaitingHello ||
    session.state == .awaitingClientAuth) &&
    deadlineReached now session.stateDeadline

/-- A frame that was not handled is a failed proof. -/
def settleFrame (handled : Bool) (now : UInt32) :
    Prog (Machine σ) Unit := do
  let machine ← Prog.get
  if !handled ∧ machine.session.state ≠ .closing then failProof now

/-- A session without a transport dereferences a null pointer. -/
def dereferenceNull : Prog (Machine σ) Unit :=
  fun machine => .cut machine

/-- A frame arrives; it counts only on a secure link and within the time. -/
def onFrame (json : Bytes) (now : UInt32) : Prog (Machine σ) Unit := do
  let machine ← Prog.get
  if !machine.session.begun then dereferenceNull
  else if json = [] ∨ !machine.session.linkSecure then
    failAndClose now
      (if machine.session.linkSecure then .sessionProtocolViolation
        else .secureLinkRejected)
  else if handshakeExpired machine.session now then
    let _ ← sendControlError "timeout"
    failAndClose now .handshakeTimeout
  else
    let handled ← dispatchFrame crypto store json now
    settleFrame handled now

/-- A state with a deadline of its own is past it. -/
def stateExpired (session : KitsuBleSession) (now : UInt32) : Bool :=
  (session.state == .awaitingHello ||
    session.state == .awaitingClientAuth || isPairing session.state) &&
    session.stateDeadline != 0 &&
    deadlineReached now session.stateDeadline

/-- The link is to be cut now. -/
def closeDue (session : KitsuBleSession) (now : UInt32) (idle : Bool) : Bool :=
  session.state == .closing &&
    ((session.closeAfterTransmit && idle) ||
      (session.closeAt != 0 && deadlineReached now session.closeAt))

/-- The time to wait is over. -/
def KitsuBleSession.endBackoff (now : UInt32)
    (session : KitsuBleSession) : KitsuBleSession :=
  if session.state = .backoff ∧ session.backoffUntil ≠ 0 ∧
      deadlineReached now session.backoffUntil then
    { session with backoffUntil := 0, state := .disconnected }
  else session

/-- Close a session whose state is past its deadline. -/
def expireState (now : UInt32) : Prog (Machine σ) Unit := do
  let machine ← Prog.get
  if stateExpired machine.session now then
    modifySession KitsuBleSession.clearPendingPairing
    let _ ← sendControlError "timeout"
    failAndClose now
      (if isPairing machine.session.state then .pairingTimeout
        else .handshakeTimeout)

/-- Cut the link of a session that has closed. -/
def closeLink (now : UInt32) : Prog (Machine σ) Unit := do
  let machine ← Prog.get
  if closeDue machine.session now machine.environment.transmitIdle then
    modifySession fun session =>
      { session with closeAt := 0, closeAfterTransmit := false }
    disconnectBle machine.session.pendingCloseCause

/-- The passing of time: the window, the deadlines, the closing, the backoff. -/
def loop (now : UInt32) : Prog (Machine σ) Unit := do
  let machine ← Prog.get
  if machine.session.begun then
    modifySession (KitsuBleSession.expireWindow now)
    expireState now
    closeLink now
    modifySession (KitsuBleSession.endBackoff now)

/-- Send an event to an authenticated phone. -/
def sendEvent (operation payload : Bytes) : Prog (Machine σ) Bool := do
  let machine ← Prog.get
  if !machine.session.secrets.authenticatedRequestBarrier then pure false
  else
    match ← randomBytes 16 with
    | none => pure false
    | some requestId =>
      sendAuthenticated crypto .event requestId operation payload

/-! ## Runs -/

/-- The entry points. -/
inductive Event where
  | begin (deviceUid : ByteVec 7)
  | secureLink (flags : LinkFlags) (now : UInt32)
  | linkClosed (now : UInt32)
  | setPairingWindow (opened : Bool) (remaining now : UInt32)
      (role : ControllerRole)
  | frame (json : Bytes) (now : UInt32)
  | loop (now : UInt32)
  | confirmPairing (now : UInt32)
  | cancelPairing
  | sendEvent (operation payload : Bytes)

/-- Run an entry point that returns nothing. -/
def procedure (program : Prog (Machine σ) Unit) : Prog (Machine σ) Bool := do
  program
  pure true

/-- The program of a call. -/
def Event.program : Event → Prog (Machine σ) Bool
  | .begin deviceUid => Session.begin store deviceUid
  | .secureLink flags now => procedure (onSecureLinkEstablished flags now)
  | .linkClosed now => procedure (onLinkClosed now)
  | .setPairingWindow opened remaining now role =>
    procedure (Session.setPairingWindow opened remaining now role)
  | .frame json now => procedure (onFrame crypto store json now)
  | .loop now => procedure (Session.loop now)
  | .confirmPairing now => confirmPendingPairing crypto store now
  | .cancelPairing => procedure cancelPendingPairing
  | .sendEvent operation payload =>
    Session.sendEvent crypto operation payload

/-- A session and its store between two entry points. -/
structure System (σ : Type) where
  session : KitsuBleSession
  store : σ

/-- What can happen: an entry point is called, or others use the store. -/
inductive Input (σ : Type) where
  | event (event : Event) (environment : Environment)
  | storeChange (store : σ)

/-- A call with what its environment will answer. -/
def System.run (system : System σ) (event : Event)
    (environment : Environment) : Outcome (Machine σ) Bool :=
  event.program crypto store
    ⟨system.session, system.store, environment, []⟩

/-- After a power cut or a crash the session is constructed anew. -/
def restart : Outcome (Machine σ) Bool → System σ
  | .done _ machine => ⟨machine.session, machine.store⟩
  | .cut machine => ⟨.initial, machine.store⟩

/-- One input; between calls the store may be changed by others. -/
def System.step (system : System σ) : Input σ → System σ
  | .event event environment =>
    restart (system.run crypto store event environment)
  | .storeChange changed => { system with store := changed }

/-- The calls of a run, also when it was cut. -/
def callsOf : Outcome (Machine σ) Bool → List Call
  | .done _ machine => machine.calls
  | .cut machine => machine.calls

/-- The calls an input leads to. -/
def System.calls (system : System σ) : Input σ → List Call
  | .event event environment =>
    callsOf (system.run crypto store event environment)
  | .storeChange _ => []

/-! ## The store of the firmware -/

/-- The controller store of `kitsu_device_security.cpp`. -/
def deviceStore (platform : Platform) :
    ControllerStore Kitsu.Security.Store.Machine where
  ready machine := machine.ram.begun
  controllerCount machine := machine.ram.controllerCount
  findControllerRoot machine := machine.ram.findControllerRoot
  generatePendingControllerRoot :=
    Kitsu.Security.Store.generatePendingControllerRoot
  commitControllerAfterPairing :=
    Kitsu.Security.Store.commitControllerAfterPairing platform
  revokeAuthenticatedController :=
    Kitsu.Security.Store.revokeAuthenticatedController platform

end Kitsu.Ble.Session
