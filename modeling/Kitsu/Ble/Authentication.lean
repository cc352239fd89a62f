import Kitsu.Ble.SessionMoves

/-!
# Authentication and ordered execution

A session becomes authenticated by the proof of a controller that the store
knew when the same link was greeted.  From then on every frame that passes is
the next one of the sequence, and the delegate and the store are called for
such a frame only.
-/

namespace Kitsu.Ble.Authentication

open Kitsu.Lib.ByteString
open Kitsu.Lib.Run
open Kitsu.Ble.Permissions
open Kitsu.Ble.Session
open Kitsu.Ble.SessionSteps
open Kitsu.Ble.SessionMoves
open Kitsu.Companion.Envelope
open Kitsu.Companion.Handshake
open Kitsu.Security.Record

variable {σ : Type} (crypto : CompanionCrypto) (store : ControllerStore σ)

/-- The input ends or replaces the link. -/
def changesLink : Input σ → Bool
  | .event event _ => isLinkEvent event
  | .storeChange _ => false

/-! ## Entering -/

/-- A greeting of the link that is still open, and what was looked up for it. -/
structure GreetedBy (stored : σ) (history : List (Input σ))
    (controllerId clientNonce deviceNonce : Nonce)
    (entry : Option (Secret × ControllerRole)) : Prop where
  greeting : ∃ earlier json now environment middle,
    history = earlier ++ .event (.frame json now) environment :: middle ∧
      (∀ input ∈ middle, changesLink input = false) ∧
      (after crypto store stored earlier).session.linkSecure = true ∧
      clientHello? json = some (controllerId, clientNonce) ∧
      store.findControllerRoot (after crypto store stored earlier).store
        controllerId = entry ∧
      .randomBytes deviceNonce.bytes ∈
        (after crypto store stored earlier).calls crypto store
          (.event (.frame json now) environment)

variable {input : Input σ}

section Greeting

variable {crypto store} {stored : σ} {history : List (Input σ)}
  {controllerId clientNonce deviceNonce : Nonce}
  {entry : Option (Secret × ControllerRole)}

theorem GreetedBy.later
    (greeted : GreetedBy crypto store stored history controllerId
      clientNonce deviceNonce entry) (same : changesLink input = false) :
    GreetedBy crypto store stored (history ++ [input]) controllerId
      clientNonce deviceNonce entry := by
  rcases greeted with ⟨earlier, json, now, environment, middle, rfl,
    unlinked, facts⟩
  refine ⟨earlier, json, now, environment, middle ++ [input], ?_, ?_, facts⟩
  · simp
  · intro other member
    rcases List.mem_append.mp member with old | new
    · exact unlinked other old
    · rw [List.mem_singleton.mp new]
      exact same

end Greeting

/-- What the session remembers of the greeting it has answered. -/
def Remembers (stored : σ) (history : List (Input σ))
    (session : KitsuBleSession) : Prop :=
  session.state = .awaitingClientAuth →
    ∃ entry, GreetedBy crypto store stored history
        session.secrets.controllerId session.secrets.clientNonce
        session.secrets.deviceNonce entry ∧
      (session.secrets.controllerKnown = true →
        entry = some (session.secrets.controllerRoot,
          session.secrets.controllerRole))

variable {crypto store} {stored : σ}

variable {environment : Environment}

theorem carried_remembers {history : List (Input σ)} {event : Event}
    {result : Bool} {session : KitsuBleSession}
    (carried : Carried crypto store (after crypto store stored history)
      environment event result session
      ((after crypto store stored history).calls crypto store
        (.event event environment)))
    (remembers : Remembers crypto store stored history
      (after crypto store stored history).session) :
    Remembers crypto store stored
      (history ++ [.event event environment]) session := by
  intro awaits
  generalize called : System.calls crypto store
    (after crypto store stored history) (.event event environment) =
      calls at carried
  cases carried with
  | stayed frameless stays =>
    rcases remembers (stays.state.symm.trans awaits) with
      ⟨entry, greeted, known⟩
    rw [stays.secrets]
    exact ⟨entry, greeted.later stays.unlinked, known⟩
  | @greeted json now _ _ _ arrives state greets =>
    cases greets with
    | intro deviceNonce root role hello known drawn =>
      refine ⟨_, ⟨history, json, now, environment, [], rfl, ?_,
        arrives.secure, hello, rfl, ?_⟩, ?_⟩
      · intro input member
        cases member
      · rw [called]
        exact drawn
      · intro found
        rcases Option.isSome_iff_exists.mp found with ⟨entry, equal⟩
        rw [← known entry equal]
        exact equal
  | requested arrives state requests =>
    cases requests
    cases awaits
  | entered arrives state enters =>
    cases enters
    cases awaits
  | answered barrier arrives state taken =>
    cases state.symm.trans awaits
  | rootless admitted =>
    simp only [confirmable, Bool.and_eq_true, beq_iff_eq] at admitted
    cases admitted.1.1.1.1.1.2.symm.trans awaits
  | granted => cases awaits
  | sent state => cases state.symm.trans awaits

theorem after_remembers (history : List (Input σ)) :
    Remembers crypto store stored history
      (after crypto store stored history).session := by
  refine @after_induction _ crypto store stored
    (fun history system =>
      Remembers crypto store stored history system.session) ?_ ?_ history
  · intro awaits
    cases awaits
  intro history input remembers
  cases input with
  | storeChange changed =>
    intro awaits
    rcases remembers awaits with ⟨entry, greeted, known⟩
    exact ⟨entry, greeted.later rfl, known⟩
  | event event environment =>
    intro awaits
    rcases step_carried (after_started history) (by rw [awaits]; rfl) with
      ⟨result, _, carried⟩
    exact carried_remembers carried remembers awaits

/-- The input is the proof of a client that the store knew when it was greeted. -/
structure ProvedBy (crypto : CompanionCrypto) (store : ControllerStore σ)
    (stored : σ) (history : List (Input σ)) (input : Input σ)
    (entered : KitsuBleSession) : Prop where
  awaiting : (after crypto store stored history).session.state =
    .awaitingClientAuth
  proof : ∃ json now environment supplied root role controllerId
      clientNonce deviceNonce deviceToClient,
    input = .event (.frame json now) environment ∧
      readClientAuth json = some supplied ∧
      GreetedBy crypto store stored history controllerId clientNonce
        deviceNonce (some (root, role)) ∧
      makeHandshakeProof crypto root .client controllerId clientNonce
        deviceNonce = some supplied ∧
      deriveBleSessionKeys crypto root clientNonce deviceNonce =
        some (entered.secrets.clientToDeviceKey, deviceToClient) ∧
      entered.secrets.controllerId = controllerId ∧
      entered.secrets.controllerRole = role ∧
      entered.secrets.expectedClientSequence = 1

variable {secrets : Secrets}

theorem clientVerified_iff {supplied : Key} :
    clientVerified crypto secrets supplied = true ↔
      secrets.controllerKnown = true ∧
        makeHandshakeProof crypto secrets.controllerRoot .client
          secrets.controllerId secrets.clientNonce secrets.deviceNonce =
            some supplied := by
  unfold clientVerified
  split
  · rename_i none_
    simp [none_]
  · rename_i expected some_
    simp [some_]

/-- A session is authenticated by a proof, or was authenticated before. -/
theorem enters_by_proof {history : List (Input σ)}
    (outside : (after crypto store stored history).session.state ≠
      .authenticated) (inside : (after crypto store stored
      (history ++ [input])).session.state = .authenticated) :
    ProvedBy crypto store stored history input
      (after crypto store stored (history ++ [input])).session := by
  have remembers := @after_remembers σ crypto store stored history
  rw [after_concat] at inside ⊢
  cases input with
  | storeChange changed => exact absurd inside outside
  | event event environment =>
    rcases step_carried (after_started history) (by rw [inside]; rfl) with
      ⟨result, _, carried⟩
    generalize (System.step crypto store (after crypto store stored history)
      (.event event environment)).session = session at carried inside ⊢
    cases carried with
    | stayed frameless stays =>
      exact absurd (stays.state.symm.trans inside) outside
    | greeted arrives state greets =>
      cases greets
      cases inside
    | requested arrives state requests =>
      cases requests
      cases inside
    | @entered json now _ _ _ arrives state enters =>
      rcases remembers state with ⟨entry, greeted, known⟩
      cases enters with
      | @intro supplied clientToDevice deviceToClient proof verified keys =>
        rcases clientVerified_iff.mp verified with ⟨found, equal⟩
        rw [known found] at greeted
        exact ⟨state, json, now, environment, supplied, _, _, _, _, _,
          deviceToClient, rfl, proof, greeted, equal, keys, rfl, rfl, rfl⟩
    | answered barrier arrives state taken => exact absurd state outside
    | rootless admitted => exact absurd inside outside
    | granted => cases inside
    | sent state => exact absurd state outside

/-! ## Passing -/

/-- The request of a frame that passes `handleAuthenticatedEnvelope`. -/
def passed (crypto : CompanionCrypto) (system : System σ) :
    Input σ → Option (DecodedEnvelope × Bytes)
  | .event (.frame json _) _ =>
    if system.session.state = .authenticated ∧ json ≠ [] ∧
        system.session.linkSecure = true then
      admitRequest crypto system.session.secrets json
    else none
  | _ => none

/-- How many of the inputs pass. -/
def passedFrames (crypto : CompanionCrypto) (store : ControllerStore σ)
    (system : System σ) : List (Input σ) → Nat
  | [] => 0
  | input :: later =>
    (if (passed crypto system input).isSome then 1 else 0) +
      passedFrames crypto store (system.step crypto store input) later

variable {request : DecodedEnvelope}

variable {payload : Bytes}

theorem admitRequest_some {json : Bytes} :
    admitRequest crypto secrets json = some (request, payload) ↔
      decodeAndVerifyEnvelope crypto json secrets.clientToDeviceKey
          .request secrets.expectedClientSequence =
        .ok (request, payload) ∧
      requestAllowed secrets.controllerRole request.operation payload =
        true ∧
      secrets.expectedClientSequence ≠ 0xffffffffffffffff := by
  unfold admitRequest
  split
  · rename_i refused
    simp [refused]
  · rename_i found content accepted
    rw [accepted]
    constructor
    · intro taken
      split at taken
      · rename_i allowed
        cases taken
        simpa using allowed
      · cases taken
    · rintro ⟨same, allowed, bounded⟩
      cases same
      simp [allowed, bounded]

variable {system : System σ}

/-- A frame that arrives in an authenticated session passes when it is admitted. -/
theorem passed_arrives {json : Bytes} {now : UInt32}
    (arrives : Arrives system.session json now)
    (state : system.session.state = .authenticated) :
    passed crypto system (.event (.frame json now) environment) =
      admitRequest crypto system.session.secrets json := by
  simp only [passed]
  rw [if_pos ⟨state, arrives.nonempty, arrives.secure⟩]

/-- The keys of an authenticated session stay, and it counts what passes. -/
theorem step_counts (started : Started system.session)
    (before : system.session.state = .authenticated)
    (inside : (system.step crypto store input).session.state = .authenticated) :
    let next := (system.step crypto store input).session.secrets
    next.clientToDeviceKey = system.session.secrets.clientToDeviceKey ∧
      next.expectedClientSequence.toNat =
        system.session.secrets.expectedClientSequence.toNat +
          (if (passed crypto system input).isSome then 1 else 0) := by
  cases input with
  | storeChange changed => exact ⟨rfl, rfl⟩
  | event event environment =>
    rcases step_carried started (by rw [inside]; rfl) with
      ⟨result, _, carried⟩
    generalize (system.step crypto store
      (.event event environment)).session = session at carried inside ⊢
    cases carried with
    | stayed frameless stays =>
      rw [stays.secrets]
      cases event with
      | frame => cases frameless
      | _ => exact ⟨rfl, rfl⟩
    | greeted arrives state => cases state.symm.trans before
    | requested arrives state => cases state.symm.trans before
    | entered arrives state => cases state.symm.trans before
    | answered barrier arrives state taken =>
      refine ⟨rfl, ?_⟩
      rw [passed_arrives arrives state, taken]
      have bounded := (admitRequest_some.mp taken).2.2
      have below := UInt64.toNat_lt
        system.session.secrets.expectedClientSequence
      have different :
          system.session.secrets.expectedClientSequence.toNat ≠
            18446744073709551615 := by
        intro equal
        exact bounded (UInt64.toNat_inj.mp equal)
      simp only [served, UInt64.toNat_add, Option.isSome_some, if_true,
        UInt64.reduceToNat]
      omega
    | rootless => exact ⟨rfl, rfl⟩
    | granted => cases inside
    | sent => exact ⟨rfl, rfl⟩

/-- The session after inputs between which it stayed authenticated. -/
theorem stays_counts {during : List (Input σ)} (started : Started system.session)
    (stays : Remains crypto store .authenticated system during) :
    let last := (during.foldl (System.step crypto store) system).session
    last.state = .authenticated ∧
      last.secrets.clientToDeviceKey =
        system.session.secrets.clientToDeviceKey ∧
      last.secrets.expectedClientSequence.toNat =
        system.session.secrets.expectedClientSequence.toNat +
          passedFrames crypto store system during := by
  induction during generalizing system with
  | nil => exact ⟨stays, rfl, rfl⟩
  | cons input later induction =>
    rcases stays with ⟨before, later_stays⟩
    rcases step_counts started before later_stays.first with
      ⟨key, count⟩
    rcases induction (step_started input started) later_stays with
      ⟨state, lastKey, lastCount⟩
    refine ⟨state, lastKey.trans key, ?_⟩
    rw [List.foldl_cons, lastCount, count, passedFrames]
    omega

/-! ## Calling -/

/-- The calls of the delegate and of the revocation. -/
def delegated (calls : List Call) : List Call :=
  calls.filter fun call =>
    match call with
    | .handleAuthorizedBleRequest _ _ _ => true
    | .revokeAuthenticatedController _ => true
    | _ => false

theorem delegated_operations (calls : List Call) :
    delegated calls = delegated (operations calls) := by
  simp only [delegated, operations, List.filter_filter]
  apply List.filter_congr
  intro call _
  cases call <;> rfl

/-- What an input may call of the delegate and of the revocation. -/
inductive Delegates (crypto : CompanionCrypto) (system : System σ)
    (input : Input σ) : List Call → Prop where
  | nothing : Delegates crypto system input []
  | request {request : DecodedEnvelope} {payload : Bytes}
      (passes : passed crypto system input = some (request, payload))
      (allowed : requestAllowed system.session.secrets.controllerRole
        request.operation payload = true) :
      Delegates crypto system input
        [.handleAuthorizedBleRequest system.session.secrets.controllerRole
          request payload]
  | revocation {request : DecodedEnvelope} {payload : Bytes}
      (passes : passed crypto system input = some (request, payload))
      (allowed : requestAllowed system.session.secrets.controllerRole
        request.operation payload = true)
      (forget : request.operation = ascii "controller.forget") :
      Delegates crypto system input
        [.revokeAuthenticatedController system.session.secrets.controllerId]

theorem delegates_request
    (passes : passed crypto system input = some (request, payload))
    (allowed : requestAllowed system.session.secrets.controllerRole
      request.operation payload = true) :
    Delegates crypto system input
      (delegated (requestOperations system.session.secrets request payload)) := by
  unfold requestOperations
  split
  · rename_i forget
    split
    · exact .revocation passes allowed forget
    · exact .nothing
  · exact .request passes allowed

theorem calls_delegates (system : System σ) (input : Input σ) :
    Delegates crypto system input
      (delegated (system.calls crypto store input)) := by
  cases input with
  | storeChange changed => exact .nothing
  | event event environment =>
    rw [delegated_operations]
    have none_ {calls : List Call} (silent : operations calls = []) :
        Delegates crypto system (.event event environment)
          (delegated (operations calls)) := by
      rw [silent]
      exact .nothing
    rcases @step_cases σ crypto store system event environment with
      ⟨result, _, moved⟩ | ⟨stopped, _⟩
    · generalize system.calls crypto store (.event event environment) =
        calls at moved ⊢
      generalize (system.step crypto store
        (.event event environment)).session = session at moved
      cases moved with
      | enveloped arrives state ends =>
        generalize operations calls = called at ends ⊢
        cases ends with
        | violated => exact .nothing
        | admitted taken =>
          apply delegates_request
          · rw [passed_arrives arrives state]
            exact taken
          · exact (admitRequest_some.mp taken).2.1
      | committed arrives state checked commits called =>
        rw [called]
        exact .nothing
      | quiet _ _ _ silent => exact none_ silent
      | rejected _ _ _ silent => exact none_ silent
      | late _ silent => exact none_ silent
      | ignored _ _ silent => exact none_ silent
      | failed _ _ _ _ silent => exact none_ silent
      | greeted _ _ _ silent => exact none_ silent
      | declined _ _ silent => exact none_ silent
      | requested _ _ _ silent => exact none_ silent
      | entered _ _ _ silent => exact none_ silent
      | confirmed _ silent => exact none_ silent
      | unsent _ silent => exact none_ silent
      | sent _ _ silent => exact none_ silent
    · generalize system.calls crypto store (.event event environment) =
        calls at stopped ⊢
      cases stopped with
      | unbegun _ silent => exact none_ silent
      | confirming _ silent => exact none_ silent
      | committing arrives state checked called =>
        rw [called]
        exact .nothing
      | revoking arrives state taken called =>
        rw [called]
        apply delegates_request
        · rw [passed_arrives arrives state]
          exact taken
        · exact (admitRequest_some.mp taken).2.1

/-! ## Every run -/

/-- The frame carries this request, signed with the key. -/
structure SignedBy (crypto : CompanionCrypto) (key : Key)
    (sequence : Nat) (input : Input σ) (request : DecodedEnvelope)
    (payload : Bytes) : Prop where
  channel : request.channel = .request
  sequence : request.sequence.toNat = sequence
  mac : ∃ json now environment code,
    input = .event (.frame json now) environment ∧
      carriedMac json = some code ∧
      crypto.hmacSha256 key (envelopeTranscript request payload) = some code

theorem passed_signed
    (passes : passed crypto system input = some (request, payload)) :
    SignedBy crypto system.session.secrets.clientToDeviceKey
      system.session.secrets.expectedClientSequence.toNat input request
      payload := by
  unfold passed at passes
  split at passes
  · rename_i json now environment
    split at passes
    · rcases decodeAndVerifyEnvelope_ok (admitRequest_some.mp passes).1 with
        ⟨channel, sequence, _, carried, computed, _⟩
      rcases Option.isSome_iff_exists.mp computed with ⟨code, equal⟩
      refine ⟨channel, congrArg UInt64.toNat sequence, json, now,
        environment, code, rfl, ?_, equal⟩
      rw [carried]
      exact equal
    · cases passes
  · cases passes

/--
In every run a session becomes authenticated only by the proof of a controller
that the store returned for the greeting of the same link, with that
controller's role; the frame that passes after `k` others since then is the
request of sequence `k + 1` under the session's key; and the delegate and the
revocation are called for a frame that passes, once, with permission.
-/
theorem authenticated_in_order (crypto : CompanionCrypto)
    (store : ControllerStore σ) (stored : σ) (history : List (Input σ))
    (input : Input σ) :
    ((after crypto store stored history).session.state ≠ .authenticated →
      (after crypto store stored (history ++ [input])).session.state =
        .authenticated → ProvedBy crypto store stored history input
        (after crypto store stored (history ++ [input])).session) ∧
    (∀ earlier entering during request payload,
      history = earlier ++ [entering] ++ during →
      (after crypto store stored earlier).session.state ≠ .authenticated →
      Remains crypto store .authenticated
        (after crypto store stored (earlier ++ [entering])) during →
      passed crypto (after crypto store stored history) input =
        some (request, payload) → SignedBy crypto (after crypto store stored
          (earlier ++ [entering])).session.secrets.clientToDeviceKey
        (passedFrames crypto store
          (after crypto store stored (earlier ++ [entering])) during + 1)
        input request payload) ∧
    Delegates crypto (after crypto store stored history) input
      (delegated
        ((after crypto store stored history).calls crypto store input)) := by
  refine ⟨enters_by_proof, ?_, calls_delegates _ _⟩
  intro earlier entering during request payload split_ outside stays passes
  rcases enters_by_proof outside stays.first with
    ⟨_, _, _, _, _, _, _, _, _, _, _, _, _, _, _, _, _, _, first⟩
  rcases stays_counts (after_started (earlier ++ [entering])) stays with
    ⟨_, key, count⟩
  have signed := passed_signed passes
  have last : after crypto store stored history =
      during.foldl (System.step crypto store)
        (after crypto store stored (earlier ++ [entering])) := by
    rw [split_]
    exact exec_append ..
  rw [last, key, count, first] at signed
  rw [Nat.add_comm]
  exact signed

/-- The first request of the sample client. -/
def sampleRequest : Bytes :=
  match encodeEnvelope maskingCrypto
    ⟨.request, 1, sampleClientNonce, sampleClientNonce, ascii "state.get"⟩
    (ascii "\x7b\x7d")
    (((deriveBleSessionKeys maskingCrypto sampleController.root
      sampleClientNonce sampleDeviceNonce).map Prod.fst).getD (.zero _))
    kMaximumFrameBytes with
  | .ok json => json
  | .error _ => []

/-- The sample client greets. -/
def sampleGreeting : List (Input Kitsu.Security.Store.Machine) :=
  sampleLink 100 ++ [calmly (.frame sampleHello 200)]

/-- The sample client proves itself. -/
def sampleProof : Input Kitsu.Security.Store.Machine :=
  calmly (.frame sampleAuth 300)

theorem sample_client_in_order :
    ∃ request payload,
      ProvedBy maskingCrypto
        (deviceStore Kitsu.Security.Store.maskingPlatform) sampleStore
        sampleGreeting sampleProof
        (after maskingCrypto
          (deviceStore Kitsu.Security.Store.maskingPlatform) sampleStore
          (sampleGreeting ++ [sampleProof])).session ∧
      SignedBy maskingCrypto
        (after maskingCrypto
          (deviceStore Kitsu.Security.Store.maskingPlatform) sampleStore
          (sampleGreeting ++ [sampleProof])).session.secrets.clientToDeviceKey 1
        (calmly (.frame sampleRequest 400)) request payload := by
  have outside : (after maskingCrypto
      (deviceStore Kitsu.Security.Store.maskingPlatform) sampleStore
      sampleGreeting).session.state ≠ .authenticated := by
    decide +kernel
  have inside : (after maskingCrypto
      (deviceStore Kitsu.Security.Store.maskingPlatform) sampleStore
      (sampleGreeting ++ [sampleProof])).session.state =
        .authenticated := by
    decide +kernel
  have passes : (passed maskingCrypto (after maskingCrypto
      (deviceStore Kitsu.Security.Store.maskingPlatform) sampleStore
      (sampleGreeting ++ [sampleProof]))
      (calmly (.frame sampleRequest 400))).isSome = true := by
    decide +kernel
  rcases Option.isSome_iff_exists.mp passes with
    ⟨⟨request, payload⟩, equal⟩
  refine ⟨request, payload, ?_, ?_⟩
  · exact (authenticated_in_order maskingCrypto
      (deviceStore Kitsu.Security.Store.maskingPlatform) sampleStore
      sampleGreeting sampleProof).1 outside inside
  · exact (authenticated_in_order maskingCrypto
      (deviceStore Kitsu.Security.Store.maskingPlatform) sampleStore
      (sampleGreeting ++ [sampleProof])
      (calmly (.frame sampleRequest 400))).2.1 sampleGreeting sampleProof
      [] request payload (List.append_nil _).symm outside inside equal

end Kitsu.Ble.Authentication
