import Kitsu.Lib.Run

/-!
# Transmissions that finish at once

`startSendRaw` waits for the end of a transmission itself and latches the completion,
which the `Dispatcher` asks for in a later `loop`.  Direct frames go through the same
function and clear the latch, which nothing but the guard of `sendNearbyRadioFrame` keeps
for a packet of the `Dispatcher` that was not asked for yet.
-/

namespace Kitsu.Mesh.Turnaround

open Kitsu.Lib.Run

/-- How a synchronous send ended. -/
inductive TxTurnaroundResult where
  | completed
  | startFailed
  | timedOut
deriving DecidableEq, Repr

/-- The latch of a completed send, and whether it was reported. -/
structure TxTurnaroundCompletion where
  completionLatched : Bool := false
  completionReported : Bool := false
deriving DecidableEq, Repr

namespace TxTurnaroundCompletion

/-- The radio reports the end of a send. -/
def latchCompleted (completion : TxTurnaroundCompletion) : TxTurnaroundCompletion :=
  { completion with completionLatched := true }

/-- The dispatcher takes the completion, once. -/
def takeForDispatcher (completion : TxTurnaroundCompletion) :
    Bool × TxTurnaroundCompletion :=
  if !completion.completionLatched then (false, completion)
  else (true, { completionLatched := false, completionReported := true })

/-- The completion was reported and is consumed. -/
def consumeReportedFinish (completion : TxTurnaroundCompletion) :
    Bool × TxTurnaroundCompletion :=
  if !completion.completionReported then (false, completion)
  else (true, { completion with completionReported := false })

end TxTurnaroundCompletion

/-- What the radio does: whether it starts, and whether each poll finds the end. -/
structure Answers where
  started : Bool
  polls : List Bool
  lastPoll : Bool
deriving DecidableEq, Repr

/-- The loop over the polls, and the one behind the time limit. -/
def consumed : List Bool → Bool → Bool
  | [], lastPoll => lastPoll
  | found :: later, lastPoll => if found then true else consumed later lastPoll

/--
The radio.  The calls of the physical start and finish are counted, and `origin`, which
the source does not keep, is the packet whose transmission set the latch.
-/
structure Radio where
  completion : TxTurnaroundCompletion := {}
  starts : Nat := 0
  finishes : Nat := 0
  origin : Option Nat := none
deriving DecidableEq, Repr

/-- Send and poll until the packet is out or the time is over. -/
def runSynchronousTxTurnaround (radio : Radio) (origin : Option Nat) (answers : Answers) :
    TxTurnaroundResult × Radio :=
  if !answers.started then (.startFailed, { radio with completion := {} })
  else
    let finished : Radio :=
      { radio with
        completion := {}
        starts := radio.starts + 1
        finishes := radio.finishes + 1 }
    if consumed answers.polls answers.lastPoll then
      (.completed, { finished with
        completion := finished.completion.latchCompleted
        origin })
    else (.timedOut, finished)

/-- `allowed` is the answer of the gate or of the permit for one frame. -/
def startSendRaw (radio : Radio) (origin : Option Nat) (allowed : Bool)
    (answers : Answers) : Bool × Radio :=
  if !allowed then (false, { radio with completion := {} })
  else
    let (result, after) :=
      runSynchronousTxTurnaround { radio with completion := {} } origin answers
    (result = .completed, after)

/-- A single send of a frame, outside of the queue. -/
def sendDirectOneShotRaw (radio : Radio) (allowed : Bool) (answers : Answers) :
    Bool × Radio :=
  let (sent, after) := startSendRaw radio none allowed answers
  (sent, { after with completion := {} })

/-! ## The dispatcher -/

/-- The packets that go through the queue. -/
inductive PacketKind where
  | directMessage
  | channelMessage
  | advert
  | nearbyAdvert
  | acknowledgement
  | pathReply
  | sessionIntroduction
deriving DecidableEq, Repr

/-- The kinds of which a pointer is kept until they were sent. -/
def PacketKind.tracked : PacketKind → Bool
  | .directMessage | .channelMessage | .advert | .nearbyAdvert => true
  | .acknowledgement | .pathReply | .sessionIntroduction => false

/-- The packet that the dispatcher waits for. -/
structure Outbound where
  kind : PacketKind
  /-- The packets that were transmitted are numbered. -/
  number : Nat
deriving DecidableEq, Repr

/-- What happened to the packets. -/
inductive Event where
  | completed (number : Nat)
  /-- `isSendComplete` was true for the packet, from the latch of this origin. -/
  | seen (number : Nat) (origin : Option Nat)
  | expired (number : Nat)
deriving DecidableEq, Repr

/-- The mesh client: the radio, the queue and the packet on its way. -/
structure Client where
  radio : Radio := {}
  queue : List PacketKind := []
  outbound : Option Outbound := none
  nextNumber : Nat := 0
  events : List Event := []
deriving DecidableEq, Repr

/-- The packet on its way is one that is waited for. -/
def trackedSendInProgress (client : Client) : Bool :=
  client.outbound.any (·.kind.tracked)

/-- What `checkSend` does with a packet that it took. -/
inductive Attempt where
  | tooLong
  | start (allowed : Bool) (answers : Answers)
deriving DecidableEq, Repr

/-- What a `loop` meets: the time, packets that receptions queue, and what is sent. -/
structure LoopInput where
  expired : Bool
  received : List PacketKind
  attempt : Option (Nat × Attempt)
deriving DecidableEq, Repr

/-- The packet on the way is asked for; without an answer the loop ends here. -/
def checkOutbound (client : Client) (expired : Bool) : Option Client :=
  match client.outbound with
  | none => some client
  | some outbound =>
    let (complete, taken) := client.radio.completion.takeForDispatcher
    let finished := taken.consumeReportedFinish.2
    if complete then
      some { client with
        radio := { client.radio with completion := finished }
        outbound := none
        events := .seen outbound.number client.radio.origin :: client.events }
    else if expired then
      some { client with
        radio := { client.radio with completion := finished }
        outbound := none
        events := .expired outbound.number :: client.events }
    else none

/-- The next packet is the one that the queue chooses by priority and time. -/
def checkSend (client : Client) : Option (Nat × Attempt) → Client
  | none => client
  | some (index, attempt) =>
    match client.queue[index]? with
    | none => client
    | some kind =>
      let taken := { client with queue := client.queue.eraseIdx index }
      match attempt with
      | .tooLong => taken
      | .start allowed answers =>
        let (success, radio) :=
          startSendRaw taken.radio (some taken.nextNumber) allowed answers
        if success then
          { taken with
            radio
            outbound := some ⟨kind, taken.nextNumber⟩
            nextNumber := taken.nextNumber + 1
            events := .completed taken.nextNumber :: taken.events }
        else { taken with radio }

/-- One turn of the client: the packet on its way first, then the next one. -/
def loop (client : Client) (input : LoopInput) : Client :=
  match checkOutbound client input.expired with
  | none => client
  | some free =>
    checkSend { free with queue := free.queue ++ input.received } input.attempt

/--
`ready` stands for the checks that do not look at the `Dispatcher`: the frame, the
profile, the approval, the cooldown, the receive mode, a pending message and the permit.
-/
def reachesRadio (client : Client) (ready : Bool) : Bool :=
  ready && !trackedSendInProgress client && client.queue.isEmpty

/-- A frame for nearby devices, sent past the queue. -/
def sendNearbyRadioFrame (client : Client) (ready allowed : Bool) (answers : Answers) :
    Client :=
  if !reachesRadio client ready then client
  else { client with radio := (sendDirectOneShotRaw client.radio allowed answers).2 }

/-- What is asked of the client. -/
inductive Call where
  | send (kind : PacketKind)
  | loop (input : LoopInput)
  | sendNearbyRadioFrame (ready allowed : Bool) (answers : Answers)
deriving DecidableEq, Repr

/-- A call of the client. -/
def apply (client : Client) : Call → Client
  | .send kind => { client with queue := client.queue ++ [kind] }
  | .loop input => loop client input
  | .sendNearbyRadioFrame ready allowed answers =>
    sendNearbyRadioFrame client ready allowed answers

def after (calls : List Call) : Client :=
  exec apply {} calls

/-! ## What is asked of the transmissions -/

/-- The packet was seen to be complete once, and did not expire. -/
def SeenOnce (client : Client) (number : Nat) : Prop :=
  client.events.count (.seen number (some number)) = 1 ∧
    .expired number ∉ client.events

/-- A completion is seen for its own packet, and once, now or at the next turn. -/
structure Reported (client : Client) : Prop where
  balanced : client.radio.starts = client.radio.finishes
  own : ∀ number origin, .seen number origin ∈ client.events → origin = some number
  once : ∀ number, .completed number ∈ client.events →
    SeenOnce client number ∨
      (∀ origin, .seen number origin ∉ client.events) ∧
        ∀ input, SeenOnce (loop client input) number

/-- A frame that reaches the radio finds no packet on the way. -/
def Clear (client : Client) : Call → Prop
  | .sendNearbyRadioFrame ready _ _ =>
    reachesRadio client ready = true → client.outbound = none
  | _ => True

/-- The latch belongs to the packet on the way, and every other packet was seen. -/
structure Latched (client : Client) : Prop where
  balanced : client.radio.starts = client.radio.finishes
  own : ∀ number origin, .seen number origin ∈ client.events → origin = some number
  numbered : ∀ number, .completed number ∈ client.events → number < client.nextNumber
  seen : ∀ number origin, .seen number origin ∈ client.events →
    .completed number ∈ client.events
  onTheWay : ∀ outbound, client.outbound = some outbound →
    .completed outbound.number ∈ client.events ∧
      client.radio.completion.completionLatched = true ∧
      client.radio.origin = some outbound.number ∧
      ∀ origin, .seen outbound.number origin ∉ client.events
  settled : ∀ number, .completed number ∈ client.events →
    (∀ outbound, client.outbound = some outbound → outbound.number ≠ number) →
    client.events.count (.seen number (some number)) = 1
  unexpired : ∀ number, .expired number ∉ client.events

section Latch

variable {client : Client}

theorem latched_initially : Latched {} := by
  constructor
  all_goals simp

/-- A packet on the way is seen by the next loop, and nothing expires. -/
theorem Latched.checkOutbound (latched : Latched client) (expired : Bool) :
    ∃ free, checkOutbound client expired = some free ∧ Latched free ∧
      free.outbound = none ∧ ∀ number, .completed number ∈ client.events →
        .completed number ∈ free.events := by
  unfold Turnaround.checkOutbound
  cases way : client.outbound with
  | none => exact ⟨client, rfl, latched, way, fun _ member => member⟩
  | some outbound =>
    obtain ⟨completed, latch, origin, unseen⟩ := latched.onTheWay outbound way
    simp only [TxTurnaroundCompletion.takeForDispatcher, latch, Bool.not_true,
      Bool.false_eq_true, if_false, if_true]
    refine ⟨_, rfl, ?_, rfl, fun number member => List.mem_cons_of_mem _ member⟩
    constructor
    · exact latched.balanced
    · intro number from_ member
      rcases List.mem_cons.mp member with same | earlier
      · cases same
        exact origin
      · exact latched.own number from_ earlier
    · intro number member
      exact latched.numbered number (by simpa using member)
    · intro number from_ member
      apply List.mem_cons_of_mem
      rcases List.mem_cons.mp member with same | earlier
      · cases same
        exact completed
      · exact latched.seen number from_ earlier
    · intro other impossible
      cases impossible
    · intro number member _
      have before : .completed number ∈ client.events := by simpa using member
      by_cases same : outbound.number = number
      · subst same
        rw [origin, List.count_cons_self,
          List.count_eq_zero.mpr (unseen (some outbound.number))]
      · rw [List.count_cons_of_ne (by simp [same])]
        apply latched.settled number before
        intro other here
        rw [way] at here
        cases here
        exact same
    · intro number member
      exact latched.unexpired number (by simpa using member)

theorem startSendRaw_cases (radio : Radio) (origin : Option Nat) (allowed : Bool)
    (answers : Answers) (balanced : radio.starts = radio.finishes) :
    (startSendRaw radio origin allowed answers).2.starts =
        (startSendRaw radio origin allowed answers).2.finishes ∧
      ((startSendRaw radio origin allowed answers).1 = true →
        (startSendRaw radio origin allowed answers).2.completion.completionLatched =
            true ∧
          (startSendRaw radio origin allowed answers).2.origin = origin) := by
  unfold startSendRaw runSynchronousTxTurnaround
  cases allowed
  · exact ⟨balanced, nofun⟩
  · cases answers.started
    · exact ⟨balanced, nofun⟩
    · cases consumed answers.polls answers.lastPoll
      · exact ⟨congrArg (· + 1) balanced, nofun⟩
      · exact ⟨congrArg (· + 1) balanced, fun _ => ⟨rfl, rfl⟩⟩

theorem Latched.queued (latched : Latched client) (queue : List PacketKind) :
    Latched { client with queue } :=
  ⟨latched.balanced, latched.own, latched.numbered, latched.seen, latched.onTheWay,
    latched.settled, latched.unexpired⟩

/-- Without a packet on the way the radio may do what it likes. -/
theorem Latched.touched (latched : Latched client) (free : client.outbound = none)
    {radio : Radio} (balanced : radio.starts = radio.finishes) :
    Latched { client with radio } := by
  refine ⟨balanced, latched.own, latched.numbered, latched.seen, ?_, latched.settled,
    latched.unexpired⟩
  intro outbound here
  rw [free] at here
  cases here

theorem Latched.checkSend (latched : Latched client) (free : client.outbound = none)
    (attempt : Option (Nat × Attempt)) : Latched (checkSend client attempt) := by
  rcases attempt with _ | ⟨index, attempt⟩
  · exact latched
  unfold Turnaround.checkSend
  simp only
  split
  · exact latched
  have taken := latched.queued (client.queue.eraseIdx index)
  split
  · exact taken
  · rename_i allowed answers
    have sent := startSendRaw_cases client.radio (some client.nextNumber) allowed answers
      latched.balanced
    split
    · rename_i success
      obtain ⟨latch, origin⟩ := sent.2 success
      have fresh : .completed client.nextNumber ∉ client.events := fun member =>
        Nat.lt_irrefl _ (latched.numbered _ member)
      constructor
      · exact sent.1
      · intro number from_ member
        exact latched.own number from_ (by simpa using member)
      · intro number member
        rcases List.mem_cons.mp member with same | earlier
        · cases same
          exact Nat.lt_succ_self _
        · exact Nat.lt_succ_of_lt (latched.numbered number earlier)
      · intro number from_ member
        exact List.mem_cons_of_mem _ (latched.seen number from_ (by simpa using member))
      · rintro outbound ⟨⟩
        refine ⟨List.mem_cons_self, latch, origin, ?_⟩
        intro from_ member
        exact fresh (latched.seen _ from_ (by simpa using member))
      · intro number member other
        have apart := other _ rfl
        rcases List.mem_cons.mp member with same | earlier
        · cases same
          exact absurd rfl apart
        · apply latched.settled number earlier
          intro outbound here
          rw [free] at here
          cases here
      · intro number member
        exact latched.unexpired number (by simpa using member)
    · exact taken.touched free sent.1

theorem checkSend_events (client : Client) (attempt : Option (Nat × Attempt))
    (number : Nat) :
    (checkSend client attempt).events.count (.seen number (some number)) =
      client.events.count (.seen number (some number)) := by
  unfold checkSend
  split
  · rfl
  split
  · rfl
  split
  · rfl
  · simp only
    split
    · rw [List.count_cons_of_ne (by simp)]
    · rfl

theorem loop_free {free : Client} {input : LoopInput}
    (checked : checkOutbound client input.expired = some free) :
    loop client input =
      checkSend { free with queue := free.queue ++ input.received } input.attempt := by
  simp only [loop, checked]

theorem Latched.loop (latched : Latched client) (input : LoopInput) :
    Latched (loop client input) := by
  obtain ⟨free, checked, kept, clear, -⟩ := latched.checkOutbound input.expired
  rw [loop_free checked]
  exact (kept.queued (free.queue ++ input.received)).checkSend clear input.attempt

/-- After one more loop every packet that was completed has been seen. -/
theorem Latched.loop_seen (latched : Latched client) {number : Nat}
    (completed : .completed number ∈ client.events) (input : LoopInput) :
    SeenOnce (Turnaround.loop client input) number := by
  refine ⟨?_, (latched.loop input).unexpired number⟩
  obtain ⟨free, checked, kept, clear, still⟩ := latched.checkOutbound input.expired
  rw [loop_free checked, checkSend_events]
  apply kept.settled number (still number completed)
  intro outbound here
  rw [clear] at here
  cases here

theorem Latched.reported (latched : Latched client) : Reported client := by
  refine ⟨latched.balanced, latched.own, ?_⟩
  intro number completed
  by_cases way : ∀ outbound, client.outbound = some outbound → outbound.number ≠ number
  · exact .inl ⟨latched.settled number completed way, latched.unexpired number⟩
  · right
    obtain ⟨outbound, here, same⟩ : ∃ outbound, client.outbound = some outbound ∧
        outbound.number = number := by
      by_contra absent
      exact way fun outbound here same => absent ⟨outbound, here, same⟩
    subst same
    exact ⟨(latched.onTheWay outbound here).2.2.2, latched.loop_seen completed⟩

theorem Latched.apply (latched : Latched client) {call : Call} (clear : Clear client call) :
    Latched (apply client call) := by
  cases call with
  | send kind => exact latched.queued _
  | loop input => exact latched.loop input
  | sendNearbyRadioFrame ready allowed answers =>
    simp only [Turnaround.apply, sendNearbyRadioFrame]
    cases reaches : reachesRadio client ready
    · exact latched
    · exact latched.touched (clear reaches)
        (startSendRaw_cases client.radio none allowed answers latched.balanced).1

/-- A frame that meets a packet on the way takes its completion from it. -/
theorem Latched.lost (latched : Latched client) {call : Call} (met : ¬ Clear client call) :
    ¬ Reported (Turnaround.apply client call) := by
  cases call with
  | send kind => exact absurd trivial met
  | loop input => exact absurd trivial met
  | sendNearbyRadioFrame ready allowed answers =>
    rw [Clear, Classical.not_imp] at met
    obtain ⟨reaches, occupied⟩ := met
    obtain ⟨outbound, way⟩ := Option.ne_none_iff_exists'.mp occupied
    obtain ⟨completed, -, -, unseen⟩ := latched.onTheWay outbound way
    intro reported
    have lost : Turnaround.apply client (.sendNearbyRadioFrame ready allowed answers) =
        { client with
          radio := (sendDirectOneShotRaw client.radio allowed answers).2 } := by
      simp [Turnaround.apply, sendNearbyRadioFrame, reaches]
    rw [lost] at reported
    rcases reported.once outbound.number completed with seen | later
    · have member : .seen outbound.number (some outbound.number) ∈ client.events :=
        List.count_pos_iff.mp (by rw [seen.1]; exact Nat.one_pos)
      exact unseen _ member
    · -- The next loop finds no latch, and the packet is still on the way.
      have next := later.2 ⟨false, [], none⟩
      have nothing : Turnaround.loop { client with
          radio := (sendDirectOneShotRaw client.radio allowed answers).2 }
          ⟨false, [], none⟩ = { client with
          radio := (sendDirectOneShotRaw client.radio allowed answers).2 } := by
        simp [Turnaround.loop, Turnaround.checkOutbound, way, sendDirectOneShotRaw,
          TxTurnaroundCompletion.takeForDispatcher]
      rw [nothing] at next
      have member : .seen outbound.number (some outbound.number) ∈ client.events :=
        List.count_pos_iff.mp (by rw [next.1]; exact Nat.one_pos)
      exact unseen _ member

end Latch

/--
In every state of a run the completions are reported, exactly when no frame reaches the
radio while a packet is on the way.
-/
theorem completion_reported_iff (calls : List Call) :
    (∀ earlier later, calls = earlier ++ later → Reported (after earlier)) ↔
      Throughout apply {} Clear calls := by
  constructor
  · intro reported
    induction calls using List.reverseRecOn with
    | nil => exact .nil
    | append_singleton calls call induction =>
      have before := induction fun earlier later equal =>
        reported earlier (later ++ [call]) (by rw [equal, List.append_assoc])
      apply before.concat
      have latched : Latched (after calls) :=
        exec_throughout latched_initially (fun _ _ latched clear => latched.apply clear)
          before
      by_contra met
      have broken := latched.lost met
      have last : after (calls ++ [call]) = apply (after calls) call :=
        exec_concat apply {} calls call
      rw [← last] at broken
      exact broken (reported (calls ++ [call]) [] (List.append_nil _).symm)
  · rintro clear earlier later rfl
    have latched : Latched (after earlier) :=
      exec_throughout latched_initially (fun _ _ latched clear => latched.apply clear)
        clear.earlier
    exact latched.reported

/-- A send that completes at its second poll. -/
def atOnce : Answers where
  started := true
  polls := [false, true]
  lastPoll := false

/-- An acknowledgement is sent in a loop, then a frame between this loop and the next. -/
def frameBehindReply : List Call :=
  [.send .acknowledgement, .loop ⟨false, [], some (0, .start true atOnce)⟩,
    .sendNearbyRadioFrame true true atOnce, .loop ⟨true, [], none⟩]

theorem frameBehindReply_expires :
    (after frameBehindReply).events = [.expired 0, .completed 0] ∧
      ¬ Reported (after frameBehindReply) := by
  have events : (after frameBehindReply).events = [.expired 0, .completed 0] := by
    decide
  refine ⟨events, fun reported => ?_⟩
  have once := reported.once 0 (by rw [events]; decide)
  rcases once with seen | later
  · exact seen.2 (by rw [events]; decide)
  · exact (later.2 ⟨false, [], none⟩).2 (by decide)

end Kitsu.Mesh.Turnaround
