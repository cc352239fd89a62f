import Mathlib.Data.List.Chain
import Kitsu.Lib.Run
import Kitsu.Expedition.PollErrors

/-!
# Journeys over whole runs

A run is a list of calls at times of one timeline.  A journey begins with an
accepted start and lasts until the next one.  `Underway` says where a journey is:
on its way and not ahead of the timeline, ready and reported once, or already
acknowledged.  What the journey promises over a run is read off it.
-/

namespace Kitsu.Expedition

open Kitsu.Lib.Run

/-- The calls of the core. -/
inductive Call where
  | start (duration : Duration) (context : StartContext) (now : ClockSample)
      (entropy : UInt32)
  | poll (now : ClockSample)
  | acknowledge (expeditionId : UInt32)
  /-- `restore(snapshot())`. -/
  | saveAndRestore

/-- What a call answers. -/
inductive Answer where
  | start (status : StartStatus)
  | poll (status : PollStatus)
  | acknowledge (status : AcknowledgeStatus)
  | restore (status : RestoreStatus)
deriving DecidableEq

/-- A call and the true time of it, in milliseconds. -/
structure Event where
  time : Nat
  call : Call

/-- A call by its name. -/
def perform (core : ExpeditionState) : Call → Answer × ExpeditionState
  | .start duration context now entropy =>
    let reply := Expedition.start core duration context now entropy
    (.start reply.1, reply.2)
  | .poll now =>
    let reply := Expedition.poll core now
    (.poll reply.1, reply.2)
  | .acknowledge expeditionId =>
    let reply := Expedition.acknowledge core expeditionId
    (.acknowledge reply.1, reply.2)
  | .saveAndRestore =>
    let reply := Expedition.restore core core
    (.restore reply.1, reply.2)

/-- What a call of the run is answered. -/
def answer (core : ExpeditionState) (event : Event) : Answer :=
  (perform core event.call).1

/-- The journey after a call of the run. -/
def step (core : ExpeditionState) (event : Event) : ExpeditionState :=
  (perform core event.call).2

/-- The time that a call is told. -/
def Call.sample : Call → Option ClockSample
  | .start _ _ now _ => some now
  | .poll now => some now
  | _ => none

/-- The calls of a run read their clocks from one timeline. -/
structure Timely (bootedAt : UInt32 → Nat) (history : List Event) : Prop where
  ordered : history.Pairwise fun earlier later => earlier.time ≤ later.time
  reads : ∀ event ∈ history, ∀ sample, event.call.sample = some sample →
    Reads bootedAt event.time sample
  range : ∀ event ∈ history, ∀ sample, event.call.sample = some sample →
    InRange sample

theorem Timely.earlier {bootedAt : UInt32 → Nat} {history later : List Event}
    (timely : Timely bootedAt (history ++ later)) : Timely bootedAt history :=
  ⟨(List.pairwise_append.mp timely.ordered).1,
    fun event member => timely.reads event (List.mem_append_left _ member),
    fun event member => timely.range event (List.mem_append_left _ member)⟩

theorem Timely.later {bootedAt : UInt32 → Nat} {history later : List Event}
    (timely : Timely bootedAt (history ++ later)) : Timely bootedAt later :=
  ⟨(List.pairwise_append.mp timely.ordered).2.1,
    fun event member => timely.reads event (List.mem_append_right _ member),
    fun event member => timely.range event (List.mem_append_right _ member)⟩

/-! ## Single calls -/

variable {core : ExpeditionState}

theorem restore_self (valid : validateExpeditionState core = true) :
    restore core core = (.ok, core) := by
  have header := (validateExpeditionState_iff.mp valid).1.header
  rw [restore, if_neg (by simp [header.magic]),
    if_neg (by simp [header.schema, header.bytes]), if_neg (by simp [valid])]

variable {now : ClockSample}

theorem poll_refused (valid : validateExpeditionState core = true)
    (refused : validClock now = false ∨ core.phase ≠ Phase.traveling.byte) :
    (poll core now).1 ≠ .becameReady ∧ (poll core now).2 = core := by
  rw [poll, if_neg (by simp [valid])]
  split
  · exact ⟨by rintro ⟨⟩, rfl⟩
  · rename_i clock
    rw [if_pos]
    · exact ⟨by rintro ⟨⟩, rfl⟩
    · rcases refused with wrong | other
      · simp [wrong] at clock
      · simpa using other

theorem acknowledge_cases (valid : validateExpeditionState core = true)
    (expeditionId : UInt32) :
    (acknowledge core expeditionId).2 = core ∨
      (core.phase = Phase.ready.byte ∧ (acknowledge core expeditionId).2 =
          refreshCrc (canonicalIdle core.sequence)) := by
  rw [acknowledge, if_neg (by simp [valid])]
  split
  · exact Or.inl rfl
  · rename_i ready
    split
    · exact Or.inl rfl
    · exact Or.inr ⟨by simpa using ready, rfl⟩

variable {event : Event}

/-- Every call leaves a valid record. -/
theorem valid_step (valid : validateExpeditionState core = true)
    (range : ∀ sample, event.call.sample = some sample → InRange sample) :
    validateExpeditionState (step core event) = true := by
  rcases event with ⟨time, call⟩
  cases call with
  | start duration context now entropy =>
    exact (start_cases core duration context now entropy).valid valid
  | poll now =>
    show validateExpeditionState (poll core now).2 = true
    rcases clock : validClock now with _ | _
    · rw [(poll_refused valid (Or.inl clock)).2]
      exact valid
    · by_cases traveling : core.phase = Phase.traveling.byte
      · rcases poll_polled valid clock traveling (range now rfl) with ⟨polled⟩
        exact polled.valid (validateExpeditionState_iff.mp valid).1 clock
          traveling
      · rw [(poll_refused valid (Or.inr traveling)).2]
        exact valid
  | acknowledge expeditionId =>
    show validateExpeditionState (acknowledge core expeditionId).2 = true
    rcases acknowledge_cases valid expeditionId with same | ⟨-, cleared⟩
    · rw [same]
      exact valid
    · rw [cleared]
      exact validate_refreshCrc (sound_idle _)
  | saveAndRestore =>
    show validateExpeditionState (restore core core).2 = true
    rw [restore_self valid]
    exact valid

theorem valid_run {bootedAt : UInt32 → Nat} {history : List Event}
    (valid : validateExpeditionState core = true)
    (timely : Timely bootedAt history) :
    validateExpeditionState (exec step core history) = true := by
  induction history using List.reverseRecOn with
  | nil => exact valid
  | append_singleton history event induction =>
    rw [exec_concat]
    exact valid_step (induction timely.earlier)
      (timely.later.range event List.mem_cons_self)

/-! ## Where a journey is -/

/-- The answers of a run. -/
def answers (core : ExpeditionState) : List Event → List Answer
  | [] => []
  | event :: later => answer core event :: answers (step core event) later

theorem answers_append (core : ExpeditionState) (history later : List Event) :
    answers core (history ++ later) =
      answers core history ++ answers (exec step core history) later := by
  induction history generalizing core with
  | nil => rfl
  | cons first rest induction =>
    rw [List.cons_append, answers, induction]
    rfl

theorem answers_concat (core : ExpeditionState) (history : List Event)
    (event : Event) :
    answers core (history ++ [event]) =
      answers core history ++ [answer (exec step core history) event] :=
  answers_append core history [event]

/-- How often the journey was reported ready. -/
def reports (core : ExpeditionState) (history : List Event) : Nat :=
  (answers core history).count (.poll .becameReady)

theorem reports_concat (core : ExpeditionState) (history : List Event)
    (event : Event) :
    reports core (history ++ [event]) = reports core history +
      if answer (exec step core history) event = .poll .becameReady then 1
      else 0 := by
  rw [reports, answers_concat, List.count_append, List.count_singleton]
  simp only [reports, beq_iff_eq]

variable {clock : Nat}

section Journey

variable (bootedAt : UInt32 → Nat) (origin : ExpeditionState)
  (startedAt : Nat)

/-- The true time at which the planned duration is over. -/
def target : Nat :=
  startedAt + origin.durationSeconds.toNat * 1000

/--
Where the journey that began with the record `origin` is at this time, after so
many reports of it.
-/
inductive Underway (clock : Nat) : Nat → ExpeditionState → Prop where
  | traveling {core : ExpeditionState} {checkpoint : Nat}
      (phase : core.phase = Phase.traveling.byte)
      (hooks : core.hooks = origin.hooks)
      (planned : core.durationSeconds = origin.durationSeconds)
      (passed : checkpoint ≤ clock)
      (anchor : Checkpoint bootedAt core checkpoint)
      (late : Late (target origin startedAt) core checkpoint) :
      Underway clock 0 core
  | ready {core : ExpeditionState} (phase : core.phase = Phase.ready.byte)
      (hooks : core.hooks = origin.hooks) : Underway clock 1 core
  | ended {core : ExpeditionState} (phase : core.phase = Phase.idle.byte) :
      Underway clock 1 core

variable {bootedAt origin startedAt}

theorem Underway.later {afterwards reported : Nat}
    (underway : Underway bootedAt origin startedAt clock reported core)
    (forward : clock ≤ afterwards) :
    Underway bootedAt origin startedAt afterwards reported core := by
  cases underway with
  | traveling phase hooks planned passed anchor late =>
    exact .traveling phase hooks planned (Nat.le_trans passed forward) anchor
      late
  | ready phase hooks => exact .ready phase hooks
  | ended phase => exact .ended phase

/-- What one call does to a journey. -/
structure Continues (reported : Nat) (core : ExpeditionState)
    (event : Event) : Prop where
  underway : Underway bootedAt origin startedAt event.time
    (reported + if answer core event = .poll .becameReady then 1 else 0)
    (step core event)
  falling : (step core event).remainingSeconds ≤ core.remainingSeconds
  timely : answer core event = .poll .becameReady →
    target origin startedAt ≤ event.time + 999

theorem Underway.unchanged {reported : Nat}
    (underway : Underway bootedAt origin startedAt clock reported core)
    (forward : clock ≤ event.time) (same : step core event = core)
    (quiet : answer core event ≠ .poll .becameReady) :
    @Continues bootedAt origin startedAt reported core event := by
  refine ⟨?_, ?_, fun ready => absurd ready quiet⟩
  · rw [if_neg quiet, same]
    exact underway.later forward
  · rw [same]
    exact UInt32.le_refl _

theorem Polled.checkpoint {after : ExpeditionState} {status : PollStatus}
    {time : Nat} (polled : Polled core now status after)
    (reads : Reads bootedAt time now) : Checkpoint bootedAt after time := by
  have boot : after.checkpointBootId = now.bootId :=
    congrArg ExpeditionState.checkpointBootId polled.left
  have monotonic : after.checkpointMonotonicMillis = now.monotonicMillis :=
    congrArg ExpeditionState.checkpointMonotonicMillis polled.left
  constructor
  · rw [boot]
    exact reads.after
  · rw [boot, monotonic]
    exact reads.monotonic

theorem Underway.poll {clock reported time : Nat} {core : ExpeditionState}
    {now : ClockSample}
    (underway : Underway bootedAt origin startedAt clock reported core)
    (valid : validateExpeditionState core = true) (forward : clock ≤ time)
    (reads : Reads bootedAt time now) (range : InRange now) :
    @Continues bootedAt origin startedAt reported core
      ⟨time, .poll now⟩ := by
  have refused (why : validClock now = false ∨ core.phase ≠ Phase.traveling.byte) :
      @Continues bootedAt origin startedAt reported core
        ⟨time, .poll now⟩ := by
    rcases poll_refused valid why with ⟨quiet, same⟩
    refine underway.unchanged forward same ?_
    intro ready
    exact quiet (Answer.poll.inj ready)
  rcases trusted : validClock now with _ | _
  · exact refused (Or.inl trusted)
  cases underway with
  | ready phase hooks => exact refused (Or.inr (by rw [phase]; decide))
  | ended phase => exact refused (Or.inr (by rw [phase]; decide))
  | traveling phase hooks planned passed anchor late =>
    rcases poll_polled valid trusted phase range with ⟨polled⟩
    have header := (validateExpeditionState_iff.mp valid).1.header.flags
    have earlier := Nat.le_trans passed forward
    have kept := polled.late header late reads earlier
      fun elapsed measures => anchor.measured_le reads earlier measures
    have hooksAfter : (Expedition.poll core now).2.hooks = core.hooks :=
      (congrArg ExpeditionState.hooks polled.left).trans rfl
    have plannedAfter : (Expedition.poll core now).2.durationSeconds =
        core.durationSeconds :=
      (congrArg ExpeditionState.durationSeconds polled.left).trans rfl
    have phaseAfter := congrArg ExpeditionState.phase polled.left
    have report : answer core ⟨time, .poll now⟩ = .poll .becameReady ↔
        polled.remaining = 0 :=
      Iff.trans ⟨fun same => Answer.poll.inj same, congrArg Answer.poll⟩
        polled.ready
    refine ⟨?_, ?_, fun ready => kept.1 (report.mp ready)⟩
    · by_cases finished : polled.remaining = 0
      · rw [if_pos (report.mpr finished)]
        exact .ready (phaseAfter.trans (if_pos finished))
          (hooksAfter.trans hooks)
      · rw [if_neg (fun ready => finished (report.mp ready))]
        exact .traveling ((phaseAfter.trans (if_neg finished)).trans phase)
          (hooksAfter.trans hooks) (plannedAfter.trans planned)
          (Nat.le_refl _) (polled.checkpoint reads) (kept.2 finished)
    · exact polled.remaining_after ▸ polled.remaining_le

/-- A call that is no poll leaves the record, unless it clears it. -/
theorem step_unpolled (valid : validateExpeditionState core = true)
    (lasts : answer core event ≠ .start .started)
    (other : ∀ now, event.call ≠ .poll now) :
    Expedition.step core event = core ∨
      (core.phase = Phase.ready.byte ∧ Expedition.step core event =
          refreshCrc (canonicalIdle core.sequence)) := by
  rcases event with ⟨time, call⟩
  cases call with
  | start duration context now entropy =>
    left
    have cases := start_cases core duration context now entropy
    show (start core duration context now entropy).2 = core
    have other : (start core duration context now entropy).1 ≠ .started :=
      fun started => lasts (congrArg Answer.start started)
    generalize start core duration context now entropy = reply at cases other
    cases cases with
    | refused refusal => rfl
    | started idle planned clock room dueAt => exact absurd rfl other
  | poll now => exact absurd rfl (other now)
  | acknowledge expeditionId => exact acknowledge_cases valid expeditionId
  | saveAndRestore =>
    left
    show (restore core core).2 = core
    rw [restore_self valid]

/-- A journey goes on with every call that does not start the next one. -/
theorem Underway.step {reported : Nat}
    (underway : Underway bootedAt origin startedAt clock reported core)
    (valid : validateExpeditionState core = true) (forward : clock ≤ event.time)
    (reads : ∀ sample, event.call.sample = some sample →
      Reads bootedAt event.time sample)
    (range : ∀ sample, event.call.sample = some sample → InRange sample)
    (lasts : answer core event ≠ .start .started) :
    @Continues bootedAt origin startedAt reported core event := by
  by_cases polls : ∃ now, event.call = .poll now
  · rcases event with ⟨time, call⟩
    rcases polls with ⟨now, rfl⟩
    exact underway.poll valid forward (reads now rfl) (range now rfl)
  have other (now : ClockSample) : event.call ≠ .poll now :=
    fun same => polls ⟨now, same⟩
  have quiet : answer core event ≠ .poll .becameReady := by
    rcases event with ⟨time, call⟩
    cases call with
    | poll now => exact absurd rfl (other now)
    | _ => nofun
  rcases step_unpolled valid lasts other with same | ⟨ready, after⟩
  · exact underway.unchanged forward same quiet
  · cases underway with
    | traveling phase hooks planned passed anchor late =>
      exact absurd (phase.symm.trans ready) (by decide)
    | ended phase => exact absurd (phase.symm.trans ready) (by decide)
    | ready phase hooks =>
      refine ⟨?_, ?_, fun reported => absurd reported quiet⟩
      · rw [after, if_neg quiet]
        exact .ended rfl
      · rw [after]
        exact UInt32.zero_le

/-- The calls of one journey, from the record its start left. -/
structure Journey (bootedAt : UInt32 → Nat) (origin : ExpeditionState)
    (startedAt : Nat) (during : List Event) : Prop where
  valid : validateExpeditionState origin = true
  begun : Underway bootedAt origin startedAt startedAt 0 origin
  timely : Timely bootedAt during
  since : ∀ event ∈ during, startedAt ≤ event.time
  lasts : ∀ given ∈ answers origin during, given ≠ .start .started

theorem Journey.earlier {earlier later : List Event}
    (journey : Journey bootedAt origin startedAt (earlier ++ later)) :
    Journey bootedAt origin startedAt earlier := by
  refine ⟨journey.valid, journey.begun, journey.timely.earlier,
    fun event member => journey.since event (List.mem_append_left _ member), ?_⟩
  intro given member
  apply journey.lasts given
  rw [answers_append]
  exact List.mem_append_left _ member

/-- A journey over a run, at any time after all of its calls. -/
theorem Journey.underway {during : List Event}
    (journey : Journey bootedAt origin startedAt during) {clock : Nat}
    (since : startedAt ≤ clock) (passed : ∀ event ∈ during, event.time ≤ clock) :
    Underway bootedAt origin startedAt clock (reports origin during)
      (exec step origin during) := by
  induction during using List.reverseRecOn generalizing clock with
  | nil => exact journey.begun.later since
  | append_singleton earlier event induction =>
    have here : event ∈ earlier ++ [event] :=
      List.mem_append_right _ List.mem_cons_self
    have before := induction journey.earlier (journey.since event here)
      fun other member => (List.pairwise_append.mp journey.timely.ordered).2.2
        other member event List.mem_cons_self
    have valid := valid_run journey.valid journey.timely.earlier
    have continues := before.step valid (Nat.le_refl _)
      (journey.timely.reads event here) (journey.timely.range event here)
      (journey.lasts _ (by
        rw [answers_concat]
        exact List.mem_append_right _ List.mem_cons_self))
    rw [reports_concat, exec_concat]
    exact continues.underway.later (passed event here)

/-- Every call of a journey continues it. -/
theorem Journey.continues {earlier later : List Event}
    (journey : Journey bootedAt origin startedAt (earlier ++ event :: later)) :
    @Continues bootedAt origin startedAt (reports origin earlier)
      (exec step origin earlier) event := by
  have here : event ∈ earlier ++ event :: later :=
    List.mem_append_right _ List.mem_cons_self
  have before := journey.earlier.underway (journey.since event here)
    fun other member => (List.pairwise_append.mp journey.timely.ordered).2.2
      other member event List.mem_cons_self
  apply before.step (valid_run journey.valid journey.timely.earlier)
    (Nat.le_refl _) (journey.timely.reads event here)
    (journey.timely.range event here)
  apply journey.lasts
  rw [answers_append]
  exact List.mem_append_right _ List.mem_cons_self

/-! ## One boot -/

/-- The times of the polls of a run. -/
def pollTimes (during : List Event) : List Nat :=
  during.filterMap fun event =>
    match event.call with
    | .poll _ => some event.time
    | _ => none

/-- All polls are made on the boot of the start, with a clock that is accepted. -/
def SingleBoot (boot : UInt32) (during : List Event) : Prop :=
  ∀ event ∈ during, ∀ now, event.call = .poll now →
    now.bootId = boot ∧ validClock now = true

/-- The start and the polls follow each other closely enough to be trusted. -/
def Close (startedAt : Nat) (origin : ExpeditionState) (during : List Event) :
    Prop :=
  (startedAt :: pollTimes during).IsChain fun earlier later =>
    later ≤ earlier + (origin.durationSeconds.toNat * 1000 + 60000)

/-- A journey under way that is not behind the timeline. -/
structure OnTime (bootedAt : UInt32 → Nat) (origin : ExpeditionState)
    (startedAt last : Nat) (core : ExpeditionState) : Prop where
  boot : core.checkpointBootId = origin.checkpointBootId
  planned : core.durationSeconds = origin.durationSeconds
  anchor : Checkpoint bootedAt core last
  behind : last + leftMillis core.remainingSeconds core.subsecondMillis ≤
    target origin startedAt

def lastPoll (startedAt : Nat) (during : List Event) : Nat :=
  (pollTimes during).getLast?.getD startedAt

theorem pollTimes_concat (earlier : List Event) (event : Event) :
    pollTimes (earlier ++ [event]) =
      pollTimes earlier ++ pollTimes [event] := by
  rw [pollTimes, List.filterMap_append]
  rfl

theorem pollTimes_mem {during : List Event} {time : Nat}
    (polled : time ∈ pollTimes during) : ∃ event ∈ during, event.time = time := by
  rcases List.mem_filterMap.mp polled with ⟨event, member, found⟩
  refine ⟨event, member, ?_⟩
  split at found
  · exact Option.some.inj found
  · cases found

theorem lastPoll_le {during : List Event} (since : startedAt ≤ clock)
    (passed : ∀ event ∈ during, event.time ≤ clock) :
    lastPoll startedAt during ≤ clock := by
  rw [lastPoll]
  rcases last : (pollTimes during).getLast? with _ | time
  · exact since
  · rcases pollTimes_mem (List.mem_of_getLast? last) with ⟨event, member, same⟩
    rw [Option.getD_some, ← same]
    exact passed event member

theorem Close.concat {earlier : List Event}
    (close : Close startedAt origin (earlier ++ [event]))
    (polls : event.call = .poll now) :
    event.time ≤ lastPoll startedAt earlier +
      (origin.durationSeconds.toNat * 1000 + 60000) := by
  have single : pollTimes [event] = [event.time] := by
    simp [pollTimes, polls]
  rw [Close, pollTimes_concat, single, ← List.cons_append,
    List.isChain_append] at close
  apply close.2.2 _ _ _ rfl
  rw [List.getLast?_cons]
  rfl

theorem Close.earlier {earlier later : List Event}
    (close : Close startedAt origin (earlier ++ later)) :
    Close startedAt origin earlier := by
  rw [Close, pollTimes, List.filterMap_append, ← List.cons_append,
    List.isChain_append] at close
  exact close.1

/-- While a closely watched journey is under way it is not behind. -/
theorem Journey.onTime {during : List Event}
    (journey : Journey bootedAt origin startedAt during)
    (begun : OnTime bootedAt origin startedAt startedAt origin)
    (single : SingleBoot origin.checkpointBootId during)
    (close : Close startedAt origin during)
    (traveling : (exec step origin during).phase = Phase.traveling.byte) :
    OnTime bootedAt origin startedAt (lastPoll startedAt during)
      (exec step origin during) := by
  induction during using List.reverseRecOn with
  | nil => exact begun
  | append_singleton earlier event induction =>
    have here : event ∈ earlier ++ [event] :=
      List.mem_append_right _ List.mem_cons_self
    have valid := valid_run journey.valid journey.timely.earlier
    have before := induction journey.earlier
      (fun other member => single other (List.mem_append_left _ member))
      close.earlier
    have lasts := journey.lasts (answer (exec step origin earlier) event) (by
      rw [answers_concat]
      exact List.mem_append_right _ List.mem_cons_self)
    rw [exec_concat] at traveling ⊢
    generalize exec step origin earlier = core
      at valid before traveling lasts ⊢
    by_cases polls : ∃ now, event.call = .poll now
    · rcases polls with ⟨now, polls⟩
      have gap := close.concat polls
      have last : lastPoll startedAt (earlier ++ [event]) = event.time := by
        rw [lastPoll, pollTimes_concat]
        simp [pollTimes, polls]
      have forward := lastPoll_le (journey.since event here)
        fun other member => (List.pairwise_append.mp
          journey.timely.ordered).2.2 other member event List.mem_cons_self
      have sampled : event.call.sample = some now := by rw [polls]; rfl
      have reads := journey.timely.reads event here now sampled
      rcases single event here now polls with ⟨boot, clock⟩
      have stepped : Expedition.step core event =
          (Expedition.poll core now).2 := by
        rw [Expedition.step, polls]
        rfl
      rw [stepped] at traveling ⊢
      rw [last]
      by_cases phase : core.phase = Phase.traveling.byte
      · have onTime := before phase
        have journeyValid : JourneyValid core := by
          apply (validateExpeditionState_iff.mp valid).1.journey
          rw [phase]
          decide
        rcases onTime.anchor.measured_eq reads forward
          (boot.trans onTime.boot.symm) (duration_bound journeyValid)
          (by rw [onTime.planned]; omega) with ⟨elapsed, measures, precise⟩
        rcases poll_polled valid clock phase
          (journey.timely.range event here now sampled) with ⟨polled⟩
        have unfinished : polled.remaining ≠ 0 := by
          intro finished
          have ready := (congrArg ExpeditionState.phase polled.left).trans
            (if_pos finished)
          exact absurd (ready.symm.trans traveling) (by decide)
        constructor
        · exact (congrArg ExpeditionState.checkpointBootId polled.left).trans
            boot
        · exact (congrArg ExpeditionState.durationSeconds polled.left).trans
            onTime.planned
        · exact polled.checkpoint reads
        · exact polled.punctual forward onTime.behind measures precise
            unfinished
      · rw [(poll_refused valid (Or.inr phase)).2] at traveling
        exact absurd traveling phase
    · have other (now : ClockSample) : event.call ≠ .poll now :=
        fun same => polls ⟨now, same⟩
      have none : pollTimes [event] = [] := by
        rcases event with ⟨time, call⟩
        cases call with
        | poll now => exact absurd rfl (other now)
        | _ => rfl
      have last : lastPoll startedAt (earlier ++ [event]) =
          lastPoll startedAt earlier := by
        rw [lastPoll, pollTimes_concat, none, List.append_nil]
        rfl
      rcases step_unpolled valid lasts other with same | ⟨-, cleared⟩
      · rw [same] at traveling ⊢
        rw [last]
        exact before traveling
      · rw [cleared] at traveling
        exact absurd traveling
          (show Phase.idle.byte ≠ Phase.traveling.byte by decide)

end Journey

/-! ## What journeys promise -/

/-- What holds of one journey, over all calls until the next start. -/
structure JourneyKept (origin : ExpeditionState) (startedAt : Nat)
    (during : List Event) : Prop where
  falling : ∀ earlier event later, during = earlier ++ event :: later →
    (exec step origin (earlier ++ [event])).remainingSeconds ≤
      (exec step origin earlier).remainingSeconds
  /-- Reported ready once, and then it is under way no longer. -/
  once : reports origin during =
    if (exec step origin during).phase = Phase.traveling.byte then 0 else 1
  timely : ∀ earlier event later, during = earlier ++ event :: later →
    answer (exec step origin earlier) event = .poll .becameReady →
    startedAt + origin.durationSeconds.toNat * 1000 ≤ event.time + 999
  hooks : ∀ hooks, completion (exec step origin during) = some hooks →
    hooks = origin.hooks
  /-- On one boot, with close polls, a poll after the duration finds it ready. -/
  punctual : SingleBoot origin.checkpointBootId during →
    Close startedAt origin during →
    ∀ earlier event later now, during = earlier ++ event :: later →
      event.call = .poll now →
      startedAt + origin.durationSeconds.toNat * 1000 ≤ event.time →
      answer (exec step origin earlier) event = .poll .becameReady ∨
        0 < reports origin earlier

section Kept

variable {bootedAt : UInt32 → Nat} {origin : ExpeditionState}
  {startedAt : Nat} {during : List Event}

theorem Journey.underway_last
    (journey : Journey bootedAt origin startedAt during) :
    ∃ clock, Underway bootedAt origin startedAt clock (reports origin during)
      (exec step origin during) := by
  rcases List.eq_nil_or_concat during with rfl | ⟨earlier, event, rfl⟩
  · exact ⟨startedAt, journey.begun⟩
  · rw [List.concat_eq_append] at journey ⊢
    have ordered := List.pairwise_append.mp journey.timely.ordered
    refine ⟨event.time, journey.underway
      (journey.since event (List.mem_append_right _ List.mem_cons_self)) ?_⟩
    intro other member
    rcases List.mem_append.mp member with before | last
    · exact ordered.2.2 other before event List.mem_cons_self
    · rw [List.mem_singleton.mp last]

theorem Journey.reports_eq (journey : Journey bootedAt origin startedAt during) :
    reports origin during =
      if (exec step origin during).phase = Phase.traveling.byte then 0
      else 1 := by
  rcases journey.underway_last with ⟨clock, underway⟩
  generalize reports origin during = reported at underway
  cases underway with
  | traveling phase hooks planned passed anchor late => rw [if_pos phase]
  | ready phase hooks =>
    rw [phase]
    decide
  | ended phase =>
    rw [phase]
    decide

theorem Journey.completion_eq (journey : Journey bootedAt origin startedAt during)
    {hooks : CompletionHooks}
    (completed : completion (exec step origin during) = some hooks) :
    hooks = origin.hooks := by
  rcases journey.underway_last with ⟨clock, underway⟩
  generalize reports origin during = reported at underway
  rw [completion] at completed
  split at completed
  · cases completed
  rename_i ready
  simp only [Bool.or_eq_true, bne_iff_ne, not_or, Decidable.not_not] at ready
  cases underway with
  | traveling phase _ planned passed anchor late =>
    exact absurd (phase.symm.trans ready.2) (by decide)
  | ready phase same => exact (Option.some.inj completed).symm.trans same
  | ended phase => exact absurd (phase.symm.trans ready.2) (by decide)

/-- A closely watched journey is under way no longer once its time is over. -/
theorem Journey.finished {earlier : List Event}
    (journey : Journey bootedAt origin startedAt (earlier ++ [event]))
    (begun : OnTime bootedAt origin startedAt startedAt origin)
    (single : SingleBoot origin.checkpointBootId (earlier ++ [event]))
    (close : Close startedAt origin (earlier ++ [event]))
    (polls : event.call = .poll now)
    (late : target origin startedAt ≤ event.time) :
    (exec step origin (earlier ++ [event])).phase ≠ Phase.traveling.byte := by
  intro traveling
  have onTime := journey.onTime begun single close traveling
  have valid := valid_run journey.valid journey.timely
  have journeyValid : JourneyValid (exec step origin (earlier ++ [event])) := by
    apply (validateExpeditionState_iff.mp valid).1.journey
    rw [traveling]
    decide
  have last : lastPoll startedAt (earlier ++ [event]) = event.time := by
    rw [lastPoll, pollTimes_concat]
    simp [pollTimes, polls]
  have left := leftMillis_pos (journeyValid.traveling traveling)
    journeyValid.subsecond
  have behind := onTime.behind
  omega

theorem Journey.kept (journey : Journey bootedAt origin startedAt during)
    (begun : OnTime bootedAt origin startedAt startedAt origin) :
    JourneyKept origin startedAt during := by
  constructor
  · rintro earlier event later rfl
    rw [exec_concat]
    exact journey.continues.falling
  · exact journey.reports_eq
  · rintro earlier event later rfl
    exact journey.continues.timely
  · intro hooks completed
    exact journey.completion_eq completed
  · rintro single close earlier event later now rfl polls late
    rw [← List.singleton_append, ← List.append_assoc] at journey single close
    have toHere := journey.earlier
    have finished := toHere.finished begun
      (fun other member => single other (List.mem_append_left _ member))
      close.earlier polls late
    have reported := toHere.reports_eq
    rw [if_neg finished, reports_concat] at reported
    by_cases now : answer (exec step origin earlier) event =
        .poll .becameReady
    · exact Or.inl now
    · rw [if_neg now] at reported
      omega

end Kept

/-! ## From the reset on -/

theorem valid_reset : validateExpeditionState reset = true :=
  validate_refreshCrc (sound_idle 0)

/-- The record an accepted start leaves. -/
theorem start_origin {bootedAt : UInt32 → Nat} {first : Event}
    (accepted : answer core first = .start .started)
    (reads : ∀ sample, first.call.sample = some sample →
      Reads bootedAt first.time sample) :
    Underway bootedAt (step core first) first.time first.time 0
        (step core first) ∧
      OnTime bootedAt (step core first) first.time first.time
        (step core first) := by
  rcases first with ⟨time, call⟩
  cases call with
  | start duration context now entropy =>
    have cases := start_cases core duration context now entropy
    have started : (start core duration context now entropy).1 = .started :=
      Answer.start.inj accepted
    have sample := reads now rfl
    have after : step core ⟨time, .start duration context now entropy⟩ =
        (start core duration context now entropy).2 := rfl
    rw [after]
    generalize start core duration context now entropy = reply
      at cases started
    cases cases with
    | refused refusal => exact absurd started refusal
    | @started due idle planned clock room dueAt =>
      generalize origin_eq : startedState duration context now due
        (core.sequence + 1) entropy = origin
      have anchor : Checkpoint bootedAt (refreshCrc origin) time := by
        rw [← origin_eq]
        exact ⟨sample.after, sample.monotonic⟩
      have whole : leftMillis (refreshCrc origin).remainingSeconds
          (refreshCrc origin).subsecondMillis =
            (refreshCrc origin).durationSeconds.toNat * 1000 := by
        rw [← origin_eq]
        rfl
      have flag : dueUnixValid (refreshCrc origin) = true →
          now.unixValid ≠ 0 := by
        rw [← origin_eq]
        intro valid zero
        simp only [dueUnixValid, refreshCrc, startedState, zero] at valid
        exact absurd valid (by decide)
      have dueSeconds : (refreshCrc origin).dueUnixSeconds = due := by
        rw [← origin_eq]
        rfl
      have seconds : (refreshCrc origin).durationSeconds =
          durationSeconds duration := by
        rw [← origin_eq]
        rfl
      have phase : (refreshCrc origin).phase = Phase.traveling.byte := by
        rw [← origin_eq]
        rfl
      constructor
      · refine .traveling phase rfl rfl (Nat.le_refl _) anchor ⟨?_, ?_⟩
        · intro valid
          have wall := sample.wall (flag valid)
          have sum := (dueAt.bound (flag valid)).1
          rw [dueSeconds, target, seconds]
          omega
        · rw [whole, target]
          exact Nat.le_add_right _ _
      · exact ⟨rfl, rfl, anchor, by rw [whole]; exact Nat.le_refl _⟩
  | poll now => cases accepted
  | acknowledge expeditionId => cases accepted
  | saveAndRestore => cases accepted

/--
Over every run on one timeline: the record stays valid, and every journey that
begins in it is kept until the next one begins.
-/
theorem expeditions_kept (bootedAt : UInt32 → Nat) (history : List Event)
    (timely : Timely bootedAt history) :
    validateExpeditionState (exec step reset history) = true ∧
      ∀ before first during, history = before ++ first :: during →
        answer (exec step reset before) first = .start .started →
        (∀ given ∈ answers (exec step reset (before ++ [first])) during,
          given ≠ .start .started) →
        JourneyKept (exec step reset (before ++ [first])) first.time
          during := by
  refine ⟨valid_run valid_reset timely, ?_⟩
  rintro before first during rfl accepted lasts
  have here : first ∈ before ++ first :: during :=
    List.mem_append_right _ List.mem_cons_self
  have origin := start_origin accepted (timely.reads first here)
  rw [← exec_concat step reset before first] at origin
  have toFirst : Timely bootedAt (before ++ [first]) := by
    rw [← List.singleton_append, ← List.append_assoc] at timely
    exact timely.earlier
  have journey : Journey bootedAt (exec step reset (before ++ [first]))
      first.time during := by
    refine ⟨valid_run valid_reset toFirst, origin.1, ?_, ?_, lasts⟩
    · rw [← List.singleton_append, ← List.append_assoc] at timely
      exact timely.later
    · intro event member
      exact (List.pairwise_cons.mp timely.later.ordered).1 event member
  exact journey.kept origin.2

/-! ## A report just before the duration is over -/

/-- A boot at the first second the wall clock is trusted. -/
def newYearBoot : UInt32 → Nat :=
  fun _ => 1577836800000

/-- The reading of the clocks at this time on that boot. -/
def newYearSample (time : Nat) : ClockSample where
  bootId := 7
  monotonicMillis := UInt32.ofNat (time - 1577836800000)
  unixSeconds := UInt64.ofNat (time / 1000)
  unixValid := 1

/--
A short journey that starts at the end of a second, a poll at the due second,
and a poll when the duration is over.
-/
def newYearRun : List Event :=
  [⟨1577836800999, .start .short {} (newYearSample 1577836800999) 77⟩,
    ⟨1577837700000, .poll (newYearSample 1577837700000)⟩,
    ⟨1577837700999, .poll (newYearSample 1577837700999)⟩]

theorem newYearSample_reads {time : Nat} (after : 1577836800000 ≤ time)
    (early : time < 1577836800000 + 2 ^ 32) :
    Reads newYearBoot time (newYearSample time) := by
  refine ⟨?_, after, ?_, ?_⟩
  · show (7 : UInt32) ≠ 0
    decide
  · show (UInt32.ofNat (time - 1577836800000)).toNat = _
    rw [UInt32.toNat_ofNat_of_lt' (by show _ < 4294967296; omega)]
    exact (Nat.mod_eq_of_lt (by omega)).symm
  · intro valid
    exact UInt64.toNat_ofNat_of_lt' (by show _ < 18446744073709551616; omega)

theorem newYearRun_timely : Timely newYearBoot newYearRun := by
  constructor
  · simp [newYearRun]
  · intro event member sample sampled
    simp only [newYearRun, List.mem_cons, List.not_mem_nil, or_false] at member
    rcases member with rfl | rfl | rfl <;> cases sampled <;>
      exact newYearSample_reads (by decide) (by decide)
  · intro event member sample sampled given
    simp only [newYearRun, List.mem_cons, List.not_mem_nil, or_false] at member
    rcases member with rfl | rfl | rfl <;> cases sampled <;> decide

/-- The record after the start of the run. -/
def newYearOrigin : ExpeditionState :=
  exec step reset (newYearRun.take 1)

theorem newYear_journey_kept :
    validateExpeditionState (exec step reset newYearRun) = true ∧
      JourneyKept newYearOrigin 1577836800999 (newYearRun.drop 1) :=
  ⟨(expeditions_kept newYearBoot newYearRun newYearRun_timely).1,
    (expeditions_kept newYearBoot newYearRun newYearRun_timely).2 []
      ⟨1577836800999, .start .short {} (newYearSample 1577836800999) 77⟩
      (newYearRun.drop 1) rfl (by decide +kernel) (by decide +kernel)⟩

/--
On one boot with close polls, the first poll at or after the duration answers
that nothing changed: the wall clock reported the journey ready before it.
-/
theorem newYear_reported_before :
    Timely newYearBoot newYearRun ∧
      SingleBoot newYearOrigin.checkpointBootId (newYearRun.drop 1) ∧
      Close 1577836800999 newYearOrigin (newYearRun.drop 1) ∧
      answer reset (newYearRun[0]) = .start .started ∧
      newYearRun[1].time <
        1577836800999 + newYearOrigin.durationSeconds.toNat * 1000 ∧
      newYearRun[2].time =
        1577836800999 + newYearOrigin.durationSeconds.toNat * 1000 ∧
      answers newYearOrigin (newYearRun.drop 1) =
        [.poll .becameReady, .poll .noChange] := by
  have boot : newYearOrigin.checkpointBootId = 7 := by decide +kernel
  have seconds : newYearOrigin.durationSeconds = 900 := by decide +kernel
  refine ⟨newYearRun_timely, ?_, ?_, by decide +kernel, ?_, ?_,
    by decide +kernel⟩
  · intro event member now polls
    simp only [newYearRun, List.drop_succ_cons, List.drop_zero, List.mem_cons,
      List.not_mem_nil, or_false] at member
    rcases member with rfl | rfl <;> cases polls <;> rw [boot] <;> decide
  · rw [Close, seconds]
    decide
  · rw [seconds]
    decide
  · rw [seconds]
    decide

end Kitsu.Expedition
