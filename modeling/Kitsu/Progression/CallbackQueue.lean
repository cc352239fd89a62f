import Kitsu.Progression.Steps

/-!
# The callback queue over whole histories

Callbacks are put behind the newest one, each with a due day of its own, and
`takeCallback` looks at the oldest only.  Repeated calls return the callbacks in front
of the first that is not yet due, so the order of the due days decides whether each
callback that is due comes out.
-/

namespace Kitsu.Progression

open Kitsu.Lib

variable {due : UInt32} {start state next : State}

/-- The ring is read inside its array. -/
def Ringed (state : State) : Prop :=
  state.callbackHead.toNat < kCallbackCapacity ∧
    state.callbackCount.toNat ≤ kCallbackCapacity

theorem retained_of_queue (same : next.queue = state.queue) :
    retained next = retained state := by
  simp only [State.queue, Prod.mk.injEq] at same
  rcases same with ⟨head, count, callbacks⟩
  rw [retained, retained, head, count, callbacks]

theorem Ringed.of_queue (ringed : Ringed state)
    (same : next.queue = state.queue) : Ringed next := by
  simp only [State.queue, Prod.mk.injEq] at same
  rcases same with ⟨head, count, -⟩
  rw [Ringed, head, count]
  exact ringed

theorem Ringed.unlock (ringed : Ringed state) (achievement : UInt32)
    (lore : UInt16) : Ringed (unlock state achievement lore) :=
  ringed

/-! ## Queueing -/

theorem toNat_succ {count : UInt8} (room : count.toNat < kCallbackCapacity) :
    (count + 1).toNat = count.toNat + 1 := by
  have inside : count.toNat < 6 := room
  have one : (1 : UInt8).toNat = 1 := rfl
  rw [UInt8.toNat_add, one]
  exact Nat.mod_eq_of_lt (by omega)

/-- A callback is queued behind the newest one, or not at all. -/
theorem retained_enqueueCallback (state : State) (kind : CallbackKind)
    (detail : UInt8) (due : UInt32) :
    retained (enqueueCallback state kind detail due).1 = retained state ∨
      retained (enqueueCallback state kind detail due).1 =
        retained state ++ [⟨due, kind.code, detail⟩] := by
  unfold enqueueCallback
  split
  · exact Or.inl rfl
  · split
    next => exact Or.inl rfl
    next full =>
      have room := Nat.lt_of_not_le full
      right
      rw [retained, toNat_succ room]
      exact FifoRing.items_push _ room

theorem Ringed.enqueueCallback (ringed : Ringed state) (kind : CallbackKind)
    (detail : UInt8) (due : UInt32) :
    Ringed (enqueueCallback state kind detail due).1 := by
  unfold Progression.enqueueCallback
  split
  · exact ringed
  · split
    next => exact ringed
    next full =>
      have room := Nat.lt_of_not_le full
      refine ⟨ringed.1, ?_⟩
      rw [toNat_succ room]
      exact room

theorem Tends.ringed (steps : Tends due start state) (ringed : Ringed start) :
    Ringed state := by
  induction steps with
  | start => exact ringed
  | aside _ _ queue induction => exact induction.of_queue queue
  | enqueue _ induction => exact induction.enqueueCallback _ _ _

theorem CallbackKind.code_le (kind : CallbackKind) :
    kind.code ≤ CallbackKind.anniversary.code := by
  cases kind <;> decide

/-- Such steps put callbacks that are due on the day behind those retained. -/
theorem Tends.queued (steps : Tends due start state) :
    ∃ fresh, retained state = retained start ++ fresh ∧
      ∀ record ∈ fresh,
        record.dueDay = due ∧ record.kind ≤ CallbackKind.anniversary.code := by
  induction steps with
  | start => exact ⟨[], (List.append_nil _).symm, by simp⟩
  | aside _ _ queue induction =>
    rw [retained_of_queue queue]
    exact induction
  | @enqueue state kind detail before induction =>
    rcases induction with ⟨fresh, equal, dated⟩
    rcases retained_enqueueCallback state kind detail due with same | more
    · exact ⟨fresh, same.trans equal, dated⟩
    · refine ⟨fresh ++ [⟨due, kind.code, detail⟩], ?_, ?_⟩
      · rw [more, equal, List.append_assoc]
      · intro record member
        rcases List.mem_append.mp member with old | new
        · exact dated record old
        · rw [List.mem_singleton.mp new]
          exact ⟨rfl, kind.code_le⟩

/-! ## Taking -/

theorem oldestCallback_eq (ringed : Ringed state) :
    oldestCallback state =
      FifoRing.entry state.callbacks state.callbackHead.toNat 0 := by
  rw [oldestCallback, FifoRing.entry, Nat.add_zero, Nat.mod_eq_of_lt ringed.1]

theorem retained_nil (empty : state.callbackCount = 0) : retained state = [] := by
  rw [retained, empty]
  rfl

theorem toNat_pred {count : UInt8} (some : count ≠ 0) :
    (count - 1).toNat = count.toNat - 1 := by
  have positive : 1 ≤ count.toNat := by
    rcases Nat.eq_zero_or_pos count.toNat with zero | positive
    · exact absurd (UInt8.toNat_inj.mp zero) some
    · exact positive
  exact UInt8.toNat_sub_of_le count 1 positive

theorem Ringed.dropOldest (ringed : Ringed state) (some : state.callbackCount ≠ 0) :
    Ringed (dropOldest state) := by
  constructor
  · unfold Progression.dropOldest
    dsimp only
    split
    · decide
    · have slot := Nat.mod_lt (state.callbackHead.toNat + 1)
        (Nat.zero_lt_of_lt ringed.1)
      rw [UInt8.toNat_ofNat_of_lt' (Nat.lt_trans slot (by decide))]
      exact slot
  · show (state.callbackCount - 1).toNat ≤ kCallbackCapacity
    rw [toNat_pred some]
    exact Nat.le_trans (Nat.sub_le _ _) ringed.2

/-- The oldest callback stands in front of those left without it. -/
theorem retained_dropOldest (ringed : Ringed state)
    (some : state.callbackCount ≠ 0) :
    retained state = oldestCallback state :: retained (dropOldest state) := by
  have count := toNat_pred some
  have positive : state.callbackCount.toNat ≠ 0 :=
    fun zero => some (UInt8.toNat_inj.mp zero)
  have split : state.callbackCount.toNat = (state.callbackCount - 1).toNat + 1 := by
    omega
  rw [retained, split, FifoRing.items_pop, oldestCallback_eq ringed]
  congr 1
  have slot := Nat.mod_lt (state.callbackHead.toNat + 1)
    (Nat.zero_lt_of_lt ringed.1)
  unfold retained dropOldest
  dsimp only
  split
  next last => rw [last]; rfl
  next => rw [UInt8.toNat_ofNat_of_lt' (Nat.lt_trans slot (by decide))]

/-- A call with no callback due in front changes nothing. -/
theorem takeCallback_early {day : UInt32} (ringed : Ringed state)
    (early : ∀ record ∈ (retained state).head?, ¬ record.dueDay ≤ day) :
    takeCallback state day = (state, none) := by
  have unready : callbackReady state day = false := by
    unfold callbackReady
    split
    next => rfl
    next some =>
      apply decide_eq_false
      apply early
      rw [retained_dropOldest ringed some]
      rfl
  rw [takeCallback, unready]
  rfl

variable {record : CallbackRecord}

theorem takeCallback_due {day : UInt32} (ringed : Ringed state)
    {rest : List CallbackRecord} (front : retained state = record :: rest)
    (ready : record.dueDay ≤ day) :
    (takeCallback state day).2 = some record ∧
      retained (takeCallback state day).1 = rest ∧
      Ringed (takeCallback state day).1 := by
  have some : state.callbackCount ≠ 0 := by
    intro none
    rw [retained_nil none] at front
    exact List.cons_ne_nil _ _ front.symm
  have dropped := retained_dropOldest ringed some
  rw [front] at dropped
  rcases List.cons.inj dropped with ⟨rfl, rest⟩
  have called : callbackReady state day = true := by
    unfold callbackReady
    rw [if_neg some]
    exact decide_eq_true ready
  rw [takeCallback, called]
  exact ⟨rfl, rest.symm, ringed.dropOldest some⟩

/-! ## Taking again and again -/

/-- The callbacks that the first calls of `takeCallback` on a day return. -/
def takes (day : UInt32) : Nat → State → List CallbackRecord
  | 0, _ => []
  | calls + 1, state =>
    (takeCallback state day).2.toList ++
      takes day calls (takeCallback state day).1

/-- The callbacks in front of the first that is not yet due. -/
def inFront (day : UInt32) (records : List CallbackRecord) : List CallbackRecord :=
  records.takeWhile fun record => decide (record.dueDay ≤ day)

theorem inFront_due {day : UInt32} (ready : record.dueDay ≤ day)
    (rest : List CallbackRecord) :
    inFront day (record :: rest) = record :: inFront day rest :=
  List.takeWhile_cons_of_pos (decide_eq_true ready)

theorem inFront_early {day : UInt32} (early : ¬ record.dueDay ≤ day)
    (rest : List CallbackRecord) : inFront day (record :: rest) = [] :=
  List.takeWhile_cons_of_neg (by simpa using early)

/-- Calls on one day return what stands in front of the first callback not due. -/
theorem takes_eq (day : UInt32) (calls : Nat) (ringed : Ringed state) :
    takes day calls state = (inFront day (retained state)).take calls := by
  induction calls generalizing state with
  | zero => rfl
  | succ calls induction =>
    rw [takes]
    cases front : retained state with
    | nil =>
      have early := @takeCallback_early _ day ringed (by simp [front])
      rw [early, induction ringed, front, inFront, List.takeWhile_nil]
      simp
    | cons record rest =>
      by_cases ready : record.dueDay ≤ day
      · rcases takeCallback_due ringed front ready with ⟨taken, left, inside⟩
        rw [taken, induction inside, left, inFront_due ready]
        rfl
      · have early := @takeCallback_early _ day ringed (by
          intro oldest found
          rw [front, List.head?_cons, Option.mem_some_iff] at found
          exact found ▸ ready)
        rw [early, induction ringed, front, inFront_early ready]
        simp

/-! ## Whether each due callback comes out -/

/-- Each callback retained and due on a day is returned by a call on that day. -/
def DueAreTaken (state : State) : Prop :=
  ∀ (day : UInt32) (place : Nat) (inside : place < (retained state).length),
    (retained state)[place].dueDay ≤ day →
      ∃ calls, (takes day calls state)[place]? = some (retained state)[place]

/-- The records stand in the order of their due days. -/
def InOrder (records : List CallbackRecord) : Prop :=
  records.Pairwise fun earlier later => earlier.dueDay ≤ later.dueDay

/-- Every record that is due stands in front exactly when they are in order. -/
theorem inFront_iff (records : List CallbackRecord) :
    (∀ (day : UInt32) (place : Nat) (inside : place < records.length),
        records[place].dueDay ≤ day →
          (inFront day records)[place]? = some records[place]) ↔
      InOrder records := by
  induction records with
  | nil => simp [InOrder]
  | cons record rest induction =>
    rw [InOrder, List.pairwise_cons]
    constructor
    · intro front
      have head (day : UInt32) (place : Nat) (inside : place < rest.length)
          (ready : rest[place].dueDay ≤ day) :
          record.dueDay ≤ day ∧
            (inFront day rest)[place]? = some rest[place] := by
        have found := front day (place + 1) (Nat.succ_lt_succ inside) ready
        by_cases due : record.dueDay ≤ day
        · rw [inFront_due due] at found
          exact ⟨due, found⟩
        · rw [inFront_early due] at found
          simp at found
      constructor
      · intro later member
        rcases List.getElem_of_mem member with ⟨place, inside, rfl⟩
        exact (head _ place inside (UInt32.le_refl _)).1
      · apply induction.mp
        intro day place inside ready
        exact (head day place inside ready).2
    · rintro ⟨first, others⟩ day place inside ready
      cases place with
      | zero =>
        have due : record.dueDay ≤ day := ready
        rw [inFront_due due]
        rfl
      | succ place =>
        have due : record.dueDay ≤ day :=
          UInt32.le_trans (first _ (List.getElem_mem _)) ready
        rw [inFront_due due]
        exact induction.mpr others day place _ ready

theorem dueAreTaken_iff (ringed : Ringed state) :
    DueAreTaken state ↔ InOrder (retained state) := by
  rw [← inFront_iff]
  constructor
  · intro taken day place inside ready
    rcases taken day place inside ready with ⟨calls, found⟩
    rw [takes_eq day calls ringed, List.getElem?_take] at found
    split at found
    · exact found
    · simp at found
  · intro front day place inside ready
    refine ⟨place + 1, ?_⟩
    rw [takes_eq day _ ringed, List.getElem?_take_of_lt (Nat.lt_succ_self _)]
    exact front day place inside ready

/-! ## What an operation queues -/

theorem addDaysSaturated_one_le {day later : UInt32} (before : day < later) :
    addDaysSaturated day 1 ≤ later := by
  have least := UInt32.lt_iff_toNat_lt.mp before
  have greatest := later.toNat_lt
  unfold addDaysSaturated
  split
  next full =>
    have far := UInt32.lt_iff_toNat_lt.mp full
    rw [UInt32.toNat_sub_of_le _ _ (by
      exact Nat.le_pred_of_lt day.toNat_lt)] at far
    have ones : (0xFFFFFFFF : UInt32).toNat = 4294967295 := rfl
    have one : (1 : UInt8).toUInt32.toNat = 1 := rfl
    omega
  next =>
    rw [UInt32.le_iff_toNat_le, UInt32.toNat_add]
    have one : (1 : UInt8).toUInt32.toNat = 1 := rfl
    rw [one, Nat.mod_eq_of_lt (by omega)]
    exact least

/-- Turning to a later day may remember the day that ends, and nothing else. -/
theorem moveToDay_queue (state : State) (day : UInt32) :
    ∃ settled, Tends (addDaysSaturated state.currentDay 1) state settled ∧
      (moveToDay state day).state.queue = settled.queue ∧
      (settled = state ∨ (state.activeDays ≠ 0 ∧ state.currentDay < day)) := by
  rcases moveToDay_cases state day with ⟨_, equal⟩ | ⟨_, _, _, equal⟩ |
    ⟨_, _, _, _, settled, steps, idle, queue⟩
  · rw [equal]
    exact ⟨state, .start, rfl, Or.inl rfl⟩
  · rw [equal]
    exact ⟨state, .start, rfl, Or.inl rfl⟩
  · refine ⟨settled, steps, queue, ?_⟩
    by_cases first : state.activeDays = 0
    · exact Or.inl (idle first)
    · rename_i turned _ _
      exact Or.inr ⟨first, turned.resolve_left first⟩

theorem recordAction_queue (state : State) (action : UInt8) (day : UInt32)
    (minuteOfDay : UInt16) (bondLevel : UInt8) :
    (recordAction state action day minuteOfDay bondLevel).1 = state ∨
      Tends day (moveToDay state day).state
        (recordAction state action day minuteOfDay bondLevel).1 := by
  rcases recordAction_cases state action day minuteOfDay bondLevel with
    refused | ⟨_, _, _, recorded⟩
  · exact Or.inl (congrArg Prod.fst refused)
  · rw [recorded]
    exact Or.inr Tends.start.performAction

theorem startSession_queue (state : State) (day : UInt32) (minuteOfDay : UInt16)
    (bondLevel : UInt8) (vitals : CompanionVitals) (season : UInt8) :
    (startSession state day minuteOfDay bondLevel vitals season).1 = state ∨
      ∃ bonded, Tends day (moveToDay state day).state bonded ∧
        (startSession state day minuteOfDay bondLevel vitals season).1.queue =
          bonded.queue := by
  rcases startSession_cases state day minuteOfDay bondLevel vitals season with
    refused | ⟨_, _, _, opened⟩
  · exact Or.inl (congrArg Prod.fst refused)
  · rw [opened]
    rcases openSession_tends Tends.start with ⟨bonded, steps, queue, _⟩
    exact Or.inr ⟨bonded, steps, queue⟩

theorem rememberEvent_tends (state : State) (eventId : UInt8) (day : UInt32)
    (delayDays : UInt8) :
    Tends (addDaysSaturated day delayDays) state
      (rememberEvent state eventId day delayDays).1 :=
  Tends.start.enqueue

theorem rememberDream_tends (state : State) (dreamId : UInt8) (day : UInt32) :
    Tends (addDaysSaturated day 1) state (rememberDream state dreamId day).1 :=
  (Tends.start.unlock _ _).enqueue

theorem rememberExpedition_tends (state : State) (outcomeId : UInt8)
    (day : UInt32) :
    Tends (addDaysSaturated day 1) state
      (rememberExpedition state outcomeId day).1 :=
  (Tends.start.unlock _ _).enqueue

theorem rememberFriend_tends (state : State) (friendDetail : UInt8)
    (day : UInt32) :
    Tends (addDaysSaturated day 1) state
      (rememberFriend state friendDetail day).1 :=
  (Tends.start.unlock _ _).enqueue

/-! ## Histories -/

section Histories

variable {day : UInt32}

theorem moveToDay_ringed (ringed : Ringed state) (day : UInt32) :
    Ringed (moveToDay state day).state := by
  rcases moveToDay_queue state day with ⟨settled, steps, queue, _⟩
  exact (steps.ringed ringed).of_queue queue

theorem takeCallback_cases (state : State) (day : UInt32) :
    takeCallback state day = (state, none) ∨
      state.callbackCount ≠ 0 ∧
        (takeCallback state day).1 =
          unlock (dropOldest state) AchievementFirstCallback LoreFirstMemory := by
  by_cases empty : state.callbackCount = 0
  · left
    rw [takeCallback, callbackReady, if_pos empty]
    rfl
  · unfold takeCallback
    split
    · exact Or.inr ⟨empty, rfl⟩
    · exact Or.inl rfl

theorem ringed_of_valid (valid : validRecord state = true) : Ringed state := by
  rw [validRecord, Bool.and_assoc, Bool.and_eq_true] at valid
  have ranged := (validFields_iff state).mp valid.1
  exact ⟨ranged.head, ranged.count⟩

/-- Every operation keeps the ring inside its array. -/
theorem act_ringed (state : State) (operation : Operation)
    (ringed : Ringed state) : Ringed (act state operation) := by
  cases operation with
  | initializeProgression => exact ⟨Nat.zero_lt_succ _, Nat.zero_le _⟩
  | startSession day minuteOfDay bondLevel vitals season =>
    rcases startSession_queue state day minuteOfDay bondLevel vitals season with
      same | ⟨bonded, steps, queue⟩
    · exact ringed.of_queue (congrArg State.queue same)
    · exact (steps.ringed (moveToDay_ringed ringed day)).of_queue queue
  | recordAction action day minuteOfDay bondLevel =>
    rcases recordAction_queue state action day minuteOfDay bondLevel with
      same | steps
    · exact ringed.of_queue (congrArg State.queue same)
    · exact steps.ringed (moveToDay_ringed ringed day)
  | rememberEvent => exact (rememberEvent_tends ..).ringed ringed
  | rememberDream => exact (rememberDream_tends ..).ringed ringed
  | rememberExpedition => exact (rememberExpedition_tends ..).ringed ringed
  | rememberFriend => exact (rememberFriend_tends ..).ringed ringed
  | takeCallback day =>
    rcases takeCallback_cases state day with same | ⟨some, taken⟩
    · exact ringed.of_queue (congrArg (fun answer => answer.1.queue) same)
    · have dropped := (ringed.dropOldest some).unlock AchievementFirstCallback
        LoreFirstMemory
      rw [← taken] at dropped
      exact dropped
  | answerRequest accept => exact ringed.of_queue (answerRequest_aside state accept).2
  | answerQuestion choice => exact ringed.of_queue (answerQuestion_aside state choice).2
  | observeBond bondLevel day =>
    exact (@Tends.start day state).observeBond bondLevel |>.ringed ringed
  | setNickname nickname => exact ringed.of_queue (setNickname_aside state nickname).2
  | writeSnapshot => exact ringed
  | restoreSnapshot source fingerprint =>
    rcases restoreSnapshot_cases state source fingerprint with
      ⟨restored, valid, accepted⟩ | rejected
    · exact (ringed_of_valid valid).of_queue
        (congrArg (fun answer => answer.1.queue) accepted)
    · exact ringed.of_queue (congrArg (fun answer => answer.1.queue) rejected)

theorem Ringed.initially : Ringed {} :=
  ⟨Nat.zero_lt_succ _, Nat.zero_le _⟩

theorem after_ringed (history : List Operation) : Ringed (after history) :=
  Run.exec_invariant Ringed.initially act_ringed history

end Histories

end Kitsu.Progression

/-!
# Callbacks that become readable

In every history the callbacks that are due are all returned exactly when those
retained stand in the order of their due days.  A history keeps that order as long as
no call queues a callback that is due before one still retained.
-/

namespace Kitsu.Progression

open Kitsu.Lib

variable {due : UInt32} {start state : State}

/-- In order, and due on this day at the latest. -/
def DueBy (day : UInt32) (records : List CallbackRecord) : Prop :=
  InOrder records ∧ ∀ record ∈ records, record.dueDay ≤ day

theorem DueBy.later {day later : UInt32} {records : List CallbackRecord}
    (dueBy : DueBy day records) (order : day ≤ later) : DueBy later records :=
  ⟨dueBy.1, fun record member => UInt32.le_trans (dueBy.2 record member) order⟩

/-- Callbacks due on the day go behind those due until then. -/
theorem Tends.dueBy (steps : Tends due start state)
    (dueBy : DueBy due (retained start)) : DueBy due (retained state) := by
  rcases steps.queued with ⟨fresh, equal, dated⟩
  rcases dueBy with ⟨order, bounded⟩
  rw [equal]
  constructor
  · apply List.pairwise_append.mpr
    refine ⟨order, ?_, ?_⟩
    · apply List.pairwise_of_forall_mem_list
      intro first member second other
      rw [(dated first member).1, (dated second other).1]
      exact UInt32.le_refl due
    · intro old member record new
      rw [(dated record new).1]
      exact bounded old member
  · intro record member
    rcases List.mem_append.mp member with old | new
    · exact bounded record old
    · rw [(dated record new).1]
      exact UInt32.le_refl due

/-- The first day on which a callback queued by moving to a day can be due. -/
def firstDue (state : State) (day : UInt32) : UInt32 :=
  if state.activeDays ≠ 0 ∧ state.currentDay < day then
    addDaysSaturated state.currentDay 1
  else day

theorem moveToDay_dueBy {day : UInt32}
    (dueBy : DueBy (firstDue state day) (retained state)) :
    DueBy day (retained (moveToDay state day).state) := by
  rcases moveToDay_queue state day with ⟨settled, steps, queue, reason⟩
  rw [retained_of_queue queue]
  unfold firstDue at dueBy
  split at dueBy
  next turning =>
    exact (steps.dueBy dueBy).later (addDaysSaturated_one_le turning.2)
  next staying =>
    rcases reason with rfl | turning
    · exact dueBy
    · exact absurd turning staying

/-- A call whose callbacks are due no earlier than those still retained. -/
def InTurn (state : State) : Operation → Prop
  | .startSession day _ _ _ _ =>
    ∀ record ∈ retained state, record.dueDay ≤ firstDue state day
  | .recordAction _ day _ _ =>
    ∀ record ∈ retained state, record.dueDay ≤ firstDue state day
  | .rememberEvent _ day delayDays =>
    ∀ record ∈ retained state, record.dueDay ≤ addDaysSaturated day delayDays
  | .rememberDream _ day =>
    ∀ record ∈ retained state, record.dueDay ≤ addDaysSaturated day 1
  | .rememberExpedition _ day =>
    ∀ record ∈ retained state, record.dueDay ≤ addDaysSaturated day 1
  | .rememberFriend _ day =>
    ∀ record ∈ retained state, record.dueDay ≤ addDaysSaturated day 1
  | .observeBond _ day => ∀ record ∈ retained state, record.dueDay ≤ day
  | .restoreSnapshot source fingerprint =>
    InOrder (retained (restoreSnapshot state source fingerprint).1)
  | _ => True

/-- The ring is sound and the callbacks are in order. -/
def Orderly (state : State) : Prop :=
  Ringed state ∧ InOrder (retained state)

/-- An operation in its turn keeps the callbacks in order. -/
theorem act_inOrder (state : State) (operation : Operation)
    (kept : Orderly state) (turn : InTurn state operation) :
    Orderly (act state operation) := by
  rcases kept with ⟨ringed, order⟩
  refine ⟨act_ringed state operation ringed, ?_⟩
  have same {next : State} (queue : next.queue = state.queue) :
      InOrder (retained next) := by
    rw [retained_of_queue queue]
    exact order
  cases operation with
  | initializeProgression => exact List.Pairwise.nil
  | startSession day minuteOfDay bondLevel vitals season =>
    rcases startSession_queue state day minuteOfDay bondLevel vitals season with
      rejected | ⟨bonded, steps, queue⟩
    · exact same (congrArg State.queue rejected)
    · have settled := steps.dueBy (moveToDay_dueBy ⟨order, turn⟩)
      rw [← retained_of_queue queue] at settled
      exact settled.1
  | recordAction action day minuteOfDay bondLevel =>
    rcases recordAction_queue state action day minuteOfDay bondLevel with
      rejected | steps
    · exact same (congrArg State.queue rejected)
    · exact (steps.dueBy (moveToDay_dueBy ⟨order, turn⟩)).1
  | rememberEvent eventId day delayDays =>
    exact ((rememberEvent_tends ..).dueBy ⟨order, turn⟩).1
  | rememberDream dreamId day =>
    exact ((rememberDream_tends ..).dueBy ⟨order, turn⟩).1
  | rememberExpedition outcomeId day =>
    exact ((rememberExpedition_tends ..).dueBy ⟨order, turn⟩).1
  | rememberFriend friendDetail day =>
    exact ((rememberFriend_tends ..).dueBy ⟨order, turn⟩).1
  | takeCallback day =>
    rcases takeCallback_cases state day with idle | ⟨some, taken⟩
    · exact same (congrArg (fun answer => answer.1.queue) idle)
    · rw [retained_dropOldest ringed some] at order
      have dropped : InOrder (retained
          (unlock (dropOldest state) AchievementFirstCallback LoreFirstMemory)) :=
        order.of_cons
      rw [← taken] at dropped
      exact dropped
  | answerRequest accept => exact same (answerRequest_aside state accept).2
  | answerQuestion choice => exact same (answerQuestion_aside state choice).2
  | observeBond bondLevel day =>
    exact ((Tends.start.observeBond bondLevel).dueBy ⟨order, turn⟩).1
  | setNickname nickname => exact same (setNickname_aside state nickname).2
  | writeSnapshot => exact order
  | restoreSnapshot source fingerprint => exact turn

/--
After every history each due callback is returned by repeated calls exactly when the
callbacks retained are in the order of their due days; and after a history of calls
in their turn they are.
-/
theorem due_callbacks_taken (history : List Operation) :
    (DueAreTaken (after history) ↔ InOrder (retained (after history))) ∧
      (Run.Throughout act {} InTurn history → DueAreTaken (after history)) := by
  have exactly := dueAreTaken_iff (after_ringed history)
  refine ⟨exactly, ?_⟩
  intro turns
  have initially : Orderly {} := ⟨Ringed.initially, List.Pairwise.nil⟩
  have kept := Run.exec_throughout initially act_inOrder turns
  exact exactly.mpr kept.2

/-- A dream waits for the next day and hides the bond that was reached today. -/
def dreamBeforeBond : List Operation :=
  [.rememberDream 1 5, .observeBond 1 5]

theorem dream_hides_bond : ¬ DueAreTaken (after dreamBeforeBond) := by
  rw [dueAreTaken_iff (after_ringed dreamBeforeBond)]
  intro order
  exact absurd (List.rel_of_pairwise_cons order (List.mem_singleton.mpr rfl))
    (by decide)

end Kitsu.Progression
