import Kitsu.Lib.Run
import Kitsu.Lib.Saturating

/-!
# The schedule of storage writes

`StorageRetrySchedule` of `kitsu_storage_retry.cpp` says when dirty data is written.  One
due time serves the debounce of new data and the back-off after a failed write; a latch
holds writes back while there is no space.  The clock is a 32-bit millisecond counter.
The calls here carry the true time, of which the schedule sees the low 32 bits.
-/

namespace Kitsu.Storage

open Kitsu.Lib.Run
open Kitsu.Lib.WrapClock

/-- The delays after failures in a row. -/
def kStorageRetryDelaysMs : List UInt32 :=
  [5000, 30000, 2 * 60 * 1000, 10 * 60 * 1000, 30 * 60 * 1000]

/-- How many delays there are; the last one stays. -/
def kStorageRetryDelayCount : Nat :=
  kStorageRetryDelaysMs.length

/-- Why a write failed. -/
inductive StorageRetryFailure where
  | transient
  | noSpace
deriving DecidableEq, Repr

/-- When the next write is due. -/
structure StorageRetrySchedule where
  dirty : Bool := false
  blockedNoSpace : Bool := false
  failureCount : Nat := 0
  dueAt : UInt32 := 0
  lastAttemptAt : UInt32 := 0
deriving DecidableEq, Repr

namespace StorageRetrySchedule

/-- There is something to write; a write that failed before keeps its delay. -/
def markDirty (schedule : StorageRetrySchedule) (now initialDelayMs : UInt32) :
    StorageRetrySchedule :=
  if !schedule.dirty then
    { schedule with dirty := true, dueAt := now + initialDelayMs }
  else if schedule.blockedNoSpace || schedule.failureCount ≠ 0 then schedule
  else if deadlineReached now schedule.dueAt || initialDelayMs < schedule.dueAt - now then
    { schedule with dueAt := now + initialDelayMs }
  else schedule

/-- A write is to be tried now. -/
def attemptDue (schedule : StorageRetrySchedule) (now : UInt32) : Bool :=
  schedule.dirty && !schedule.blockedNoSpace && deadlineReached now schedule.dueAt

/-- A write is tried now. -/
def recordAttempt (schedule : StorageRetrySchedule) (now : UInt32) :
    StorageRetrySchedule :=
  { schedule with lastAttemptAt := now }

/-- The back-off of so many failures in a row. -/
def retryDelay (failureCount : Nat) : UInt32 :=
  kStorageRetryDelaysMs.getD (if failureCount = 0 then 0 else failureCount - 1) 0

/-- One more failure is counted, up to the number of delays. -/
def countFailure (failureCount : Nat) : Nat :=
  if failureCount < kStorageRetryDelayCount then failureCount + 1 else failureCount

/-- A write failed: wait longer, or until there is room. -/
def recordFailure (schedule : StorageRetrySchedule) (now : UInt32) :
    StorageRetryFailure → StorageRetrySchedule
  | .noSpace => { schedule with dirty := true, blockedNoSpace := true, dueAt := 0 }
  | .transient =>
    { schedule with
      dirty := true
      failureCount := countFailure schedule.failureCount
      dueAt := now + retryDelay (countFailure schedule.failureCount) }

/-- There is room again for a write that was blocked. -/
def rearmAfterHeadroom (schedule : StorageRetrySchedule) (now initialDelayMs : UInt32) :
    StorageRetrySchedule :=
  if !schedule.dirty || !schedule.blockedNoSpace then schedule
  else
    { schedule with
      blockedNoSpace := false
      failureCount := 0
      dueAt := now + initialDelayMs }

end StorageRetrySchedule

/-- The calls of the schedule. -/
inductive Operation where
  | reset
  | markDirty (initialDelayMs : UInt32)
  | recordAttempt
  | recordSuccess
  | recordFailure (failure : StorageRetryFailure)
  | rearmAfterHeadroom (initialDelayMs : UInt32)
deriving DecidableEq, Repr

/-- A call at a time that does not wrap. -/
structure Call where
  time : Nat
  operation : Operation
deriving DecidableEq, Repr

/-- The counter as it stands at the time of a call. -/
def Call.now (call : Call) : UInt32 :=
  UInt32.ofNat call.time

/-- A call by its name, at the time modulo its wrap. -/
def apply (schedule : StorageRetrySchedule) (call : Call) : StorageRetrySchedule :=
  match call.operation with
  | .reset => {}
  | .markDirty initialDelayMs => schedule.markDirty call.now initialDelayMs
  | .recordAttempt => schedule.recordAttempt call.now
  | .recordSuccess => {}
  | .recordFailure failure => schedule.recordFailure call.now failure
  | .rearmAfterHeadroom initialDelayMs =>
    schedule.rearmAfterHeadroom call.now initialDelayMs

/-- The schedule after a history of calls. -/
def after (calls : List Call) : StorageRetrySchedule :=
  exec apply {} calls

/-! ## What is asked of the schedule -/

/-- No write has succeeded and nothing was reset. -/
def Operation.Pending : Operation → Prop
  | .reset | .recordSuccess => False
  | _ => True

/-- The outcome of a write is not known either. -/
def Operation.Untouched : Operation → Prop
  | .reset | .recordSuccess | .recordFailure _ => False
  | _ => True

/-- Data that was marked dirty comes due and stays due, whatever is marked later. -/
def ComesDue (calls : List Call) : Prop :=
  ∀ past time delay later, calls = past ++ ⟨time, .markDirty delay⟩ :: later →
    (after past).failureCount = 0 → (after past).blockedNoSpace = false →
    (∀ call ∈ later, call.operation.Untouched) →
    ∀ now, (∀ call ∈ later, call.time ≤ now) →
      time + delay.toNat ≤ now → now < time + 2147483648 →
      (after calls).attemptDue (UInt32.ofNat now) = true

/-- How long the failure of a write at this time holds back the next one. -/
def backOff (past : List Call) (time : Nat) : UInt32 :=
  (after (past ++ [⟨time, .recordFailure .transient⟩])).dueAt - UInt32.ofNat time

/-- Nothing is due while the latch is set or a failure is backed off from. -/
def HoldsBack (calls : List Call) : Prop :=
  ((after calls).blockedNoSpace = true →
    ∀ now, (after calls).attemptDue now = false) ∧
  ∀ past time later, calls = past ++ ⟨time, .recordFailure .transient⟩ :: later →
    (∀ call ∈ later, call.operation.Pending) →
    ∀ now, (∀ call ∈ later, call.time ≤ now) →
      time ≤ now → now < time + (backOff past time).toNat →
      (after calls).attemptDue (UInt32.ofNat now) = false

/-- A later failure backs off no shorter than the ones before it. -/
def Lengthens (calls : List Call) : Prop :=
  ∀ past first between second later,
    calls = past ++ ⟨first, .recordFailure .transient⟩ ::
      (between ++ ⟨second, .recordFailure .transient⟩ :: later) →
    (∀ call ∈ between, call.operation.Pending) →
    backOff past first ≤
      backOff (past ++ ⟨first, .recordFailure .transient⟩ :: between) second

/--
New data does not push back a write that is due, and the latch is not lifted from a
schedule with failures, which would forget them.
-/
def Fits (schedule : StorageRetrySchedule) (call : Call) : Prop :=
  match call.operation with
  | .markDirty delay =>
    schedule.attemptDue call.now = true → schedule.failureCount = 0 → delay = 0
  | .rearmAfterHeadroom _ =>
    schedule.blockedNoSpace = true → schedule.failureCount = 0
  | _ => True

variable {past : List Call}

section Schedule

open StorageRetrySchedule

variable {schedule : StorageRetrySchedule} {call : Call} {calls later : List Call}
  {start first last now time count : Nat} {delay deadline : UInt32}

/-! ## Times -/

theorem reached_ofNat (ahead : time + delay.toNat ≤ now)
    (near : now < time + 2147483648) :
    deadlineReached (UInt32.ofNat now) (UInt32.ofNat time + delay) = true := by
  simp only [deadlineReached, decide_eq_true_eq, UInt32.toNat_sub, UInt32.toNat_add,
    UInt32.toNat_ofNat']
  omega

theorem unreached_ofNat (short : delay.toNat ≤ 2147483648) (order : time ≤ now)
    (early : now < time + delay.toNat) :
    deadlineReached (UInt32.ofNat now) (UInt32.ofNat time + delay) = false := by
  simp only [deadlineReached, decide_eq_false_iff_not, UInt32.toNat_sub,
    UInt32.toNat_add, UInt32.toNat_ofNat']
  omega

/-- A deadline is reached when the distance to it has passed. -/
theorem reached_of_ahead
    (passed : time + (deadline - UInt32.ofNat time).toNat ≤ now)
    (near : now < time + 2147483648) :
    deadlineReached (UInt32.ofNat now) deadline = true := by
  have bound := deadline.toNat_lt
  simp only [deadlineReached, decide_eq_true_eq, UInt32.toNat_sub,
    UInt32.toNat_ofNat'] at passed ⊢
  omega

/-- Where a later deadline is reached, one brought forward is. -/
theorem reached_forward
    (unreached : deadlineReached (UInt32.ofNat time) deadline = false)
    (sooner : delay < deadline - UInt32.ofNat time)
    (reached : deadlineReached (UInt32.ofNat now) deadline = true)
    (order : time ≤ now) (near : now < time + 2147483648) :
    deadlineReached (UInt32.ofNat now) (UInt32.ofNat time + delay) = true := by
  have bound := deadline.toNat_lt
  simp only [deadlineReached, decide_eq_false_iff_not, decide_eq_true_eq,
    UInt32.lt_iff_toNat_lt, UInt32.toNat_sub, UInt32.toNat_add,
    UInt32.toNat_ofNat'] at unreached sooner reached ⊢
  omega

/-! ## Data that was marked dirty -/

/-- The write is due from `first` on, as far as `last` is not later. -/
structure Promised (start first last : Nat) (schedule : StorageRetrySchedule) :
    Prop where
  dirty : schedule.dirty = true
  unblocked : schedule.blockedNoSpace = false
  clean : schedule.failureCount = 0
  due : ∀ now, last ≤ now → first ≤ now → now < start + 2147483648 →
    deadlineReached (UInt32.ofNat now) schedule.dueAt = true

theorem markDirty_untouched (clean : schedule.failureCount = 0)
    (unblocked : schedule.blockedNoSpace = false) (now : UInt32) :
    schedule.markDirty now delay =
      { schedule with
        dirty := true
        dueAt :=
          if schedule.dirty = true ∧ deadlineReached now schedule.dueAt = false ∧
              schedule.dueAt - now ≤ delay then schedule.dueAt
          else now + delay } := by
  obtain ⟨dirty, blocked, failures, dueAt, attempt⟩ := schedule
  subst clean unblocked
  cases dirty
  · simp [markDirty]
  · cases reached : deadlineReached now dueAt
    · by_cases sooner : delay < dueAt - now
      · simp [markDirty, reached, sooner, UInt32.not_le.mpr sooner]
      · simp [markDirty, reached, sooner, UInt32.not_lt.mp sooner]
    · simp [markDirty, reached]

/-- The write of data that is marked dirty becomes due. -/
theorem promised_markDirty (clean : schedule.failureCount = 0)
    (unblocked : schedule.blockedNoSpace = false) :
    Promised time (time + delay.toNat) time
      (schedule.markDirty (UInt32.ofNat time) delay) := by
  rw [markDirty_untouched clean unblocked]
  refine ⟨rfl, unblocked, clean, ?_⟩
  intro now order passed near
  simp only
  split
  · rename_i kept
    have sooner := UInt32.le_iff_toNat_le.mp kept.2.2
    exact reached_of_ahead (by omega) near
  · exact reached_ofNat passed near

section

variable (promised : Promised start first last schedule)

include promised

theorem Promised.mono (order : last ≤ time) : Promised start first time schedule :=
  { promised with
    due := fun now later => promised.due now (Nat.le_trans order later) }

/-- New data that fits keeps a promise. -/
theorem Promised.markDirty (begun : start ≤ last) (order : last ≤ call.time)
    (fits : schedule.attemptDue call.now = true → schedule.failureCount = 0 → delay = 0) :
    Promised start first call.time (schedule.markDirty call.now delay) := by
  rw [markDirty_untouched promised.clean promised.unblocked]
  refine ⟨rfl, promised.unblocked, promised.clean, ?_⟩
  intro now after passed near
  have reached := promised.due now (Nat.le_trans order after) passed near
  split
  · exact reached
  · rename_i moved
    cases due : deadlineReached call.now schedule.dueAt
    · have sooner : delay < schedule.dueAt - call.now := by
        apply UInt32.not_le.mp
        intro later
        exact moved ⟨promised.dirty, due, later⟩
      exact reached_forward due sooner reached after (by omega)
    · have zero : delay = 0 := by
        apply fits _ promised.clean
        simp [attemptDue, promised.dirty, promised.unblocked, due]
      rw [zero]
      exact reached_ofNat after (by omega)

theorem Promised.step
    (begun : start ≤ last) (order : last ≤ call.time) (fits : Fits schedule call)
    (untouched : call.operation.Untouched) :
    Promised start first call.time (apply schedule call) := by
  have kept := promised.mono order
  obtain ⟨time, operation⟩ := call
  cases operation with
  | reset => exact untouched.elim
  | markDirty delay => exact promised.markDirty begun order fits
  | recordAttempt => exact ⟨kept.dirty, kept.unblocked, kept.clean, kept.due⟩
  | recordSuccess => exact untouched.elim
  | recordFailure failure => exact untouched.elim
  | rearmAfterHeadroom delay =>
    simpa [apply, rearmAfterHeadroom, promised.unblocked] using kept

theorem Promised.exec
    (begun : start ≤ last) (ordered : (last :: later.map Call.time).Pairwise (· ≤ ·))
    (fits : Throughout apply schedule Fits later)
    (untouched : ∀ call ∈ later, call.operation.Untouched)
    (past : ∀ call ∈ later, call.time ≤ now) (present : last ≤ now) (passed : first ≤ now)
    (near : now < start + 2147483648) :
    (exec apply schedule later).attemptDue (UInt32.ofNat now) = true := by
  induction later generalizing schedule last with
  | nil =>
    simp [attemptDue, promised.dirty, promised.unblocked,
      promised.due now present passed near]
  | cons call later induction =>
    rw [List.map_cons, List.pairwise_cons] at ordered
    rw [throughout_cons] at fits
    have order := ordered.1 call.time List.mem_cons_self
    exact induction
      (promised.step begun order fits.1 (untouched call List.mem_cons_self))
      (Nat.le_trans begun order) ordered.2 fits.2
      (fun other member => untouched other (List.mem_cons_of_mem _ member))
      (fun other member => past other (List.mem_cons_of_mem _ member))
      (past call List.mem_cons_self)

end

/-! ## Failures -/

theorem retryDelay_mono : ∀ few ≤ kStorageRetryDelayCount,
    ∀ many ≤ kStorageRetryDelayCount, 0 < few → few ≤ many →
      retryDelay few ≤ retryDelay many := by
  decide

theorem retryDelay_short : ∀ count ≤ kStorageRetryDelayCount,
    (retryDelay count).toNat ≤ 2147483648 := by
  decide

theorem countFailure_bounds (bounded : count ≤ kStorageRetryDelayCount) :
    0 < countFailure count ∧ count ≤ countFailure count ∧
      countFailure count ≤ kStorageRetryDelayCount := by
  unfold countFailure
  have positive : 0 < kStorageRetryDelayCount := by decide
  split
  · omega
  · omega

theorem backOff_eq (past : List Call) (time : Nat) :
    backOff past time = retryDelay (countFailure (after past).failureCount) := by
  simp only [backOff, after, exec_concat, apply, recordFailure, Call.now]
  rw [UInt32.add_comm, UInt32.add_sub_cancel]

theorem apply_bounded (bounded : schedule.failureCount ≤ kStorageRetryDelayCount)
    (call : Call) : (apply schedule call).failureCount ≤ kStorageRetryDelayCount := by
  obtain ⟨time, operation⟩ := call
  cases operation with
  | reset => exact Nat.zero_le _
  | markDirty delay =>
    simp only [apply, markDirty]
    split
    · exact bounded
    split
    · exact bounded
    split
    · exact bounded
    · exact bounded
  | recordAttempt => exact bounded
  | recordSuccess => exact Nat.zero_le _
  | recordFailure failure =>
    cases failure with
    | transient => exact (countFailure_bounds bounded).2.2
    | noSpace => exact bounded
  | rearmAfterHeadroom delay =>
    simp only [apply, rearmAfterHeadroom]
    split
    · exact bounded
    · exact Nat.zero_le _

theorem after_bounded (calls : List Call) :
    (after calls).failureCount ≤ kStorageRetryDelayCount :=
  @exec_invariant _ _ apply {}
    (fun schedule => schedule.failureCount ≤ kStorageRetryDelayCount)
    (Nat.zero_le _) (fun _ call bounded => apply_bounded bounded call) calls

/-- A failure with this back-off was not followed by a success. -/
structure Failing (start : Nat) (delay : UInt32) (last : Nat)
    (schedule : StorageRetrySchedule) : Prop where
  dirty : schedule.dirty = true
  counted : 0 < schedule.failureCount
  bounded : schedule.failureCount ≤ kStorageRetryDelayCount
  long : delay ≤ retryDelay schedule.failureCount
  held : schedule.blockedNoSpace = true ∨
    ∀ now, last ≤ now → now < start + delay.toNat →
      deadlineReached (UInt32.ofNat now) schedule.dueAt = false

theorem Failing.mono (failing : Failing start delay last schedule)
    (order : last ≤ time) : Failing start delay time schedule :=
  { failing with
    held := failing.held.imp_right fun quiet now later =>
      quiet now (Nat.le_trans order later) }

/-- A transient failure backs off at least as long as it would have before. -/
theorem failing_recordFailure (bounded : schedule.failureCount ≤ kStorageRetryDelayCount)
    (long : delay ≤ retryDelay (countFailure schedule.failureCount))
    (order : start ≤ time) :
    Failing start delay time
      (schedule.recordFailure (UInt32.ofNat time) .transient) := by
  have counts := countFailure_bounds bounded
  refine ⟨rfl, counts.1, counts.2.2, long, .inr ?_⟩
  intro now later early
  have lengths := UInt32.le_iff_toNat_le.mp long
  exact unreached_ofNat (retryDelay_short _ counts.2.2) later (by omega)

theorem Failing.step (failing : Failing start delay last schedule)
    (begun : start ≤ last) (order : last ≤ call.time) (fits : Fits schedule call)
    (pending : call.operation.Pending) :
    Failing start delay call.time (apply schedule call) := by
  have kept := failing.mono order
  have counted : schedule.failureCount ≠ 0 := Nat.ne_of_gt failing.counted
  obtain ⟨time, operation⟩ := call
  cases operation with
  | reset => exact pending.elim
  | markDirty delay => simpa [apply, markDirty, failing.dirty, counted] using kept
  | recordAttempt => exact ⟨kept.dirty, kept.counted, kept.bounded, kept.long, kept.held⟩
  | recordSuccess => exact pending.elim
  | recordFailure failure =>
    cases failure with
    | transient =>
      have counts := countFailure_bounds failing.bounded
      apply failing_recordFailure failing.bounded _ (Nat.le_trans begun order)
      exact UInt32.le_trans failing.long
        (retryDelay_mono _ failing.bounded _ counts.2.2 failing.counted counts.2.1)
    | noSpace => exact ⟨rfl, kept.counted, kept.bounded, kept.long, .inl rfl⟩
  | rearmAfterHeadroom delay =>
    have unblocked : schedule.blockedNoSpace = false := by
      by_contra blocked
      exact counted (fits (by simpa using blocked))
    simpa [apply, rearmAfterHeadroom, unblocked] using kept

theorem Failing.exec (failing : Failing start delay last schedule)
    (begun : start ≤ last) (ordered : (last :: later.map Call.time).Pairwise (· ≤ ·))
    (fits : Throughout apply schedule Fits later)
    (pending : ∀ call ∈ later, call.operation.Pending)
    (past : ∀ call ∈ later, call.time ≤ now) (present : last ≤ now) :
    Failing start delay now (exec apply schedule later) := by
  induction later generalizing schedule last with
  | nil => exact failing.mono present
  | cons call later induction =>
    rw [List.map_cons, List.pairwise_cons] at ordered
    rw [throughout_cons] at fits
    have order := ordered.1 call.time List.mem_cons_self
    exact induction
      (failing.step begun order fits.1 (pending call List.mem_cons_self))
      (Nat.le_trans begun order) ordered.2 fits.2
      (fun other member => pending other (List.mem_cons_of_mem _ member))
      (fun other member => past other (List.mem_cons_of_mem _ member))
      (past call List.mem_cons_self)

theorem Failing.quiet (failing : Failing start delay now schedule)
    (early : now < start + delay.toNat) :
    schedule.attemptDue (UInt32.ofNat now) = false := by
  rcases failing.held with blocked | quiet
  · simp [attemptDue, blocked]
  · simp [attemptDue, quiet now (Nat.le_refl now) early]

/-! ## Runs -/

/-- What comes after a call of an ordered run. -/
theorem ordered_later
    (ordered : ((past ++ call :: later).map Call.time).Pairwise (· ≤ ·)) :
    (call.time :: later.map Call.time).Pairwise (· ≤ ·) := by
  rw [List.map_append, List.map_cons] at ordered
  exact (List.pairwise_append.mp ordered).2.1

theorem fits_later (fits : Throughout apply {} Fits (past ++ call :: later)) :
    Fits (after past) call ∧ Throughout apply (apply (after past) call) Fits later := by
  constructor
  · exact fits past call later rfl
  · intro earlier other rest equal
    have allowed := fits (past ++ call :: earlier) other rest (by simp [equal])
    rwa [exec_append, exec_cons] at allowed

theorem after_split (past : List Call) (call : Call) (later : List Call) :
    after (past ++ call :: later) = exec apply (apply (after past) call) later := by
  rw [after, exec_append, exec_cons, after]

/-- A failure that was not followed by a success holds back what comes later. -/
theorem failing_after
    (ordered : ((past ++ ⟨time, .recordFailure .transient⟩ :: later).map
      Call.time).Pairwise (· ≤ ·))
    (fits : Throughout apply {} Fits (past ++ ⟨time, .recordFailure .transient⟩ :: later))
    (pending : ∀ call ∈ later, call.operation.Pending)
    (passed : ∀ call ∈ later, call.time ≤ now) (present : time ≤ now) :
    Failing time (backOff past time) now
      (after (past ++ ⟨time, .recordFailure .transient⟩ :: later)) := by
  have failing : Failing time (backOff past time) time
      (apply (after past) ⟨time, .recordFailure .transient⟩) := by
    apply failing_recordFailure (after_bounded past) _ (Nat.le_refl time)
    rw [backOff_eq]
    exact UInt32.le_refl _
  rw [after_split]
  exact failing.exec (Nat.le_refl time) (ordered_later ordered) (fits_later fits).2
    pending passed present

theorem comesDue (ordered : (calls.map Call.time).Pairwise (· ≤ ·))
    (fits : Throughout apply {} Fits calls) : ComesDue calls := by
  rintro past time delay later rfl clean unblocked untouched now passed due near
  rw [after_split]
  exact (promised_markDirty clean unblocked).exec (Nat.le_refl time)
    (ordered_later ordered) (fits_later fits).2 untouched passed
    (Nat.le_trans (Nat.le_add_right _ _) due) due near

theorem holdsBack (ordered : (calls.map Call.time).Pairwise (· ≤ ·))
    (fits : Throughout apply {} Fits calls) : HoldsBack calls := by
  constructor
  · intro blocked now
    simp [attemptDue, blocked]
  · rintro past time later rfl pending now passed present early
    exact (failing_after ordered fits pending passed present).quiet early

theorem lengthens (ordered : (calls.map Call.time).Pairwise (· ≤ ·))
    (fits : Throughout apply {} Fits calls) : Lengthens calls := by
  rintro past first between second later rfl pending
  rw [← List.cons_append, ← List.append_assoc] at ordered fits
  rw [List.map_append, List.pairwise_append] at ordered
  have before : ∀ call ∈ past ++ ⟨first, .recordFailure .transient⟩ :: between,
      call.time ≤ second := by
    intro call member
    exact ordered.2.2 _ (List.mem_map_of_mem member) _ List.mem_cons_self
  have failing := failing_after ordered.1 fits.earlier pending
    (fun call member =>
      before call (List.mem_append_right _ (List.mem_cons_of_mem _ member)))
    (before _ (List.mem_append_right _ List.mem_cons_self))
  have counts := countFailure_bounds failing.bounded
  rw [backOff_eq _ second]
  exact UInt32.le_trans failing.long
    (retryDelay_mono _ failing.bounded _ counts.2.2 failing.counted counts.2.1)

end Schedule

/--
On a clock that does not go back, and with calls that fit: dirty data comes due, a
failure holds writes back, and failures in a row never back off for less.
-/
theorem schedule_kept (calls : List Call)
    (ordered : (calls.map Call.time).Pairwise (· ≤ ·))
    (fits : Throughout apply {} Fits calls) :
    ComesDue calls ∧ HoldsBack calls ∧ Lengthens calls :=
  ⟨comesDue ordered fits, holdsBack ordered fits, lengthens ordered fits⟩

/-- Data is marked twice, and two writes fail. -/
def failingWrites : List Call :=
  [⟨100, .markDirty 5000⟩, ⟨200, .markDirty 0⟩, ⟨200, .recordFailure .transient⟩,
    ⟨300, .markDirty 0⟩, ⟨5200, .recordFailure .transient⟩]

theorem failingWrites_kept :
    ComesDue failingWrites ∧ HoldsBack failingWrites ∧ Lengthens failingWrites := by
  apply schedule_kept
  · decide
  · refine .cons ?_ (.cons ?_ (.cons trivial (.cons ?_ (.cons trivial .nil))))
    · intro due
      cases due
    · intro _ _
      rfl
    · intro _ _
      rfl

/-- New data whenever a write is due, and a latch that is lifted after failures. -/
theorem marked_again_and_again :
    ¬ ComesDue [⟨0, .markDirty 1000⟩, ⟨1000, .markDirty 1000⟩] ∧
      ¬ Lengthens [⟨0, .recordFailure .transient⟩, ⟨5000, .recordFailure .transient⟩,
        ⟨35000, .recordFailure .noSpace⟩, ⟨40000, .rearmAfterHeadroom 0⟩,
        ⟨40000, .recordFailure .transient⟩] := by
  constructor
  · intro due
    have attempt := due [] 0 1000 [⟨1000, .markDirty 1000⟩] rfl rfl rfl
      (by simp [Operation.Untouched]) 1000 (by simp) (by decide) (by decide)
    exact absurd attempt (by decide)
  · intro longer
    have shorter := longer [⟨0, .recordFailure .transient⟩] 5000
      [⟨35000, .recordFailure .noSpace⟩, ⟨40000, .rearmAfterHeadroom 0⟩] 40000 [] rfl
      (by simp [Operation.Pending])
    exact absurd shorter (by decide)

end Kitsu.Storage
