import Kitsu.Lib.Run
import Kitsu.Lib.Saturating
import Kitsu.Mesh.RepeatTracker

/-!
# The lifecycle of a repeat window

A ledger beside the tracker keeps every send with all that was heard of it, on a
clock that does not wrap, and without a bound on its length.  The table shows the
windows that are open; the final results that were taken, and those that wait in
the table, are the reports of the windows that ended, each of them once.
-/

namespace Kitsu.Mesh.Repeat

open Kitsu.Lib.ByteString
open Kitsu.Lib.Cells
open Kitsu.Lib.Run
open Kitsu.Lib.WrapClock

/-! ## The ledger -/

/-- A send with the last hops of the copies that were heard of it. -/
structure Send where
  sent : Sent
  sentAt : Nat
  heard : List Bytes := []

/-- The distinct tokens, the first one first. -/
def Send.sources (send : Send) : List Bytes :=
  (send.heard.filter fun token => 0 < token.length &&
    token.length ≤ kChannelRepeatSourceTokenBytes).eraseDups

/-- The final result of a window. -/
def Send.report (send : Send) : ChannelRepeatObservation where
  channelSlot := send.sent.channelSlot
  messageTimestamp := send.sent.messageTimestamp
  repeatCount := min 255 send.heard.length
  observationOpen := false
  sources := send.sources.take kChannelRepeatSourceCapacity
  sourcesTruncated := kChannelRepeatSourceCapacity < send.sources.length

def Send.hear (send : Send) (token : Bytes) : Send :=
  { send with heard := send.heard ++ [token] }

/-- The packet is a copy of the send. -/
def Send.hears (send : Send) (heard : Heard) : Bool :=
  send.sent.hash = heard.hash &&
    sameFloodRouteBinding send.sent.route heard.route &&
    send.sent.digest = heard.digest

/-- The same packet is sent again. -/
def Send.isSend (send : Send) (sent : Sent) : Bool :=
  send.sent.hash = sent.hash && send.sent.digest = sent.digest &&
    sameFloodRouteBinding send.sent.route sent.route

/-- Two minutes after it a send is over. -/
def Send.expired (uptime : Nat) (send : Send) : Bool :=
  send.sentAt + 120000 ≤ uptime

/-- The sends that are open, and those that ended. -/
structure Ledger where
  uptime : Nat := 0
  opens : List Send := []
  ended : List Send := []

/-- The sends whose time is over end. -/
def Ledger.expire (uptime : Nat) (ledger : Ledger) : Ledger where
  uptime
  opens := ledger.opens.filter fun send => !send.expired uptime
  ended := ledger.ended ++ ledger.opens.filter (Send.expired uptime)

/-- All sends end. -/
def Ledger.closeAll (ledger : Ledger) : Ledger :=
  { ledger with opens := [], ended := ledger.ended ++ ledger.opens }

/-- An accepted send opens a window, and takes the place of an open one with its
identity unless it is the same packet again. -/
def Ledger.record (sent : Sent) (ledger : Ledger) : Ledger :=
  if ledger.opens.any fun send =>
      send.sent.identity = sent.identity && send.isSend sent then ledger
  else
    { ledger with
      opens := { sent, sentAt := ledger.uptime } ::
        ledger.opens.filter fun send => send.sent.identity ≠ sent.identity }

/-- A copy of a send was heard from a repeater. -/
def Ledger.hear (identity : UInt8 × UInt32) (token : Bytes)
    (ledger : Ledger) : Ledger :=
  { ledger with
    opens := ledger.opens.map fun send =>
      if send.sent.identity = identity then send.hear token else send }

/-! ## Calls -/

/-- The calls of the tracker, at uptimes that do not wrap. -/
inductive Call where
  | recordSent (sent : Sent) (uptime : Nat)
  | observeDetailed (heard : Heard) (uptime : Nat)
  | lookup (channelSlot : UInt8) (messageTimestamp : UInt32) (uptime : Nat)
  | expire (uptime : Nat)
  | closeAll
  | takeDirty

/-- What a call answers. -/
inductive Answer where
  | recorded (accepted : Bool)
  | observed (result : ChannelRepeatObserveResult)
      (observation : ChannelRepeatObservation)
  | found (observation : Option ChannelRepeatObservation)
  | taken (observation : Option ChannelRepeatObservation)
  | done

/-- The counter at an uptime in milliseconds. -/
def millis (uptime : Nat) : UInt32 :=
  UInt32.ofNat uptime

/-- A call by its name, at the uptime modulo its wrap. -/
def perform (call : Call) (tracker : ChannelRepeatTracker) :
    Answer × ChannelRepeatTracker :=
  match call with
  | .recordSent sent uptime =>
    let (accepted, after) := recordSent sent (millis uptime) tracker
    (.recorded accepted, after)
  | .observeDetailed heard uptime =>
    let (result, observation, after) :=
      observeDetailed heard (millis uptime) tracker
    (.observed result observation, after)
  | .lookup channelSlot messageTimestamp uptime =>
    let (found, after) :=
      lookup channelSlot messageTimestamp (millis uptime) tracker
    (.found found, after)
  | .expire uptime => (.done, expire (millis uptime) tracker)
  | .closeAll => (.done, closeAll tracker)
  | .takeDirty =>
    let (taken, after) := takeDirty tracker
    (.taken taken, after)

/-- A copy was counted for a window. -/
def ChannelRepeatObserveResult.counted :
    ChannelRepeatObserveResult → Bool
  | .recorded | .saturated => true
  | _ => false

/-- The send that an observation is about. -/
def ChannelRepeatObservation.identity
    (observation : ChannelRepeatObservation) : UInt8 × UInt32 :=
  (observation.channelSlot, observation.messageTimestamp)

/-- The uptime of a call that looks at the clock. -/
def Call.uptime : Call → Option Nat
  | .recordSent sent uptime => if sent.trackable then some uptime else none
  | .observeDetailed _ uptime | .lookup _ _ uptime | .expire uptime =>
    some uptime
  | .closeAll | .takeDirty => none

/-- What the ledger makes of a call and its answer. -/
def Ledger.see (call : Call) (answer : Answer) (ledger : Ledger) : Ledger :=
  let ledger :=
    match call.uptime with
    | some uptime => ledger.expire uptime
    | none => ledger
  match call, answer with
  | .recordSent sent _, .recorded true => ledger.record sent
  | .observeDetailed heard _, .observed result observation =>
    if result.counted then
      ledger.hear observation.identity heard.lastHopToken
    else ledger
  | .closeAll, _ => ledger.closeAll
  | _, _ => ledger

/-- The final results among the answers. -/
def Answer.closings : Answer → List ChannelRepeatObservation
  | .taken (some observation) =>
    if observation.observationOpen then [] else [observation]
  | _ => []

/-- The tracker beside the ledger, and the closings that were reported. -/
structure Watched where
  tracker : ChannelRepeatTracker := {}
  ledger : Ledger := {}
  closings : List ChannelRepeatObservation := []

/-- A call of the tracker, seen by the ledger. -/
def observe (watched : Watched) (call : Call) : Watched :=
  let (answer, tracker) := perform call watched.tracker
  { tracker
    ledger := watched.ledger.see call answer
    closings := watched.closings ++ answer.closings }

/-- The clock does not go back, and while a window is open it does not go so far
that its age would seem to be small again. -/
def Prompt (watched : Watched) (call : Call) : Prop :=
  ∀ uptime, call.uptime = some uptime →
    watched.ledger.uptime ≤ uptime ∧
      (watched.ledger.opens = [] ∨ uptime ≤ watched.ledger.uptime + 4294847296)

/-! ## Entries and sends -/

/-- The entry of an open window. -/
def Send.entry (send : Send) : Entry where
  active := true
  hash := send.sent.hash
  digest := send.sent.digest
  route := send.sent.route
  channelSlot := send.sent.channelSlot
  messageTimestamp := send.sent.messageTimestamp
  sentAtMs := millis send.sentAt
  repeatCount := min 255 send.heard.length
  sources := send.sources.take kChannelRepeatSourceCapacity
  sourcesTruncated := kChannelRepeatSourceCapacity < send.sources.length

/-- The entry after its count was taken. -/
def Entry.clean (entry : Entry) : Entry :=
  { entry with dirty := false }

/-- An open window, whether or not its count was taken. -/
def Entry.opened (entry : Entry) : Option Entry :=
  if entry.active then some entry.clean else none

/-- The final result that waits in an entry. -/
def Entry.closing (entry : Entry) : Option ChannelRepeatObservation :=
  if entry.closePending then some (fillObservation entry) else none

/-- An entry is free, open, or waits for its final count to be taken. -/
structure Entry.Sound (entry : Entry) : Prop where
  opened : entry.active = true → entry.closePending = false
  closed : entry.active = false → entry.dirty = entry.closePending

section Entries

variable {entry : Entry} {send : Send} {entries : List Entry}

theorem sound_blank : Entry.Sound {} := by
  constructor
  · intro impossible
    cases impossible
  · intro _
    rfl

theorem Entry.Sound.closeIf (sound : entry.Sound) (ends : Entry → Bool) :
    (entry.closeIf ends).Sound := by
  unfold Entry.closeIf
  split
  · constructor
    · intro impossible
      cases impossible
    · intro _
      rfl
  · exact sound

theorem closeIf_kept {ends : Entry → Bool}
    (kept : entry.active = true → ends entry = false) :
    entry.closeIf ends = entry := by
  unfold Entry.closeIf
  cases active : entry.active with
  | false => rfl
  | true => rw [kept active, if_neg (by decide)]

theorem closeIf_closed {ends : Entry → Bool} (active : entry.active = true)
    (expired : ends entry = true) : entry.closeIf ends = entry.close := by
  unfold Entry.closeIf
  rw [active, expired, if_pos (by decide)]

@[simp]
theorem opened_close : entry.close.opened = none :=
  rfl

theorem opened_none (closed : entry.active = false) : entry.opened = none := by
  rw [Entry.opened, closed]
  rfl

theorem opened_some (active : entry.active = true) :
    entry.opened = some entry.clean := by
  rw [Entry.opened, active]
  rfl

theorem closing_none (settled : entry.closePending = false) :
    entry.closing = none := by
  rw [Entry.closing, settled]
  rfl

/-- The windows that are left open. -/
theorem opened_closeIf (ends : Entry → Bool)
    (same : ∀ entry : Entry, ends entry.clean = ends entry)
    (entries : List Entry) :
    (entries.map (Entry.closeIf ends)).filterMap Entry.opened =
      (entries.filterMap Entry.opened).filter fun entry => !ends entry := by
  induction entries with
  | nil => rfl
  | cons entry later induction =>
    rw [List.map_cons, List.filterMap_cons, List.filterMap_cons, induction]
    cases active : entry.active with
    | false =>
      have kept : entry.closeIf ends = entry :=
        closeIf_kept fun open_ => by rw [active] at open_; cases open_
      rw [kept, opened_none active]
    | true =>
      rw [opened_some active]
      cases expired : ends entry with
      | false =>
        have kept : entry.closeIf ends = entry :=
          closeIf_kept fun _ => expired
        rw [kept, opened_some active]
        simp [same, expired]
      | true =>
        rw [closeIf_closed active expired, opened_close]
        simp [same, expired]

/-- The results that wait after some windows were closed. -/
theorem closing_closeIf (ends : Entry → Bool)
    (same : ∀ entry : Entry, ends entry.clean = ends entry)
    (sound : ∀ entry ∈ entries, entry.Sound) :
    ((entries.map (Entry.closeIf ends)).filterMap Entry.closing).Perm
      (entries.filterMap Entry.closing ++
        ((entries.filterMap Entry.opened).filter ends).map fun entry =>
          { fillObservation entry with observationOpen := false }) := by
  induction entries with
  | nil => exact .refl _
  | cons entry later induction =>
    have rest := induction fun other member =>
      sound other (List.mem_cons_of_mem _ member)
    have here := sound entry List.mem_cons_self
    rw [List.map_cons, List.filterMap_cons, List.filterMap_cons,
      List.filterMap_cons]
    cases active : entry.active with
    | false =>
      have kept : entry.closeIf ends = entry :=
        closeIf_kept fun open_ => by rw [active] at open_; cases open_
      rw [kept, opened_none active]
      cases waits : entry.closing with
      | none => exact rest
      | some result => exact rest.cons result
    | true =>
      rw [closing_none (here.opened active), opened_some active]
      cases expired : ends entry with
      | false =>
        have kept : entry.closeIf ends = entry :=
          closeIf_kept fun _ => expired
        rw [kept, closing_none (here.opened active)]
        simpa [same, expired] using rest
      | true =>
        have closed : entry.close.closing = some
            { fillObservation entry.clean with
              observationOpen := false } := rfl
        rw [closeIf_closed active expired, closed,
          List.filter_cons_of_pos (by rw [same, expired]), List.map_cons]
        exact (rest.cons _).trans List.perm_middle.symm

end Entries

/-! ## Copies that are heard -/

section Hear

variable {entry : Entry} {send : Send}

theorem recordSource_kept (entry : Entry) (token : Bytes) :
    (recordSource entry token).2 =
      { entry with
        sources := (recordSource entry token).2.sources
        sourcesTruncated := (recordSource entry token).2.sourcesTruncated } := by
  unfold recordSource
  split
  · rfl
  split
  · rfl
  split
  · split
    · rfl
    · rfl
  · rfl

theorem eraseDups_concat (tokens : List Bytes) (token : Bytes) :
    (tokens ++ [token]).eraseDups =
      tokens.eraseDups ++ if token ∈ tokens then [] else [token] := by
  rw [List.eraseDups_append]
  congr 1
  by_cases known : token ∈ tokens
  · simp [List.removeAll, known]
  · simp [List.removeAll, known, List.eraseDups_cons]

def isToken (token : Bytes) : Prop :=
  0 < token.length ∧ token.length ≤ kChannelRepeatSourceTokenBytes

/-- A token is kept as the next source when it is one and is new. -/
theorem sources_hear (send : Send) (token : Bytes) :
    (send.hear token).sources = send.sources ∧
        (isToken token → token ∈ send.sources) ∨
      (send.hear token).sources = send.sources ++ [token] ∧
        isToken token ∧ token ∉ send.sources := by
  unfold Send.sources Send.hear
  simp only [List.filter_append]
  by_cases valid : isToken token
  · rw [List.filter_cons_of_pos (by simpa [isToken] using valid),
      List.filter_nil, eraseDups_concat]
    by_cases known : token ∈ send.heard.filter fun token =>
        0 < token.length && token.length ≤ kChannelRepeatSourceTokenBytes
    · rw [if_pos known, List.append_nil]
      exact .inl ⟨rfl, fun _ => List.mem_eraseDups.mpr known⟩
    · rw [if_neg known]
      exact .inr ⟨rfl, valid, fun member =>
        known (List.mem_eraseDups.mp member)⟩
  · rw [List.filter_cons_of_neg (by simpa [isToken] using valid),
      List.filter_nil, List.append_nil]
    exact .inl ⟨rfl, fun impossible => absurd impossible valid⟩

/-- The entry keeps the first four sources, and whether there are more. -/
structure Entry.Lists (entry : Entry) (send : Send) : Prop where
  sources : entry.sources = send.sources.take kChannelRepeatSourceCapacity
  truncated : entry.sourcesTruncated =
    decide (kChannelRepeatSourceCapacity < send.sources.length)

theorem Entry.Lists.recordSource (lists : entry.Lists send) (token : Bytes) :
    (recordSource entry token).2.Lists (send.hear token) := by
  obtain ⟨sources, truncated⟩ := lists
  unfold Repeat.recordSource
  rcases sources_hear send token with ⟨same, known⟩ | ⟨more, valid, fresh⟩
  · -- The token is no new one, so the entry must not change.
    have kept : entry.Lists (send.hear token) := by
      constructor
      · rw [same, sources]
      · rw [same, truncated]
    split
    · exact kept
    rename_i isToken_
    have valid : isToken token := by
      simp only [Bool.or_eq_true, decide_eq_true_eq, not_or] at isToken_
      exact ⟨by omega, by omega⟩
    split
    · exact kept
    rename_i notListed
    split
    · split
      · exact kept
      · rename_i few notTruncated
        rw [truncated, decide_eq_true_iff] at notTruncated
        rw [sources, List.take_of_length_le (by omega)] at notListed
        exact absurd (List.contains_iff_mem.mpr (known valid)) notListed
    · rename_i few
      rw [sources, List.length_take] at few
      rw [sources, List.take_of_length_le (by omega)] at notListed
      exact absurd (List.contains_iff_mem.mpr (known valid)) notListed
  · obtain ⟨positive, short⟩ := valid
    have accepted : ¬ (token.length = 0 ∨
        token.length > kChannelRepeatSourceTokenBytes) := by omega
    rw [if_neg (by simpa using accepted), if_neg]
    · split
      · rename_i many
        rw [sources, List.length_take] at many
        split
        · rename_i already
          rw [truncated, decide_eq_true_iff] at already
          constructor
          · rw [more, sources, List.take_append_of_le_length (by omega)]
          · rw [more, truncated, List.length_append]
            simp only [List.length_singleton, decide_eq_decide]
            omega
        · constructor
          · rw [more, List.take_append_of_le_length (by omega)]
            exact sources
          · rw [more, List.length_append]
            simp only [List.length_singleton]
            rw [eq_comm, decide_eq_true_iff]
            omega
      · rename_i few
        rw [sources, List.length_take] at few
        constructor
        · rw [more, List.take_of_length_le (by
            rw [List.length_append, List.length_singleton]; omega)]
          simp only [sources]
          rw [List.take_of_length_le (by omega)]
        · rw [more, List.length_append]
          simp only [truncated, List.length_singleton, decide_eq_decide]
          omega
    · rw [List.contains_iff_mem, sources]
      exact fun member => fresh (List.mem_of_mem_take member)

/-- A window that is heard grows by one copy. -/
theorem hear_opened (shown : entry.opened = some send.entry) (token : Bytes) :
    (entry.hear token).2.opened = some (send.hear token).entry ∧
      (entry.hear token).1.counted = true ∧
      (entry.hear token).2.closePending = entry.closePending := by
  have active : entry.active = true := by
    by_contra closed
    rw [opened_none (Bool.eq_false_iff.mpr closed)] at shown
    cases shown
  rw [opened_some active] at shown
  have same := Option.some.inj shown
  have lists : entry.Lists send :=
    ⟨congrArg Entry.sources same, congrArg Entry.sourcesTruncated same⟩
  have grown := lists.recordSource token
  have kept := recordSource_kept entry token
  have count : entry.repeatCount = min 255 send.heard.length :=
    congrArg Entry.repeatCount same
  have length : (send.hear token).heard.length = send.heard.length + 1 := by
    rw [Send.hear, List.length_append, List.length_singleton]
  unfold Entry.hear
  generalize recordSource entry token = recorded at grown kept
  obtain ⟨changed, listed⟩ := recorded
  simp only at grown kept ⊢
  have heard : (send.hear token).entry = { send.entry with
      repeatCount := min 255 (send.heard.length + 1)
      sources := listed.sources
      sourcesTruncated := listed.sourcesTruncated } := by
    rw [Send.entry, ← grown.sources, ← grown.truncated, length]
    rfl
  rw [heard, ← same, kept]
  simp only
  split
  · rename_i full
    refine ⟨?_, rfl, ?_⟩
    · have stays : min 255 (send.heard.length + 1) = entry.repeatCount := by
        omega
      rw [stays]
      split
      · simp only [Entry.opened, active, if_true, Entry.clean]
      · simp only [Entry.opened, active, if_true, Entry.clean]
    · split
      · rfl
      · rfl
  · rename_i room
    refine ⟨?_, rfl, rfl⟩
    have grows : min 255 (send.heard.length + 1) = entry.repeatCount + 1 := by
      omega
    rw [grows]
    simp only [Entry.opened, active, if_true, Entry.clean]

end Hear

/-! ## The table and the ledger -/

/-- The table shows the open windows of the ledger, and the final results, taken
or waiting, are the reports of those that ended. -/
structure Kept (entries : List Entry) (ledger : Ledger)
    (closings : List ChannelRepeatObservation) : Prop where
  sound : ∀ entry ∈ entries, entry.Sound
  opens : (entries.filterMap Entry.opened).Perm (ledger.opens.map Send.entry)
  closings : (closings ++ entries.filterMap Entry.closing).Perm
    (ledger.ended.map Send.report)
  apart : (ledger.opens.map fun send => send.sent.identity).Nodup
  recent : ∀ send ∈ ledger.opens, send.sentAt ≤ ledger.uptime ∧
    ledger.uptime < send.sentAt + 120000
  length : entries.length = kChannelRepeatTrackerCapacity

section Table

variable {entries : List Entry} {ledger : Ledger}
  {closings : List ChannelRepeatObservation} {index uptime : Nat}
  {entry : Entry} {send : Send}

/-- The age of a window on the wrapping clock is its age. -/
theorem age_entry (started : send.sentAt ≤ uptime)
    (near : uptime < send.sentAt + 4294967296) :
    (millis uptime - send.entry.sentAtMs).toNat = uptime - send.sentAt :=
  toNat_sub_ofNat started near

theorem over_entry (started : send.sentAt ≤ uptime)
    (near : uptime < send.sentAt + 4294967296) :
    send.entry.expired (millis uptime) = send.expired uptime := by
  have age := age_entry started near
  have window : kChannelRepeatWindowMs.toNat = 120000 := rfl
  rw [Entry.expired, Send.expired, decide_eq_decide, ge_iff_le,
    UInt32.le_iff_toNat_le, age, window]
  omega

section

variable (kept : Kept entries ledger closings)

include kept

theorem Kept.expire (forward : ledger.uptime ≤ uptime)
    (near : ledger.opens = [] ∨ uptime ≤ ledger.uptime + 4294847296) :
    Kept (entries.map (Entry.closeIf (·.expired (millis uptime))))
      (ledger.expire uptime) closings := by
  have expired : ∀ send ∈ ledger.opens,
      send.entry.expired (millis uptime) = send.expired uptime := by
    intro send member
    obtain ⟨started, within⟩ := kept.recent send member
    rcases near with none_ | close
    · rw [none_] at member
      cases member
    · exact over_entry (by omega) (by omega)
  have ended : (ledger.opens.map Send.entry).filter
      (·.expired (millis uptime)) =
        (ledger.opens.filter (Send.expired uptime)).map Send.entry := by
    rw [List.filter_map]
    congr 1
    exact List.filter_congr expired
  have left : ((ledger.opens.map Send.entry).filter fun entry =>
      !entry.expired (millis uptime)) =
        (ledger.opens.filter fun send => !send.expired uptime).map
          Send.entry := by
    rw [List.filter_map]
    congr 1
    exact List.filter_congr fun send member => by
      rw [Function.comp_apply, expired send member]
  constructor
  · intro entry member
    obtain ⟨before, inside, rfl⟩ := List.mem_map.mp member
    exact (kept.sound before inside).closeIf _
  · rw [opened_closeIf _ fun _ => rfl]
    refine (kept.opens.filter _).trans ?_
    rw [left]
    rfl
  · have waits := closing_closeIf (·.expired (millis uptime)) (fun _ => rfl)
      kept.sound
    have reports := (kept.opens.filter (·.expired (millis uptime))).map
      fun entry => { fillObservation entry with observationOpen := false }
    rw [ended, List.map_map] at reports
    refine (waits.append_left closings).trans ?_
    rw [← List.append_assoc, Ledger.expire, List.map_append]
    exact kept.closings.append reports
  · exact kept.apart.sublist (List.filter_sublist.map _)
  · intro send member
    obtain ⟨inside, young⟩ := List.mem_filter.mp member
    have started := (kept.recent send inside).1
    simp only [Send.expired, Bool.not_eq_true', decide_eq_false_iff_not,
      not_le] at young
    exact ⟨Nat.le_trans started forward, young⟩
  · rw [List.length_map, kept.length]

theorem Kept.closeAll :
    Kept (entries.map (Entry.closeIf fun _ => true)) ledger.closeAll
      closings := by
  constructor
  · intro entry member
    obtain ⟨before, inside, rfl⟩ := List.mem_map.mp member
    exact (kept.sound before inside).closeIf _
  · rw [opened_closeIf _ fun _ => rfl]
    simp [Ledger.closeAll]
  · have waits := closing_closeIf (fun _ => true) (fun _ => rfl) kept.sound
    rw [List.filter_true] at waits
    have reports := kept.opens.map
      fun entry => { fillObservation entry with observationOpen := false }
    rw [List.map_map] at reports
    refine (waits.append_left closings).trans ?_
    rw [← List.append_assoc, Ledger.closeAll, List.map_append]
    exact kept.closings.append reports
  · exact List.nodup_nil
  · intro send member
    cases member
  · rw [List.length_map, kept.length]

/-- An open entry is the window of one of the open sends, and the other entries
are the windows of the others. -/
theorem Kept.focus
    (stored : entries[index]? = some entry) (active : entry.active = true) :
    ∃ send others, ledger.opens.Perm (send :: others) ∧
      entry.clean = send.entry ∧
      ((entries.eraseIdx index).filterMap Entry.opened).Perm
        (others.map Send.entry) ∧
      ∀ other ∈ others, other.sent.identity ≠ send.sent.identity := by
  have front := filterMap_eraseIdx Entry.opened stored
  rw [opened_some active, Option.toList_some, List.singleton_append] at front
  have member : entry.clean ∈ ledger.opens.map Send.entry :=
    kept.opens.subset (front.symm.subset List.mem_cons_self)
  obtain ⟨send, inside, same⟩ := List.mem_map.mp member
  obtain ⟨before, after, splits⟩ := List.append_of_mem inside
  have moved : ledger.opens.Perm (send :: (before ++ after)) := by
    rw [splits]
    exact List.perm_middle
  refine ⟨send, before ++ after, moved, same.symm, ?_, ?_⟩
  · have both := front.symm.trans (kept.opens.trans (moved.map Send.entry))
    rw [List.map_cons, same] at both
    exact both.cons_inv
  · intro other elsewhere
    have apart := (moved.map fun send => send.sent.identity).nodup_iff.mp
      kept.apart
    rw [List.map_cons, List.nodup_cons] at apart
    intro equal
    exact apart.1 (List.mem_map.mpr ⟨other, elsewhere, equal⟩)

/-- What is needed of a write into the table and of the ledger after it. -/
theorem Kept.write (stored : entries[index]? = some entry) {new : Entry}
    (sound : new.Sound) (silent : entry.closing = none)
    (same : new.closing = none) {opens : List Send} (shown : (new.opened.toList ++
      (entries.eraseIdx index).filterMap Entry.opened).Perm (opens.map Send.entry))
    (apart : (opens.map fun send => send.sent.identity).Nodup)
    (recent : ∀ send ∈ opens, send.sentAt ≤ ledger.uptime ∧
      ledger.uptime < send.sentAt + 120000) :
    Kept (entries.set index new) { ledger with opens } closings := by
  constructor
  · intro other member
    rcases List.mem_or_eq_of_mem_set member with inside | rfl
    · exact kept.sound other inside
    · exact sound
  · exact (filterMap_set Entry.opened stored new).trans shown
  · have quiet := filterMap_set_same Entry.closing stored
      (same.trans silent.symm)
    exact (quiet.append_left closings).trans kept.closings
  · exact apart
  · exact recent
  · rw [List.length_set, kept.length]

theorem Kept.hear
    (stored : entries[index]? = some entry) (active : entry.active = true)
    (token : Bytes) :
    Kept (entries.set index (entry.hear token).2)
      (ledger.hear entry.identity token) closings := by
  obtain ⟨send, others, moved, same, rest, apart⟩ :=
    kept.focus stored active
  have here := kept.sound entry (List.mem_of_getElem? stored)
  have shown : entry.opened = some send.entry := by
    rw [opened_some active, same]
  obtain ⟨grown, _, pending⟩ := hear_opened shown token
  have identity : entry.identity = send.sent.identity :=
    congrArg Entry.identity same
  have settled := pending.trans (here.opened active)
  have stays : (entry.hear token).2.active = true := by
    by_contra closed
    rw [opened_none (Bool.eq_false_iff.mpr closed)] at grown
    cases grown
  have heard : (ledger.opens.map fun other =>
      if other.sent.identity = entry.identity then other.hear token
        else other).Perm (send.hear token :: others) := by
    refine (moved.map _).trans (List.Perm.of_eq ?_)
    rw [List.map_cons, identity, if_pos rfl]
    congr 1
    refine (List.map_congr_left ?_).trans (List.map_id others)
    intro other member
    rw [if_neg (apart other member)]
    rfl
  apply kept.write stored
  · constructor
    · intro _
      exact settled
    · intro impossible
      rw [stays] at impossible
      cases impossible
  · exact closing_none (here.opened active)
  · exact closing_none settled
  · rw [grown]
    exact (rest.cons _).trans (heard.map Send.entry).symm
  · refine (List.Perm.of_eq ?_).nodup_iff.mpr kept.apart
    rw [List.map_map]
    apply List.map_congr_left
    intro other _
    rw [Function.comp_apply]
    split
    · rfl
    · rfl
  · intro other member
    obtain ⟨before, inside, rfl⟩ := List.mem_map.mp member
    have recent := kept.recent before inside
    split
    · exact recent
    · exact recent

end

/-! ### Sends -/

variable {sent : Sent}

/-- The entry of an open window. -/
theorem Kept.stored (kept : Kept entries ledger closings)
    (member : send ∈ ledger.opens) :
    ∃ entry ∈ entries, entry.active = true ∧ entry.clean = send.entry := by
  have shown : send.entry ∈ entries.filterMap Entry.opened :=
    kept.opens.symm.subset (List.mem_map_of_mem member)
  obtain ⟨entry, inside, opened⟩ := List.mem_filterMap.mp shown
  refine ⟨entry, inside, ?_⟩
  by_cases active : entry.active = true
  · rw [opened_some active] at opened
    exact ⟨active, Option.some.inj opened⟩
  · rw [opened_none (Bool.eq_false_iff.mpr active)] at opened
    cases opened

theorem record_known (member : send ∈ ledger.opens)
    (identity : send.sent.identity = sent.identity)
    (again : send.isSend sent = true) : ledger.record sent = ledger := by
  rw [Ledger.record, if_pos]
  rw [List.any_eq_true]
  exact ⟨send, member, by rw [identity, again]; simp⟩

theorem Kept.record_known (kept : Kept entries ledger closings)
    (known : choose sent none entries.zipIdx = .known) :
    ledger.record sent = ledger := by
  obtain ⟨⟨entry, index⟩, member, active, identity, again⟩ :=
    choose_known known
  obtain ⟨send, others, moved, same, _, _⟩ :=
    kept.focus (List.mk_mem_zipIdx_iff_getElem?.mp member) active
  have inside : send ∈ ledger.opens :=
    moved.symm.subset List.mem_cons_self
  refine Repeat.record_known inside ?_ ?_
  · exact (congrArg Entry.identity same).symm.trans identity
  · exact (congrArg (·.isSend sent) same).symm.trans again

/-- A new window is stored in a cell without a result that waits. -/
theorem Kept.store (kept : Kept entries ledger closings)
    (stored : entries[index]? = some entry) (silent : entry.closing = none)
    {others : List Send}
    (rest : ((entries.eraseIdx index).filterMap Entry.opened).Perm
      (others.map Send.entry)) (left : (ledger.opens.filter fun send =>
      send.sent.identity ≠ sent.identity).Perm others)
    (fresh : ∀ send ∈ ledger.opens, send.sent.identity = sent.identity →
      send.isSend sent = false) :
    Kept (entries.set index (sent.entry (millis ledger.uptime)))
      (ledger.record sent) closings := by
  have recorded : ledger.record sent = { ledger with
      opens := { sent, sentAt := ledger.uptime } ::
        ledger.opens.filter fun send =>
          send.sent.identity ≠ sent.identity } := by
    rw [Ledger.record, if_neg]
    rw [List.any_eq_true]
    rintro ⟨send, member, both⟩
    rw [Bool.and_eq_true, decide_eq_true_iff] at both
    rw [fresh send member both.1] at both
    cases both.2
  rw [recorded]
  apply kept.write stored
  · constructor
    · intro _
      rfl
    · intro impossible
      cases impossible
  · exact silent
  · rfl
  · exact (rest.trans (left.map Send.entry).symm).cons _
  · rw [List.map_cons, List.nodup_cons]
    constructor
    · intro member
      obtain ⟨send, inside, same⟩ := List.mem_map.mp member
      have different := (List.mem_filter.mp inside).2
      simp only [ne_eq, decide_not, Bool.not_eq_true',
        decide_eq_false_iff_not] at different
      exact different same
    · exact kept.apart.sublist (List.filter_sublist.map _)
  · intro send member
    rcases List.mem_cons.mp member with rfl | inside
    · exact ⟨Nat.le_refl _, Nat.lt_add_of_pos_right (by decide)⟩
    · exact kept.recent send (List.mem_filter.mp inside).1

theorem Kept.record (kept : Kept entries ledger closings)
    (use : choose sent none entries.zipIdx = .use index) :
    Kept (entries.set index (sent.entry (millis ledger.uptime)))
      (ledger.record sent) closings := by
  rcases choose_use use with ⟨entry, member, active, identity, other⟩ |
    ⟨noneOpen, impossible | ⟨entry, member, closed, clean⟩⟩
  · have stored := List.mk_mem_zipIdx_iff_getElem?.mp member
    have here := kept.sound entry (List.mem_of_getElem? stored)
    obtain ⟨send, others, moved, same, rest, apart⟩ :=
      kept.focus stored active
    have known : send.sent.identity = sent.identity :=
      (congrArg Entry.identity same).symm.trans identity
    have otherSend : send.isSend sent = false :=
      (congrArg (·.isSend sent) same).symm.trans other
    apply kept.store stored (closing_none (here.opened active)) rest
    · refine (moved.filter _).trans (List.Perm.of_eq ?_)
      rw [List.filter_cons_of_neg (by simp [known]), List.filter_eq_self]
      intro left inside
      rw [decide_eq_true_iff, ← known]
      exact apart left inside
    · intro found inside again
      rcases List.mem_cons.mp (moved.subset inside) with rfl | elsewhere
      · exact otherSend
      · exact absurd (again.trans known.symm) (apart found elsewhere)
  · cases impossible
  · have stored := List.mk_mem_zipIdx_iff_getElem?.mp member
    have here := kept.sound entry (List.mem_of_getElem? stored)
    have settled : entry.closePending = false :=
      (here.closed closed).symm.trans clean
    have different : ∀ send ∈ ledger.opens,
        send.sent.identity ≠ sent.identity := by
      intro send inside same
      obtain ⟨shown, cell, active, equal⟩ := kept.stored inside
      obtain ⟨position, bound, rfl⟩ := List.getElem_of_mem cell
      have placed := List.mk_mem_zipIdx_iff_getElem?.mpr
        (List.getElem?_eq_getElem bound)
      exact noneOpen _ placed active
        ((congrArg Entry.identity equal).trans same)
    have rest := filterMap_eraseIdx Entry.opened stored
    rw [opened_none closed] at rest
    apply kept.store stored (closing_none settled)
      (rest.symm.trans kept.opens)
    · rw [List.filter_eq_self.mpr]
      intro send inside
      rw [decide_eq_true_iff]
      exact different send inside
    · intro send inside same
      exact absurd same (different send inside)

/-! ### Results that are taken -/

/-- A result is taken from an entry that is dirty. -/
theorem takeDirty_cases (tracker : ChannelRepeatTracker) :
    (takeDirty tracker = (none, tracker) ∧
      ∀ entry ∈ tracker.entries, entry.dirty = false) ∨
    ∃ index entry, tracker.entries[index]? = some entry ∧
      entry.dirty = true ∧
      takeDirty tracker = (some (fillObservation entry),
        { entries := tracker.entries.set index
            (if entry.closePending then {} else entry.clean) }) := by
  unfold takeDirty
  split
  · rename_i nothing
    refine .inl ⟨rfl, ?_⟩
    intro entry member
    obtain ⟨position, bound, rfl⟩ := List.getElem_of_mem member
    exact foldl_pick_none nothing (_, position)
      (List.mk_mem_zipIdx_iff_getElem?.mpr (List.getElem?_eq_getElem bound))
  · rename_i entry index found
    obtain ⟨member, dirty⟩ := foldl_pick_mem found
    exact .inr ⟨index, entry, List.mk_mem_zipIdx_iff_getElem?.mp member,
      dirty, rfl⟩

theorem Kept.take {tracker : ChannelRepeatTracker}
    (kept : Kept tracker.entries ledger closings) :
    Kept (takeDirty tracker).2.entries ledger
      (closings ++ (Answer.taken (takeDirty tracker).1).closings) := by
  rcases takeDirty_cases tracker with ⟨nothing, _⟩ |
    ⟨index, entry, stored, dirty, taken⟩
  · rw [nothing]
    simpa [Answer.closings] using kept
  · rw [taken]
    have here := kept.sound entry (List.mem_of_getElem? stored)
    cases pending : entry.closePending with
    | false =>
      have active : entry.active = true := by
        by_contra closed
        have same := here.closed (Bool.eq_false_iff.mpr closed)
        rw [dirty, pending] at same
        cases same
      have quiet : (Answer.taken (some (fillObservation entry))).closings =
          [] := by
        simp [Answer.closings, fillObservation, active]
      rw [quiet, List.append_nil, if_neg (by decide)]
      apply kept.write stored
      · constructor
        · intro _
          exact pending
        · intro impossible
          exact absurd (active.symm.trans impossible) (by decide)
      · exact closing_none pending
      · exact closing_none pending
      · have front := filterMap_eraseIdx Entry.opened stored
        exact front.symm.trans kept.opens
      · exact kept.apart
      · exact kept.recent
    | true =>
      have closed : entry.active = false := by
        by_contra active
        have settled := here.opened (by simpa using active)
        rw [pending] at settled
        cases settled
      have result : (Answer.taken (some (fillObservation entry))).closings =
          [fillObservation entry] := by
        simp [Answer.closings, fillObservation, closed]
      have waits : entry.closing = some (fillObservation entry) := by
        rw [Entry.closing, pending, if_pos rfl]
      rw [result, if_pos rfl]
      constructor
      · intro other member
        rcases List.mem_or_eq_of_mem_set member with inside | rfl
        · exact kept.sound other inside
        · exact sound_blank
      · have blank : Entry.opened {} = entry.opened := by
          rw [opened_none closed]
          rfl
        exact (filterMap_set_same Entry.opened stored blank).trans
          kept.opens
      · have front := filterMap_eraseIdx Entry.closing stored
        have after := filterMap_set Entry.closing stored {}
        rw [waits] at front
        refine ((after.append_left _)).trans ?_
        rw [List.append_assoc]
        refine (List.Perm.append_left closings ?_).trans kept.closings
        exact front.symm
      · exact kept.apart
      · exact kept.recent
      · rw [List.length_set, kept.length]

/-! ### Copies -/

variable {heard : Heard} {tracker : ChannelRepeatTracker}

theorem hear_identity (entry : Entry) (token : Bytes) :
    (entry.hear token).2.identity = entry.identity := by
  have kept := recordSource_kept entry token
  unfold Entry.hear
  simp only at kept ⊢
  rw [kept]
  split
  · split
    · rfl
    · rfl
  · rfl

/-- A copy is counted for a youngest window that it is a copy of. -/
theorem observeDetailed_cases (heard : Heard) (nowMs : UInt32)
    (tracker : ChannelRepeatTracker) :
    (∃ result, ChannelRepeatObserveResult.counted result = false ∧
      observeDetailed heard nowMs tracker =
        (result, {}, Repeat.expire nowMs tracker) ∧ (heard.candidate = true →
        ∀ entry ∈ (Repeat.expire nowMs tracker).entries,
          entry.hears heard = false)) ∨
    (heard.candidate = true ∧ ∃ index entry,
        (Repeat.expire nowMs tracker).entries[index]? = some entry ∧
        entry.hears heard = true ∧
        (∀ other ∈ (Repeat.expire nowMs tracker).entries,
          other.hears heard = true →
          (nowMs - entry.sentAtMs).toNat ≤ (nowMs - other.sentAtMs).toNat) ∧
        observeDetailed heard nowMs tracker = ((entry.hear heard.lastHopToken).1,
            fillObservation (entry.hear heard.lastHopToken).2,
            { entries := (Repeat.expire nowMs tracker).entries.set index
                (entry.hear heard.lastHopToken).2 })) := by
  unfold observeDetailed
  generalize Repeat.expire nowMs tracker = expired
  simp only
  split
  · rename_i refused
    refine .inl ⟨.notCandidate, rfl, rfl, ?_⟩
    intro candidate
    rw [candidate] at refused
    cases refused
  rename_i candidate
  have selects := @scan_selected heard nowMs expired.entries.zipIdx {}
  split
  · rename_i nothing
    rw [nothing] at selects
    refine .inl ⟨_, ?_, rfl, ?_⟩
    · split
      · rfl
      · split
        · rfl
        · rfl
    · intro _ entry member
      obtain ⟨position, bound, rfl⟩ := List.getElem_of_mem member
      exact foldl_pick_none selects.symm (_, position)
        (List.mk_mem_zipIdx_iff_getElem?.mpr (List.getElem?_eq_getElem bound))
  · rename_i entry index found
    rw [found] at selects
    obtain ⟨member, hears⟩ := foldl_pick_mem selects.symm
    refine .inr ⟨by simpa using candidate, index, entry,
      List.mk_mem_zipIdx_iff_getElem?.mp member, hears, ?_, rfl⟩
    intro other inside otherHears
    obtain ⟨position, bound, rfl⟩ := List.getElem_of_mem inside
    exact foldl_pick_least
      (fun candidate => (nowMs - candidate.1.sentAtMs).toNat)
      (fun candidate kept => by
        rw [decide_eq_true_iff, UInt32.lt_iff_toNat_lt])
      selects.symm (_, position)
      (List.mk_mem_zipIdx_iff_getElem?.mpr (List.getElem?_eq_getElem bound))
      otherHears

theorem hears_active (hears : entry.hears heard = true) : entry.active = true := by
  unfold Entry.hears at hears
  simp only [Bool.and_eq_true] at hears
  exact hears.1.1.1

theorem hears_of_clean (same : entry.clean = send.entry)
    (heard : Heard) : entry.hears heard = send.hears heard := by
  have shown := congrArg (·.hears heard) same
  exact shown

theorem sentAtMs_of_clean (same : entry.clean = send.entry) :
    entry.sentAtMs = send.entry.sentAtMs := by
  have shown := congrArg Entry.sentAtMs same
  exact shown

/-- Which window a copy is counted for. -/
theorem Kept.counted {nowMs : UInt32}
    (kept : Kept (Repeat.expire nowMs tracker).entries ledger closings)
    (now : nowMs = millis ledger.uptime) :
    ((observeDetailed heard nowMs tracker).1.counted = true ↔
      heard.candidate = true ∧ ∃ send ∈ ledger.opens, send.hears heard = true) ∧
    ((observeDetailed heard nowMs tracker).1.counted = true →
      ∃ send ∈ ledger.opens, send.hears heard = true ∧ send.sent.identity =
          (observeDetailed heard nowMs tracker).2.1.identity ∧
        ∀ other ∈ ledger.opens, other.hears heard = true →
          other.sentAt ≤ send.sentAt) := by
  rcases observeDetailed_cases heard nowMs tracker with
    ⟨result, unheard, observed, nothing⟩ |
    ⟨candidate, index, entry, stored, hears, least, observed⟩
  · rw [observed]
    simp only [unheard, Bool.false_eq_true, false_iff, false_imp_iff, and_true,
      not_and, not_exists]
    intro candidate send member hears
    obtain ⟨entry, inside, active, same⟩ := kept.stored member
    have silent := nothing candidate entry inside
    rw [hears_of_clean same, hears] at silent
    cases silent
  · obtain ⟨send, others, moved, same, _, _⟩ :=
      kept.focus stored (hears_active hears)
    have member : send ∈ ledger.opens :=
      moved.symm.subset List.mem_cons_self
    have sendHears : send.hears heard = true := by
      rw [← hears_of_clean same, hears]
    have counts : (observeDetailed heard nowMs tracker).1.counted = true := by
      rw [observed]
      have shown : entry.opened = some send.entry := by
        rw [opened_some (hears_active hears), same]
      exact (hear_opened shown heard.lastHopToken).2.1
    refine ⟨⟨fun _ => ⟨candidate, send, member, sendHears⟩, fun _ => counts⟩,
      fun _ => ⟨send, member, sendHears, ?_, ?_⟩⟩
    · rw [observed]
      exact (congrArg Entry.identity same).symm.trans
        (hear_identity entry heard.lastHopToken).symm
    · intro other inside otherHears
      obtain ⟨shown, cell, active, equal⟩ := kept.stored inside
      have otherShown : shown.hears heard = true := by
        rw [hears_of_clean equal, otherHears]
      have ages := least shown cell otherShown
      obtain ⟨started, within⟩ := kept.recent send member
      obtain ⟨otherStarted, otherWithin⟩ := kept.recent other inside
      rw [sentAtMs_of_clean same, sentAtMs_of_clean equal, now,
        age_entry started (by omega), age_entry otherStarted (by omega)]
        at ages
      omega

end Table

/-! ## Runs -/

section Runs

variable {watched : Watched} {call : Call}

/-- The invariant of a tracker that is watched. -/
def Faithful (watched : Watched) : Prop :=
  Kept watched.tracker.entries watched.ledger watched.closings

theorem faithful_initially : Faithful {} := by
  constructor
  · intro entry member
    rw [List.eq_of_mem_replicate member]
    exact sound_blank
  · rfl
  · rfl
  · exact List.nodup_nil
  · intro send member
    cases member
  · exact List.length_replicate

theorem Faithful.expired {uptime : Nat} (faithful : Faithful watched)
    (prompt : Prompt watched call) (looks : call.uptime = some uptime) :
    Kept (expire (millis uptime) watched.tracker).entries
      (watched.ledger.expire uptime) watched.closings := by
  obtain ⟨forward, near⟩ := prompt uptime looks
  exact faithful.expire forward near

theorem Faithful.observed (faithful : Faithful watched)
    (prompt : Prompt watched call) : Faithful (observe watched call) := by
  cases call with
  | recordSent sent uptime =>
    cases trackable : sent.trackable with
    | false =>
      have refused : recordSent sent (millis uptime) watched.tracker =
          (false, watched.tracker) := by
        rw [recordSent, trackable]
        rfl
      simpa [Faithful, observe, perform, refused, Ledger.see,
        Call.uptime, trackable, Answer.closings] using faithful
    | true =>
      have expired := faithful.expired prompt (if_pos trackable)
      simp only [Faithful, observe, perform, Ledger.see, Call.uptime,
        trackable, if_true, recordSent, Bool.not_true,
        Bool.false_eq_true, if_false]
      split
      · rename_i known
        simp only [Answer.closings, List.append_nil, expired.record_known known]
        exact expired
      · simp only [Answer.closings, List.append_nil]
        exact expired
      · rename_i index use
        simp only [Answer.closings, List.append_nil]
        exact expired.record use
  | observeDetailed heard uptime =>
    have expired := faithful.expired prompt rfl
    simp only [Faithful, observe, perform, Ledger.see, Call.uptime]
    rcases observeDetailed_cases heard (millis uptime) watched.tracker with
      ⟨result, unheard, observed, _⟩ |
      ⟨_, index, entry, stored, hears, _, observed⟩
    · rw [observed]
      simp only [unheard, Bool.false_eq_true, if_false, Answer.closings,
        List.append_nil]
      exact expired
    · have active := hears_active hears
      obtain ⟨send, others, _, same, _⟩ := expired.focus stored active
      have shown : entry.opened = some send.entry := by
        rw [opened_some active, same]
      have counted := (hear_opened shown heard.lastHopToken).2.1
      have identity : (fillObservation
          (entry.hear heard.lastHopToken).2).identity = entry.identity :=
        hear_identity entry heard.lastHopToken
      rw [observed]
      simp only [counted, if_true, Answer.closings, List.append_nil, identity]
      exact expired.hear stored active heard.lastHopToken
  | lookup channelSlot messageTimestamp uptime =>
    have expired := faithful.expired prompt rfl
    simpa [Faithful, observe, perform, Ledger.see, Call.uptime, lookup,
      Answer.closings] using expired
  | expire uptime =>
    have expired := faithful.expired prompt rfl
    simpa [Faithful, observe, perform, Ledger.see, Call.uptime,
      Answer.closings] using expired
  | closeAll =>
    simp only [Faithful, observe, perform, Ledger.see, Call.uptime,
      Answer.closings, List.append_nil]
    exact Kept.closeAll faithful
  | takeDirty =>
    have taken := Kept.take faithful
    simpa [Faithful, observe, perform, Ledger.see, Call.uptime] using taken

theorem faithful_exec {calls : List Call}
    (prompt : Throughout observe {} Prompt calls) :
    Faithful (exec observe {} calls) :=
  exec_throughout faithful_initially
    (fun _ _ faithful allowed => faithful.observed allowed) prompt

/-! ### Results that are outstanding -/

/-- How many entries have news. -/
def dirtyCount (tracker : ChannelRepeatTracker) : Nat :=
  tracker.entries.countP (·.dirty)

theorem takeDirty_dirtyCount (tracker : ChannelRepeatTracker) :
    dirtyCount (takeDirty tracker).2 = dirtyCount tracker - 1 := by
  rcases takeDirty_cases tracker with ⟨nothing, clean⟩ |
    ⟨index, entry, stored, dirty, taken⟩
  · have none_ : dirtyCount tracker = 0 := by
      rw [dirtyCount, List.countP_eq_zero]
      intro entry member
      rw [clean entry member]
      decide
    rw [nothing, none_]
  · rw [taken]
    have before := (perm_eraseIdx stored).countP_eq (·.dirty)
    have after := (perm_set stored
      (if entry.closePending then {} else entry.clean)).countP_eq (·.dirty)
    rw [List.countP_cons_of_pos dirty] at before
    rw [List.countP_cons_of_neg] at after
    · rw [dirtyCount, dirtyCount, before, after]
      rfl
    · split
      · decide
      · exact Bool.false_ne_true

/-- Taking results does not change what happened. -/
theorem observe_takeDirty (watched : Watched) :
    (observe watched .takeDirty).ledger = watched.ledger ∧
      dirtyCount (observe watched .takeDirty).tracker =
        dirtyCount watched.tracker - 1 := by
  constructor
  · rfl
  · exact takeDirty_dirtyCount watched.tracker

theorem exec_takeDirty (count : Nat) (watched : Watched)
    (faithful : Faithful watched) :
    let after := exec observe watched (List.replicate count .takeDirty)
    Faithful after ∧ after.ledger = watched.ledger ∧
      dirtyCount after.tracker = dirtyCount watched.tracker - count := by
  induction count generalizing watched with
  | zero => exact ⟨faithful, rfl, rfl⟩
  | succ count induction =>
    have one := observe_takeDirty watched
    have still : Faithful (observe watched .takeDirty) :=
      faithful.observed fun uptime impossible => by cases impossible
    obtain ⟨later, same, rest⟩ := induction (observe watched .takeDirty)
      still
    rw [List.replicate_succ, exec_cons]
    refine ⟨later, same.trans one.1, ?_⟩
    omega

/-- When nothing is dirty no result waits. -/
theorem Faithful.settled (faithful : Faithful watched)
    (clean : dirtyCount watched.tracker = 0) :
    watched.closings.Perm (watched.ledger.ended.map Send.report) := by
  have nothing : watched.tracker.entries.filterMap Entry.closing = [] := by
    rw [List.filterMap_eq_nil_iff]
    intro entry member
    have notDirty := List.countP_eq_zero.mp clean entry member
    have sound := faithful.sound entry member
    apply closing_none
    cases active : entry.active with
    | true => exact sound.opened active
    | false =>
      rw [← sound.closed active]
      exact Bool.eq_false_iff.mpr notDirty
  have results := faithful.closings
  rwa [nothing, List.append_nil] at results

/-- A send leaves the open windows of other identities where they are; it ends
those whose time is over. -/
theorem recordSent_kept {sent : Sent} {nowMs : UInt32} {index : Nat}
    {entry : Entry} {tracker : ChannelRepeatTracker}
    (stored : tracker.entries[index]? = some entry) (active : entry.active = true)
    (other : entry.identity ≠ sent.identity) :
    (recordSent sent nowMs tracker).2.entries[index]? = some entry ∨
      entry.expired nowMs = true ∧
        (recordSent sent nowMs tracker).2.entries[index]? =
          some entry.close := by
  have expired : (expire nowMs tracker).entries[index]? =
      some (entry.closeIf (·.expired nowMs)) := by
    rw [expire, List.getElem?_map, stored]
    rfl
  have either : entry.closeIf (·.expired nowMs) = entry ∨
      entry.expired nowMs = true ∧
        entry.closeIf (·.expired nowMs) = entry.close := by
    cases expired : entry.expired nowMs with
    | false => exact .inl (closeIf_kept fun _ => expired)
    | true => exact .inr ⟨rfl, closeIf_closed active expired⟩
  have shown : (recordSent sent nowMs tracker).2.entries[index]? =
      some entry ∨ (recordSent sent nowMs tracker).2.entries[index]? =
        some (entry.closeIf (·.expired nowMs)) := by
    unfold recordSent
    split
    · exact .inl stored
    simp only
    split
    · exact .inr expired
    · exact .inr expired
    · rename_i position use
      right
      rw [List.getElem?_set_ne, expired]
      rintro rfl
      rcases choose_use use with ⟨found, member, isActive, identity, _⟩ |
        ⟨_, impossible | ⟨found, member, closed, clean⟩⟩
      · rw [List.mk_mem_zipIdx_iff_getElem?, expired] at member
        cases member
        rcases either with same | ⟨_, same⟩
        · rw [same] at identity
          exact other identity
        · rw [same] at isActive
          cases isActive
      · cases impossible
      · rw [List.mk_mem_zipIdx_iff_getElem?, expired] at member
        cases member
        rcases either with same | ⟨_, same⟩
        · rw [same, active] at closed
          cases closed
        · rw [same] at clean
          cases clean
  rcases shown with kept | kept
  · exact .inl kept
  · rcases either with same | ⟨expired, same⟩
    · exact .inl (kept.trans (congrArg some same))
    · exact .inr ⟨expired, kept.trans (congrArg some same)⟩

/-- One window is open for each identity. -/
theorem Faithful.distinct (faithful : Faithful watched) :
    ((watched.tracker.entries.filter (·.active)).map Entry.identity).Nodup := by
  have same : (watched.tracker.entries.filter (·.active)).map
      Entry.identity = (watched.tracker.entries.filterMap Entry.opened).map
        Entry.identity := by
    induction watched.tracker.entries with
    | nil => rfl
    | cons entry later induction =>
      cases active : entry.active with
      | false =>
        rw [List.filter_cons_of_neg (by simp [active]),
          List.filterMap_cons, opened_none active, induction]
      | true =>
        rw [List.filter_cons_of_pos active, List.filterMap_cons,
          opened_some active, List.map_cons, List.map_cons, induction]
        rfl
  have identities := faithful.opens.map Entry.identity
  rw [List.map_map] at identities
  rw [same]
  exact identities.nodup_iff.mpr faithful.apart

/--
Over every run whose clock does not go back, and while a window is open does not
go so far that its age would seem small: one window is open for each identity; a
send ends no window of another identity before its time; a copy is counted
exactly when it is one of an open send, and for a youngest of those; the final
results are the reports of the windows that ended, each of them once, as far as
they were taken, and 24 calls take all that wait.
-/
theorem repeat_lifecycle (calls : List Call) :
    Throughout observe {} Prompt calls →
    let watched := exec observe {} calls
    ((watched.tracker.entries.filter (·.active)).map Entry.identity).Nodup ∧
    (∀ (sent : Sent) (uptime index : Nat) (entry : Entry),
      watched.tracker.entries[index]? = some entry →
      entry.active = true → entry.identity ≠ sent.identity →
      (recordSent sent (millis uptime) watched.tracker).2.entries[index]? =
          some entry ∨ entry.expired (millis uptime) = true ∧
          (recordSent sent (millis uptime) watched.tracker).2.entries[index]? =
            some entry.close) ∧
    (∀ heard uptime, Prompt watched (.observeDetailed heard uptime) →
      let result := observeDetailed heard (millis uptime) watched.tracker
      let opens := (watched.ledger.expire uptime).opens
      (result.1.counted = true ↔ heard.candidate = true ∧
        ∃ send ∈ opens, send.hears heard = true) ∧
      (result.1.counted = true → ∃ send ∈ opens, send.hears heard = true ∧
        send.sent.identity = result.2.1.identity ∧
        ∀ other ∈ opens, other.hears heard = true → other.sentAt ≤ send.sentAt)) ∧
    (∃ waiting, (watched.closings ++ waiting).Perm
      (watched.ledger.ended.map Send.report)) ∧
    let after := exec observe watched
      (List.replicate kChannelRepeatTrackerCapacity .takeDirty)
    after.ledger = watched.ledger ∧
      after.closings.Perm (watched.ledger.ended.map Send.report) := by
  intro prompt watched
  have faithful := faithful_exec prompt
  refine ⟨faithful.distinct, ?_, ?_, ⟨_, faithful.closings⟩, ?_⟩
  · intro sent uptime index entry stored active other
    exact recordSent_kept stored active other
  · intro heard uptime allowed
    have expired := faithful.expired allowed rfl
    exact expired.counted rfl
  · obtain ⟨later, same, rest⟩ :=
      exec_takeDirty kChannelRepeatTrackerCapacity watched faithful
    refine ⟨same, ?_⟩
    have few : dirtyCount watched.tracker ≤ kChannelRepeatTrackerCapacity := by
      rw [← faithful.length]
      exact List.countP_le_length
    have results := later.settled (rest.trans (Nat.sub_eq_zero_of_le few))
    rwa [same] at results

/-! ### A send and its copies -/

/-- A send on the first channel. -/
def sampleSend (messageTimestamp : UInt32) : Sent where
  payloadType := kChannelGroupTextPayloadType
  route := { pathHashSize := 1 }
  hash := List.replicate 8 1
  digest := List.replicate 32 1
  channelSlot := 0
  messageTimestamp

/-- A copy of it, so many hops away. -/
def sampleCopy (pathCount : UInt8) : Heard where
  payloadType := kChannelGroupTextPayloadType
  route := { pathHashSize := 1 }
  pathCount
  hash := List.replicate 8 1
  digest := List.replicate 32 1
  lastHopToken := [7]

def sampleCalls : List Call :=
  [.recordSent (sampleSend 1) 0, .observeDetailed (sampleCopy 1) 10,
    .expire 120000]

theorem prompt_sampleCalls : Throughout observe {} Prompt sampleCalls := by
  refine Throughout.cons ?_ (Throughout.cons ?_ (Throughout.cons ?_ .nil))
  · intro uptime looks
    cases looks
    exact ⟨Nat.le_refl _, .inl rfl⟩
  · intro uptime looks
    cases looks
    exact ⟨Nat.zero_le _, .inr (by decide)⟩
  · intro uptime looks
    cases looks
    exact ⟨by decide, .inr (by decide)⟩

theorem repeat_lifecycle_once :
    (exec observe (exec observe {} sampleCalls)
      (List.replicate kChannelRepeatTrackerCapacity .takeDirty)).closings =
        [{ channelSlot := 0
           messageTimestamp := 1
           repeatCount := 1
           sources := [[7]] }] := by
  have results := (repeat_lifecycle sampleCalls prompt_sampleCalls).2.2.2.2.2
  exact List.perm_singleton.mp results

/-- The tracker after one packet was sent when the clock started. -/
def sampleTracker : ChannelRepeatTracker :=
  (recordSent (sampleSend 1) (millis 0) {}).2

/-- A copy that comes back when the clock wrapped is counted after its window;
of two sends in one millisecond it is counted for the earlier one; a packet that
is sent again is accepted and opens no window; and a copy that took no hop is
not counted. -/
theorem repeat_lifecycle_differs :
    (observeDetailed (sampleCopy 1) (millis (100000 + 4294967295))
      (expire (millis 100000) sampleTracker)).1 = .recorded ∧
    (observeDetailed (sampleCopy 1) (millis 1)
      (recordSent (sampleSend 2) (millis 0) sampleTracker).2).2.1.identity =
        (sampleSend 1).identity ∧
    (recordSent (sampleSend 1) (millis 50000) sampleTracker).1 = true ∧
    (observeDetailed (sampleCopy 1) (millis 130000)
      (recordSent (sampleSend 1) (millis 50000) sampleTracker).2).1 =
        .noHashMatch ∧
    (observeDetailed (sampleCopy 0) (millis 1) sampleTracker).1 =
      .notCandidate := by
  decide

end Runs

end Kitsu.Mesh.Repeat
