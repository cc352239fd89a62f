import Kitsu.Lib.ByteString
import Kitsu.Lib.Cells

/-!
# The repeat tracker

`ChannelRepeatTracker` counts the copies of a sent channel packet that come back
over the radio.  A table of 24 entries holds a window of 120 seconds for every
send; a window that ends stays in the table until its final count was taken.
-/

namespace Kitsu.Mesh.Repeat

open Kitsu.Lib.ByteString
open Kitsu.Lib.Cells

def kChannelGroupTextPayloadType : UInt8 := 5
def kChannelRepeatSlotCount : UInt8 := 4
def kChannelRepeatTrackerCapacity : Nat := 24
def kChannelRepeatWindowMs : UInt32 := 120000
def kChannelRepeatSourceCapacity : Nat := 4
def kChannelRepeatSourceTokenBytes : Nat := 3

/-- What a copy must share with its send beside the hash. -/
structure FloodRouteBinding where
  transportScoped : Bool := false
  transportCodes : UInt16 × UInt16 := (0, 0)
  pathHashSize : UInt8 := 0
deriving DecidableEq, Repr

/-- A route of a known hash size; codes come only with a scope. -/
def validFloodRouteBinding (binding : FloodRouteBinding) : Bool :=
  if binding.pathHashSize < 1 || binding.pathHashSize > 3 then false
  else if !binding.transportScoped then
    binding.transportCodes.1 = 0 && binding.transportCodes.2 = 0
  else true

/-- Both routes are valid and the same. -/
def sameFloodRouteBinding (left right : FloodRouteBinding) : Bool :=
  validFloodRouteBinding left && validFloodRouteBinding right &&
    left.transportScoped = right.transportScoped &&
    left.pathHashSize = right.pathHashSize &&
    left.transportCodes.1 = right.transportCodes.1 &&
    left.transportCodes.2 = right.transportCodes.2

/-- What is reported of a send: the copies and their sources. -/
structure ChannelRepeatObservation where
  channelSlot : UInt8 := 0xff
  messageTimestamp : UInt32 := 0
  repeatCount : Nat := 0
  observationOpen : Bool := false
  /-- The sources in use. -/
  sources : List Bytes := []
  sourcesTruncated : Bool := false
deriving DecidableEq, Repr

/-- What became of a copy that was heard. -/
inductive ChannelRepeatObserveResult where
  | notCandidate
  | noHashMatch
  | wireMismatch
  | digestMismatch
  | recorded
  | saturated
deriving DecidableEq, Repr

/-- A send that is tracked. -/
structure Entry where
  active : Bool := false
  hash : Bytes := List.replicate 8 0
  digest : Bytes := List.replicate 32 0
  route : FloodRouteBinding := {}
  channelSlot : UInt8 := 0xff
  messageTimestamp : UInt32 := 0
  sentAtMs : UInt32 := 0
  repeatCount : Nat := 0
  sources : List Bytes := []
  sourcesTruncated : Bool := false
  dirty : Bool := false
  closePending : Bool := false
deriving DecidableEq, Repr

/-- The table of sends. -/
structure ChannelRepeatTracker where
  entries : List Entry := List.replicate kChannelRepeatTrackerCapacity {}
deriving DecidableEq, Repr

/-! ## Entries -/

/-- What is reported of an entry. -/
def fillObservation (entry : Entry) : ChannelRepeatObservation where
  channelSlot := entry.channelSlot
  messageTimestamp := entry.messageTimestamp
  repeatCount := entry.repeatCount
  observationOpen := entry.active
  sources := entry.sources
  sourcesTruncated := entry.sourcesTruncated

/-- A source that was not heard yet is kept while there is room for it. -/
def recordSource (entry : Entry) (token : Bytes) : Bool × Entry :=
  if token.length = 0 || token.length > kChannelRepeatSourceTokenBytes then
    (false, entry)
  else if entry.sources.contains token then (false, entry)
  else if entry.sources.length ≥ kChannelRepeatSourceCapacity then
    if entry.sourcesTruncated then (false, entry)
    else (true, { entry with sourcesTruncated := true })
  else (true, { entry with sources := entry.sources ++ [token] })

/-- Ends the window; the entry waits for its final count to be taken. -/
def Entry.close (entry : Entry) : Entry :=
  { entry with active := false, dirty := true, closePending := true }

/-- The time of a send is over, modulo the wrap of the uptime. -/
def Entry.expired (entry : Entry) (nowMs : UInt32) : Bool :=
  nowMs - entry.sentAtMs ≥ kChannelRepeatWindowMs

/-- What a lookup names a send by. -/
def Entry.identity (entry : Entry) : UInt8 × UInt32 :=
  (entry.channelSlot, entry.messageTimestamp)

/-- Close an open send on a condition. -/
def Entry.closeIf (ends : Entry → Bool) (entry : Entry) : Entry :=
  if entry.active && ends entry then entry.close else entry

/-- Close the sends whose time is over. -/
def expire (nowMs : UInt32) (tracker : ChannelRepeatTracker) :
    ChannelRepeatTracker where
  entries := tracker.entries.map (Entry.closeIf (·.expired nowMs))

def closeAll (tracker : ChannelRepeatTracker) : ChannelRepeatTracker where
  entries := tracker.entries.map (Entry.closeIf fun _ => true)

/-! ## Sends -/

/-- A packet that was sent, with what identifies its copies. -/
structure Sent where
  payloadType : UInt8
  route : FloodRouteBinding
  hash : Bytes
  digest : Bytes
  channelSlot : UInt8
  messageTimestamp : UInt32
deriving DecidableEq, Repr

/-- A message to a channel that can be tracked. -/
def Sent.trackable (sent : Sent) : Bool :=
  sent.payloadType = kChannelGroupTextPayloadType &&
    validFloodRouteBinding sent.route &&
    sent.channelSlot < kChannelRepeatSlotCount && sent.messageTimestamp ≠ 0

/-- What a lookup will name the send by. -/
def Sent.identity (sent : Sent) : UInt8 × UInt32 :=
  (sent.channelSlot, sent.messageTimestamp)

/-- The entry that the loop over the table ends with. -/
inductive Choice where
  | known
  | use (index : Nat)
  | full
deriving DecidableEq, Repr

def Entry.isSend (entry : Entry) (sent : Sent) : Bool :=
  entry.hash = sent.hash && entry.digest = sent.digest &&
    sameFloodRouteBinding entry.route sent.route

/-- The entry for a send: its own, that of its identity, or a free one. -/
def choose (sent : Sent) : Option Nat → List (Entry × Nat) → Choice
  | none, [] => .full
  | some index, [] => .use index
  | selected, (entry, index) :: later =>
    if entry.active && entry.identity = sent.identity then
      -- The same callback again does not erase copies that were heard.
      if entry.isSend sent then .known else .use index
    else if !entry.active && !entry.dirty && selected.isNone then
      choose sent (some index) later
    else choose sent selected later

/-- The entry of a send that has just gone out. -/
def Sent.entry (sent : Sent) (nowMs : UInt32) : Entry :=
  { active := true
    hash := sent.hash
    digest := sent.digest
    route := sent.route
    channelSlot := sent.channelSlot
    messageTimestamp := sent.messageTimestamp
    sentAtMs := nowMs }

/-- Track a send; a full table tracks no more. -/
def recordSent (sent : Sent) (nowMs : UInt32)
    (tracker : ChannelRepeatTracker) : Bool × ChannelRepeatTracker :=
  if !sent.trackable then (false, tracker)
  else
    let tracker := expire nowMs tracker
    match choose sent none tracker.entries.zipIdx with
    | .known => (true, tracker)
    | .full => (false, tracker)
    | .use index =>
      (true, { entries := tracker.entries.set index (sent.entry nowMs) })

/-! ## Observations -/

/-- A packet that was heard, with the token of its last hop. -/
structure Heard where
  payloadType : UInt8
  route : FloodRouteBinding
  pathCount : UInt8
  hash : Bytes
  digest : Bytes
  lastHopToken : Bytes := []
deriving DecidableEq, Repr

/-- A copy that came through a repeater. -/
def Heard.candidate (heard : Heard) : Bool :=
  heard.payloadType = kChannelGroupTextPayloadType &&
    validFloodRouteBinding heard.route && heard.pathCount ≠ 0

/-- What the search for the send of a copy has found so far. -/
structure Scan where
  selected : Option (Entry × Nat) := none
  hashMatched : Bool := false
  wireMismatch : Bool := false

/-- The entry is the window of a send that this is a copy of. -/
def Entry.hears (entry : Entry) (heard : Heard) : Bool :=
  entry.active && entry.hash = heard.hash &&
    sameFloodRouteBinding entry.route heard.route &&
    entry.digest = heard.digest

/-- The next entry of the search. -/
def Scan.see (heard : Heard) (nowMs : UInt32) (scan : Scan)
    (candidate : Entry × Nat) : Scan :=
  if !candidate.1.active || candidate.1.hash ≠ heard.hash then scan
  else if !sameFloodRouteBinding candidate.1.route heard.route then
    { scan with
      hashMatched := true
      wireMismatch := scan.wireMismatch || candidate.1.digest = heard.digest }
  else if candidate.1.digest ≠ heard.digest then
    { scan with hashMatched := true }
  else
    { scan with
      hashMatched := true
      selected :=
        match scan.selected with
        | none => some candidate
        | some selected =>
          if nowMs - candidate.1.sentAtMs < nowMs - selected.1.sentAtMs then
            some candidate
          else some selected }

/-- Count a copy and note its source. -/
def Entry.hear (entry : Entry) (token : Bytes) :
    ChannelRepeatObserveResult × Entry :=
  let (sourceChanged, entry) := recordSource entry token
  if entry.repeatCount = 0xff then
    (.saturated, if sourceChanged then { entry with dirty := true } else entry)
  else
    (.recorded,
      { entry with repeatCount := entry.repeatCount + 1, dirty := true })

/-- A copy was heard; it counts for the send that it is of. -/
def observeDetailed (heard : Heard) (nowMs : UInt32)
    (tracker : ChannelRepeatTracker) :
    ChannelRepeatObserveResult × ChannelRepeatObservation ×
      ChannelRepeatTracker :=
  let tracker := expire nowMs tracker
  if !heard.candidate then (.notCandidate, {}, tracker)
  else
    let scan := tracker.entries.zipIdx.foldl (Scan.see heard nowMs) {}
    match scan.selected with
    | none =>
      (if scan.wireMismatch then .wireMismatch
        else if scan.hashMatched then .digestMismatch
        else .noHashMatch, {}, tracker)
    | some (entry, index) =>
      let (result, entry) := entry.hear heard.lastHopToken
      (result, fillObservation entry,
        { entries := tracker.entries.set index entry })

/-! ## Results -/

/-- What is known of a send. -/
def lookup (channelSlot : UInt8) (messageTimestamp : UInt32)
    (nowMs : UInt32) (tracker : ChannelRepeatTracker) :
    Option ChannelRepeatObservation × ChannelRepeatTracker :=
  let tracker := expire nowMs tracker
  ((tracker.entries.find? fun entry => entry.active &&
      entry.identity = (channelSlot, messageTimestamp)).map fillObservation,
    tracker)

/-- The signed distance of the timestamps is negative. -/
def Entry.earlier (entry selected : Entry) : Bool :=
  (entry.messageTimestamp - selected.messageTimestamp).toNat ≥ 2147483648

/-- The earliest send with news; a closed one leaves the table with that. -/
def takeDirty (tracker : ChannelRepeatTracker) :
    Option ChannelRepeatObservation × ChannelRepeatTracker :=
  match tracker.entries.zipIdx.foldl
      (pick (fun candidate => candidate.1.dirty)
        fun candidate selected => candidate.1.earlier selected.1) none with
  | none => (none, tracker)
  | some (entry, index) =>
    (some (fillObservation entry),
      { entries := tracker.entries.set index
          (if entry.closePending then {} else { entry with dirty := false }) })

/-! ## What the loops find -/

variable {selected : Option Nat} {candidates : List (Entry × Nat)}

section Loops

variable {sent : Sent} {heard : Heard} {nowMs : UInt32}

theorem choose_known (known : choose sent selected candidates = .known) :
    ∃ candidate ∈ candidates, candidate.1.active = true ∧
      candidate.1.identity = sent.identity ∧
      candidate.1.isSend sent = true := by
  induction candidates generalizing selected with
  | nil => cases selected <;> cases known
  | cons candidate later induction =>
    obtain ⟨entry, index⟩ := candidate
    rw [choose] at known
    split at known
    · rename_i same
      rw [Bool.and_eq_true, decide_eq_true_iff] at same
      split at known
      · rename_i isSend
        exact ⟨(entry, index), List.mem_cons_self, same.1, same.2, isSend⟩
      · cases known
    · split at known
      all_goals
        obtain ⟨found, member, holds⟩ := induction known
        exact ⟨found, List.mem_cons_of_mem _ member, holds⟩

/-- No entry is the open window of this identity. -/
def NoneOpen (sent : Sent) (candidates : List (Entry × Nat)) : Prop :=
  ∀ candidate ∈ candidates, candidate.1.active = true →
    candidate.1.identity ≠ sent.identity

theorem NoneOpen.nil : NoneOpen sent [] := by
  intro candidate member
  cases member

theorem NoneOpen.cons {candidate : Entry × Nat} {later : List (Entry × Nat)}
    (other : ¬ (candidate.1.active && decide (candidate.1.identity =
      sent.identity)) = true) (rest : NoneOpen sent later) :
    NoneOpen sent (candidate :: later) := by
  intro found member active same
  rcases List.mem_cons.mp member with rfl | after
  · exact other (by rw [active, same]; simp)
  · exact rest found after active same

/-- The cell that is used is the open window of the identity, or it is free and
no window of the identity is open. -/
theorem choose_use {index : Nat}
    (use : choose sent selected candidates = .use index) :
    (∃ entry, (entry, index) ∈ candidates ∧ entry.active = true ∧
        entry.identity = sent.identity ∧ entry.isSend sent = false) ∨
      (NoneOpen sent candidates ∧
        (selected = some index ∨ ∃ entry, (entry, index) ∈ candidates ∧
          entry.active = false ∧ entry.dirty = false)) := by
  induction candidates generalizing selected with
  | nil =>
    cases selected with
    | none => cases use
    | some found =>
      cases use
      exact .inr ⟨.nil, .inl rfl⟩
  | cons candidate later induction =>
    obtain ⟨entry, position⟩ := candidate
    rw [choose] at use
    split at use
    · rename_i same
      rw [Bool.and_eq_true, decide_eq_true_iff] at same
      split at use
      · cases use
      · rename_i otherSend
        cases use
        exact .inl ⟨entry, List.mem_cons_self, same.1, same.2,
          Bool.eq_false_iff.mpr otherSend⟩
    · rename_i other
      split at use
      · rename_i free
        simp only [Bool.and_eq_true, Bool.not_eq_true',
          Option.isNone_iff_eq_none] at free
        rcases induction use with ⟨found, member, holds⟩ | ⟨noneOpen, cell⟩
        · exact .inl ⟨found, List.mem_cons_of_mem _ member, holds⟩
        · refine .inr ⟨noneOpen.cons other, .inr ?_⟩
          rcases cell with here | ⟨found, member, holds⟩
          · cases here
            exact ⟨entry, List.mem_cons_self, free.1⟩
          · exact ⟨found, List.mem_cons_of_mem _ member, holds⟩
      · rcases induction use with ⟨found, member, holds⟩ | ⟨noneOpen, cell⟩
        · exact .inl ⟨found, List.mem_cons_of_mem _ member, holds⟩
        · refine .inr ⟨noneOpen.cons other, ?_⟩
          rcases cell with before | ⟨found, member, holds⟩
          · exact .inl before
          · exact .inr ⟨found, List.mem_cons_of_mem _ member, holds⟩

/-- What the scan selects is picked. -/
theorem scan_selected (candidates : List (Entry × Nat)) (scan : Scan) :
    (candidates.foldl (Scan.see heard nowMs) scan).selected =
      candidates.foldl (pick (fun candidate => candidate.1.hears heard)
        fun candidate selected => nowMs - candidate.1.sentAtMs <
          nowMs - selected.1.sentAtMs) scan.selected := by
  induction candidates generalizing scan with
  | nil => rfl
  | cons candidate later induction =>
    rw [List.foldl_cons, List.foldl_cons, induction]
    congr 1
    unfold Scan.see pick Entry.hears
    split
    · rename_i other
      simp only [Bool.or_eq_true, Bool.not_eq_true', decide_eq_true_eq]
        at other
      rcases other with closed | different
      · simp [closed]
      · simp [different]
    rename_i same
    simp only [Bool.or_eq_true, Bool.not_eq_true', decide_eq_true_eq,
      not_or, Bool.not_eq_false, not_not] at same
    split
    · rename_i elsewhere
      simp only [Bool.not_eq_true'] at elsewhere
      simp [elsewhere]
    rename_i route
    simp only [Bool.not_eq_true', Bool.not_eq_false] at route
    split
    · rename_i different
      simp [different]
    · rename_i digest
      rw [not_not] at digest
      rw [if_pos (by simp [same, route, digest])]
      rcases scan.selected with _ | selected
      · rfl
      · simp only [decide_eq_true_eq]

end Loops

end Kitsu.Mesh.Repeat
