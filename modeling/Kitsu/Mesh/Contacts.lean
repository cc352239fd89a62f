import Kitsu.Lib.Run
import Kitsu.Mesh.TextCodec

/-!
# The contacts that can be heard

A direct packet names its sender by one byte.  `searchPeersByHash` gives MeshCore the
contacts whose key begins with that byte, in the order of their slots and no more than
the four that MeshCore tries, while the table of `MessagingState` has twelve slots, which
adverts fill as well as the owner.
-/

namespace Kitsu.Mesh.Contacts

open Kitsu.Lib.ByteString
open Kitsu.Lib.Run
open Kitsu.Mesh.TextCodec (validMeshTextUtf8)

def kMeshContactCapacity : Nat := 12
def kUnknownPath : UInt8 := 0xff
def kAdvTypeChat : UInt8 := 1
def kAdvTypeSensor : UInt8 := 4

/-- A contact of the table; the pinned ones are kept in the record. -/
structure ContactEntry where
  used : Bool := false
  pinned : Bool := false
  type : UInt8 := 0
  publicKey : ByteVec 32 := .zero 32
  name : Bytes := []
  outPathLen : UInt8 := kUnknownPath
  outPath : ByteVec 64 := .zero 64
  lastAdvertTimestamp : UInt32 := 0
deriving DecidableEq

/-- The byte by which packets name a key. -/
def hash (publicKey : ByteVec 32) : UInt8 :=
  publicKey.bytes.headD 0

/-- A key that is neither all zeros nor all ones. -/
def validPublicKey (publicKey : ByteVec 32) : Bool :=
  publicKey.bytes.any (· != 0) && publicKey.bytes.any (· != 0xff)

def validContactType (type : UInt8) : Bool :=
  type ≥ kAdvTypeChat && type ≤ kAdvTypeSensor

/-- A name is given by its characters in front of the terminator. -/
def validStoredName (name : Bytes) : Bool :=
  name.length > 0 && name.length < 33 && validMeshTextUtf8 name

/-- The table of contacts, and whether its store can be used. -/
structure MessagingState where
  contacts : List ContactEntry
  size : contacts.length = kMeshContactCapacity
  storageUsable : Bool

/-- What a call answers. -/
inductive TransportStatus where
  | ok
  | invalidArgument
  | messagingStorageFailed
  | contactTableFull
  | contactNotFound
deriving DecidableEq, Repr

/-- What becomes of a record that is saved. -/
inductive SaveOutcome where
  | saved
  | failed
  /-- It is not known which record the next start will find. -/
  | ambiguous
deriving DecidableEq, Repr

namespace MessagingState

def entry (state : MessagingState) (index : Nat) : ContactEntry :=
  state.contacts.getD index {}

/-- Replace an entry of the table. -/
def put (state : MessagingState) (index : Nat) (contact : ContactEntry) :
    MessagingState where
  contacts := state.contacts.set index contact
  size := by rw [List.length_set, state.size]
  storageUsable := state.storageUsable

def findContact (state : MessagingState) (publicKey : ByteVec 32) : Option Nat :=
  state.contacts.findIdx? fun contact => contact.used && contact.publicKey == publicKey

/-- The first free entry. -/
def allocationSlot (state : MessagingState) : Option Nat :=
  state.contacts.findIdx? fun contact => !contact.used

/-- How many contacts there are. -/
def contactCount (state : MessagingState) : Nat :=
  state.contacts.countP (·.used)

/-- The slot of the contact with this number of used slots in front of it. -/
def contactAt : List ContactEntry → Nat → Option Nat
  | [], _ => none
  | contact :: later, ordinal =>
    if !contact.used then (contactAt later ordinal).map (· + 1)
    else if ordinal = 0 then some 0
    else (contactAt later (ordinal - 1)).map (· + 1)

/-- A change of the table that is undone where the record is not saved. -/
def save (state : MessagingState) (index : Nat) (contact : ContactEntry) :
    SaveOutcome → TransportStatus × MessagingState
  | .saved => (.ok, state.put index contact)
  | .failed => (.messagingStorageFailed, state)
  | .ambiguous => (.messagingStorageFailed, { state with storageUsable := false })

/--
The entry of a contact that is added or seen again; a pin and a path stay.
-/
def upserted (previous : ContactEntry) (publicKey : ByteVec 32) (name : Bytes)
    (type : UInt8) (pinned : Bool) (advertTimestamp : UInt32) : ContactEntry where
  used := true
  pinned := pinned || (previous.used && previous.pinned)
  type := type
  publicKey := publicKey
  name := name.take 32
  outPathLen := if previous.used then previous.outPathLen else kUnknownPath
  outPath := if previous.used then previous.outPath else .zero 64
  lastAdvertTimestamp :=
    if advertTimestamp ≠ 0 then advertTimestamp else previous.lastAdvertTimestamp

/-- Add or renew a contact; a failed write leaves the table as it was. -/
def upsertContact (state : MessagingState) (publicKey : ByteVec 32) (name : Bytes)
    (type : UInt8) (pinned : Bool) (advertTimestamp : UInt32) (outcome : SaveOutcome) :
    TransportStatus × MessagingState :=
  if !state.storageUsable then (.messagingStorageFailed, state)
  else if !validPublicKey publicKey || !validContactType type || !validStoredName name then
    (.invalidArgument, state)
  else
    match (state.findContact publicKey).or state.allocationSlot with
    | none => (.contactTableFull, state)
    | some index =>
      state.save index
        (upserted (state.entry index) publicKey name type pinned advertTimestamp) outcome

/-- An advert of a contact that is stored already; nothing is written to flash. -/
def observed (existing : ContactEntry) (name : Bytes) (type : UInt8)
    (timestamp : UInt32) : ContactEntry :=
  { existing with
    type := type
    name := name.take 32
    lastAdvertTimestamp :=
      if timestamp > existing.lastAdvertTimestamp then timestamp
      else existing.lastAdvertTimestamp }

/-- An advert was heard; it is kept in memory only. -/
def stageObservedContact (state : MessagingState) (publicKey : ByteVec 32) (name : Bytes)
    (type : UInt8) (timestamp : UInt32) : TransportStatus × MessagingState :=
  if !state.storageUsable then (.messagingStorageFailed, state)
  else if type ≠ kAdvTypeChat || !validPublicKey publicKey || !validStoredName name then
    (.invalidArgument, state)
  else
    match state.findContact publicKey with
    | some index => (.ok, state.put index (observed (state.entry index) name type timestamp))
    | none =>
      match state.allocationSlot with
      | none => (.contactTableFull, state)
      | some index =>
        (.ok, state.put index
          { used := true, type, publicKey, name := name.take 32,
            lastAdvertTimestamp := timestamp })

/-- Remove a contact from the table and, if it was pinned, from the record. -/
def removeContact (state : MessagingState) (publicKey : ByteVec 32)
    (outcome : SaveOutcome) : TransportStatus × MessagingState :=
  if !state.storageUsable then (.messagingStorageFailed, state)
  else
    match state.findContact publicKey with
    | none => (.contactNotFound, state)
    | some index => state.save index {} outcome

end MessagingState

/-! ## Starting again -/

/-- A contact as the record keeps it. -/
structure PersistedContact where
  type : UInt8
  publicKey : ByteVec 32
  name : Bytes
  lastAdvertTimestamp : UInt32
deriving DecidableEq

/-- The contacts of a record that passed its checks; only pinned ones are written. -/
structure PersistedContacts where
  contacts : List (Option PersistedContact)
  size : contacts.length = kMeshContactCapacity

/-- The entry that a stored contact stands for; it is pinned. -/
def decodeContact : Option PersistedContact → ContactEntry
  | none => {}
  | some source =>
    { used := true
      pinned := true
      type := source.type
      publicKey := source.publicKey
      name := source.name
      lastAdvertTimestamp := source.lastAdvertTimestamp }

namespace MessagingState

/-- The table without contacts. -/
def cleared (storageUsable : Bool) : MessagingState where
  contacts := List.replicate kMeshContactCapacity {}
  size := List.length_replicate
  storageUsable := storageUsable

/-- A start finds a record, or nothing it can use. -/
def begin : Option PersistedContacts → Bool → MessagingState
  | none, storageUsable => cleared storageUsable
  | some record, _ =>
    { contacts := record.contacts.map decodeContact
      size := by rw [List.length_map, record.size]
      storageUsable := true }

/-! ## The search -/

/-- One round of the search. -/
def searchStep (state : MessagingState) (wanted : UInt8) (matching : List Nat)
    (ordinal : Nat) : List Nat :=
  if matching.length < 4 then
    match contactAt state.contacts ordinal with
    | none => matching
    | some index =>
      if hash (state.entry index).publicKey == wanted then matching ++ [index]
      else matching
  else matching

/-- The slots of the candidates for a packet from this hash. -/
def searchPeersByHash (state : MessagingState) (wanted : UInt8) : List Nat :=
  (List.range state.contactCount).foldl (state.searchStep wanted) []

/-- How many contacts with the same hash are tried before this one. -/
def crowd (state : MessagingState) (index : Nat) : Nat :=
  (List.range index).countP fun earlier =>
    (state.entry earlier).used &&
      hash (state.entry earlier).publicKey == hash (state.entry index).publicKey

/-- The contact in this slot is tried for packets that name it. -/
def Heard (state : MessagingState) (index : Nat) : Prop :=
  index ∈ state.searchPeersByHash (hash (state.entry index).publicKey)

instance (state : MessagingState) (index : Nat) : Decidable (state.Heard index) :=
  inferInstanceAs (Decidable (_ ∈ _))

end MessagingState

/-! ## Runs -/

/-- The calls of the table; a reload finds the record again. -/
inductive Call where
  | upsertContact (publicKey : ByteVec 32) (name : Bytes) (type : UInt8) (pinned : Bool)
      (advertTimestamp : UInt32) (outcome : SaveOutcome)
  | stageObservedContact (publicKey : ByteVec 32) (name : Bytes) (type : UInt8)
      (timestamp : UInt32)
  | removeContact (publicKey : ByteVec 32) (outcome : SaveOutcome)
  | reload (record : Option PersistedContacts) (storageUsable : Bool)

open MessagingState

/-- A call by its name. -/
def perform (state : MessagingState) : Call → MessagingState
  | .upsertContact publicKey name type pinned advertTimestamp outcome =>
    (state.upsertContact publicKey name type pinned advertTimestamp outcome).2
  | .stageObservedContact publicKey name type timestamp =>
    (state.stageObservedContact publicKey name type timestamp).2
  | .removeContact publicKey outcome => (state.removeContact publicKey outcome).2
  | .reload record storageUsable => begin record storageUsable

/-- The table after these calls on a device that was never used. -/
def after (calls : List Call) : MessagingState :=
  exec perform (cleared true) calls

/-- Adverts, and contacts that the owner stores. -/
def Call.Adds : Call → Prop
  | .upsertContact .. | .stageObservedContact .. => True
  | .removeContact .. | .reload .. => False

/-- Every slot in front of this one is used. -/
def Packed (state : MessagingState) (index : Nat) : Prop :=
  ∀ earlier < index, (state.entry earlier).used = true

/-! ## The candidates -/

section Candidates

variable {state : MessagingState} {contacts : List ContactEntry} {index ordinal : Nat}

/-- The used slots in their order, from the one with this number. -/
def usedFrom (start : Nat) : List ContactEntry → List Nat
  | [] => []
  | contact :: later =>
    if contact.used then start :: usedFrom (start + 1) later
    else usedFrom (start + 1) later

theorem contactAt_map (start : Nat) :
    (contactAt contacts ordinal).map (· + start) = (usedFrom start contacts)[ordinal]? := by
  induction contacts generalizing start ordinal with
  | nil => rfl
  | cons contact later induction =>
    have shift : (fun slot => slot + 1 + start) = fun slot => slot + (start + 1) := by
      funext slot
      omega
    rw [contactAt, usedFrom]
    cases contact.used
    · simp only [Bool.not_false, if_true, Bool.false_eq_true, if_false, Option.map_map,
        Function.comp_def, shift]
      exact induction (start + 1)
    · cases ordinal with
      | zero => simp
      | succ ordinal =>
        simp only [Bool.not_true, Bool.false_eq_true, if_false, if_true,
          Nat.add_one_ne_zero, Nat.add_one_sub_one, Option.map_map,
          Function.comp_def, shift, List.getElem?_cons_succ]
        exact induction (start + 1)

theorem contactAt_eq : contactAt contacts ordinal = (usedFrom 0 contacts)[ordinal]? := by
  simpa using contactAt_map 0

theorem length_usedFrom (start : Nat) :
    (usedFrom start contacts).length = contacts.countP (·.used) := by
  induction contacts generalizing start with
  | nil => rfl
  | cons contact later induction =>
    rw [usedFrom, List.countP_cons]
    split
    · rw [List.length_cons, induction]
    · rw [induction, Nat.add_zero]

theorem usedFrom_eq (start : Nat) :
    usedFrom start contacts =
      ((List.range contacts.length).filter fun index =>
        (contacts.getD index {}).used).map (· + start) := by
  induction contacts generalizing start with
  | nil => rfl
  | cons contact later induction =>
    have shift : (fun slot => slot + (start + 1)) = (fun slot => slot + start) ∘ Nat.succ := by
      funext slot
      simp only [Function.comp_apply]
      omega
    rw [usedFrom, List.length_cons, List.range_succ_eq_map, List.filter_cons,
      List.filter_map, induction]
    cases used : contact.used
    · simp [used, shift, Function.comp_def]
    · simp [used, shift, Function.comp_def]

/-- A bounded search keeps the first matches. -/
theorem foldl_search (matching : List Nat) (ordinals : List Nat) (wanted : UInt8) :
    ordinals.foldl (state.searchStep wanted) (matching.take 4) =
      (matching ++ (ordinals.filterMap (contactAt state.contacts)).filter fun index =>
        hash (state.entry index).publicKey == wanted).take 4 := by
  induction ordinals generalizing matching with
  | nil => simp
  | cons ordinal later induction =>
    have step : state.searchStep wanted (matching.take 4) ordinal =
        (matching ++ ((contactAt state.contacts ordinal).toList.filter fun index =>
          hash (state.entry index).publicKey == wanted)).take 4 := by
      rw [searchStep, List.length_take]
      split
      · rename_i room
        have all : matching.take 4 = matching := List.take_of_length_le (by omega)
        cases contactAt state.contacts ordinal with
        | none => simp
        | some index =>
          cases matched : hash (state.entry index).publicKey == wanted
          · simp [matched]
          · have room : (matching ++ [index]).length ≤ 4 := by
              rw [List.length_append, List.length_singleton]
              omega
            simp [matched, all, List.take_of_length_le room]
      · rw [List.take_append_of_le_length (by omega)]
    rw [List.foldl_cons, step, induction]
    cases found : contactAt state.contacts ordinal with
    | none => simp [found]
    | some index =>
      cases matched : hash (state.entry index).publicKey == wanted
      · simp [found, matched]
      · simp [found, matched]

theorem filterMap_getElem (slots : List Nat) :
    (List.range slots.length).filterMap (slots[·]?) = slots := by
  induction slots with
  | nil => rfl
  | cons slot later induction =>
    rw [List.length_cons, List.range_succ_eq_map, List.filterMap_cons,
      List.filterMap_map]
    simpa [Function.comp_def] using induction

theorem search_eq (state : MessagingState) (wanted : UInt8) :
    state.searchPeersByHash wanted =
      ((List.range state.contacts.length).filter fun index =>
        (state.entry index).used &&
          hash (state.entry index).publicKey == wanted).take 4 := by
  have slots : (List.range state.contactCount).filterMap (contactAt state.contacts) =
      usedFrom 0 state.contacts := by
    have counted : state.contactCount = (usedFrom 0 state.contacts).length :=
      (length_usedFrom 0).symm
    have listed : contactAt state.contacts =
        fun ordinal => (usedFrom 0 state.contacts)[ordinal]? :=
      funext fun _ => contactAt_eq
    rw [listed, counted]
    exact filterMap_getElem _
  have searched := @foldl_search state [] (List.range state.contactCount) wanted
  rw [List.take_nil, List.nil_append, slots, usedFrom_eq] at searched
  rw [searchPeersByHash, searched]
  simp [List.filter_filter, entry, Bool.and_comm]

/-- An entry of a list without repetitions is among the first when few precede it. -/
theorem mem_take_middle {first rest : List Nat} (fresh : index ∉ first) (limit : Nat) :
    index ∈ (first ++ index :: rest).take limit ↔ first.length < limit := by
  rw [List.take_append]
  constructor
  · intro member
    rcases List.mem_append.mp member with early | late
    · exact absurd (List.mem_of_mem_take early) fresh
    · by_contra full
      rw [Nat.sub_eq_zero_of_le (Nat.not_lt.mp full)] at late
      exact List.not_mem_nil late
  · intro room
    obtain ⟨more, counted⟩ := Nat.exists_eq_add_of_lt room
    have left : limit - first.length = more + 1 := by omega
    rw [left, List.take_succ_cons]
    exact List.mem_append_right _ List.mem_cons_self

/-- A contact is tried when fewer than four others are tried before it. -/
theorem heard_iff (used : (state.entry index).used = true) :
    state.Heard index ↔ state.crowd index < 4 := by
  have inside : index < state.contacts.length := by
    by_contra outside
    simp [entry, List.getD_eq_getElem?_getD,
      List.getElem?_eq_none (Nat.not_lt.mp outside)] at used
  obtain ⟨more, counted⟩ := Nat.exists_eq_add_of_lt inside
  have split : List.range state.contacts.length =
      List.range index ++ index :: (List.range more).map (index + 1 + ·) := by
    rw [counted, Nat.add_assoc, List.range_add, List.range_succ_eq_map, List.map_cons,
      List.map_map]
    simp only [Function.comp_def, Nat.add_zero, List.append_cancel_left_eq,
      List.cons.injEq, true_and, List.map_inj_left]
    omega
  rw [Heard, search_eq, split, List.filter_append, List.filter_cons_of_pos (by simp [used]),
    mem_take_middle (by simp), crowd, List.countP_eq_length_filter]

end Candidates

/-! ## What calls change -/

section Changes

variable {state next : MessagingState} {index slot : Nat} {contact : ContactEntry}

theorem entry_of_lt (inside : index < state.contacts.length) :
    state.entry index = state.contacts[index] := by
  simp [entry, List.getD_eq_getElem?_getD, inside]

theorem entry_put (inside : slot < state.contacts.length) :
    (state.put slot contact).entry index =
      if slot = index then contact else state.entry index := by
  simp only [entry, put, List.getD_eq_getElem?_getD, List.getElem?_set]
  split
  · simp
  · rfl

/-- The slots up to this one keep their keys. -/
def Keeps (index : Nat) (state next : MessagingState) : Prop :=
  ∀ earlier ≤ index, (next.entry earlier).used = true ∧
    (next.entry earlier).publicKey = (state.entry earlier).publicKey

theorem crowd_keeps (packed : Packed state index) (keeps : Keeps index state next) :
    next.crowd index = state.crowd index := by
  apply List.countP_congr
  intro earlier member
  have before := List.mem_range.mp member
  rw [(keeps earlier (Nat.le_of_lt before)).1, (keeps earlier (Nat.le_of_lt before)).2,
    (keeps index (Nat.le_refl _)).2, packed earlier before]

theorem findContact_some {publicKey : ByteVec 32}
    (found : state.findContact publicKey = some slot) :
    slot < state.contacts.length ∧ (state.entry slot).used = true ∧
      (state.entry slot).publicKey = publicKey := by
  obtain ⟨inside, matched, -⟩ := List.findIdx?_eq_some_iff_getElem.mp found
  rw [Bool.and_eq_true, beq_iff_eq] at matched
  rw [entry_of_lt inside]
  exact ⟨inside, matched⟩

/-- The free slot that is taken is the first one. -/
theorem allocationSlot_some (found : state.allocationSlot = some slot) :
    slot < state.contacts.length ∧ (state.entry slot).used = false ∧
      Packed state slot := by
  obtain ⟨inside, free, first⟩ := List.findIdx?_eq_some_iff_getElem.mp found
  refine ⟨inside, ?_, ?_⟩
  · rw [entry_of_lt inside]
    simpa using free
  · intro earlier before
    have used := first earlier before
    rw [entry_of_lt (Nat.lt_trans before inside)]
    simpa using used

/-- What a call that adds does: nothing, or it writes one entry. -/
inductive Written (state : MessagingState) : MessagingState → Prop
  | nothing {storageUsable : Bool} : Written state { state with storageUsable }
  | existing {slot : Nat} {contact : ContactEntry} (inside : slot < state.contacts.length)
      (before : (state.entry slot).used = true) (used : contact.used = true)
      (same : contact.publicKey = (state.entry slot).publicKey) :
      Written state (state.put slot contact)
  | new {slot : Nat} {contact : ContactEntry} (free : state.allocationSlot = some slot)
      (used : contact.used = true) : Written state (state.put slot contact)

theorem perform_written {call : Call} (adds : call.Adds) :
    Written state (perform state call) := by
  cases call with
  | upsertContact publicKey name type pinned advertTimestamp outcome =>
    simp only [perform, upsertContact]
    split
    · exact .nothing
    split
    · exact .nothing
    split
    · exact .nothing
    · rename_i slot chosen
      cases outcome with
      | saved =>
        rcases Option.or_eq_some_iff.mp chosen with found | ⟨-, free⟩
        · have stored := findContact_some found
          exact .existing stored.1 stored.2.1 rfl stored.2.2.symm
        · exact .new free rfl
      | failed => exact .nothing
      | ambiguous => exact .nothing
  | stageObservedContact publicKey name type timestamp =>
    simp only [perform, stageObservedContact]
    split
    · exact .nothing
    split
    · exact .nothing
    split
    · rename_i slot found
      have stored := findContact_some found
      exact .existing stored.1 stored.2.1 stored.2.1 rfl
    · split
      · exact .nothing
      · rename_i slot free
        exact .new free rfl
  | removeContact publicKey outcome => exact adds.elim
  | reload record storageUsable => exact adds.elim

/-- Behind used slots a contact keeps its slot and what is in front of it. -/
theorem Written.keeps (written : Written state next) (packed : Packed state index)
    (used : (state.entry index).used = true) : Keeps index state next := by
  have present : ∀ earlier ≤ index, (state.entry earlier).used = true := by
    intro earlier before
    rcases Nat.lt_or_eq_of_le before with less | rfl
    · exact packed earlier less
    · exact used
  intro earlier before
  cases written with
  | nothing => exact ⟨present earlier before, rfl⟩
  | existing inside held now same =>
    rw [entry_put inside]
    split
    · rename_i here
      exact ⟨now, here ▸ same⟩
    · exact ⟨present earlier before, rfl⟩
  | new free now =>
    have slot := allocationSlot_some free
    rw [entry_put slot.1]
    split
    · rename_i here
      rw [here, present earlier before] at slot
      cases slot.2.1
    · exact ⟨present earlier before, rfl⟩

/-- A contact that is new stands behind used slots. -/
theorem Written.packed (written : Written state next)
    (absent : (state.entry index).used = false) (stored : (next.entry index).used = true) :
    Packed next index := by
  cases written with
  | nothing => exact absurd stored (by simpa [entry] using absent)
  | existing inside held now same =>
    rw [entry_put inside] at stored
    split at stored
    · rename_i here
      rw [here, absent] at held
      cases held
    · rw [absent] at stored
      cases stored
  | new free now =>
    have slot := allocationSlot_some free
    rw [entry_put slot.1] at stored
    split at stored
    · rename_i here
      intro earlier before
      rw [entry_put slot.1]
      split
      · exact now
      · exact slot.2.2 earlier (here ▸ before)
    · rw [absent] at stored
      cases stored

theorem keeps_exec {later : List Call} (adds : ∀ call ∈ later, call.Adds)
    (packed : Packed state index) (used : (state.entry index).used = true) :
    Keeps index state (exec perform state later) := by
  induction later generalizing state with
  | nil =>
    intro earlier before
    rcases Nat.lt_or_eq_of_le before with less | rfl
    · exact ⟨packed earlier less, rfl⟩
    · exact ⟨used, rfl⟩
  | cons call later induction =>
    have first := (perform_written (adds call List.mem_cons_self)).keeps packed used
    have rest := induction (fun other member => adds other (List.mem_cons_of_mem _ member))
      (fun earlier before => (first earlier (Nat.le_of_lt before)).1)
      (first index (Nat.le_refl _)).1
    intro earlier before
    exact ⟨(rest earlier before).1,
      (rest earlier before).2.trans (first earlier before).2⟩

end Changes

/--
A stored contact is tried exactly when fewer than four used slots in front of it hold a
key with the same first byte.  It is stored behind used slots, and there adverts and the
owner's contacts cannot change whether it is tried.
-/
theorem contacts_heard (calls : List Call) :
    (∀ index, ((after calls).entry index).used = true →
      ((after calls).Heard index ↔ (after calls).crowd index < 4)) ∧
    (∀ index call, call.Adds → ((after calls).entry index).used = false →
      ((after (calls ++ [call])).entry index).used = true →
      Packed (after (calls ++ [call])) index) ∧
    ∀ index later, (∀ call ∈ later, call.Adds) → Packed (after calls) index →
      ((after calls).entry index).used = true →
      ((after (calls ++ later)).entry index).used = true ∧
      ((after (calls ++ later)).entry index).publicKey =
        ((after calls).entry index).publicKey ∧
      ((after (calls ++ later)).Heard index ↔ (after calls).Heard index) := by
  refine ⟨fun index used => heard_iff used, ?_, ?_⟩
  · intro index call adds absent stored
    have written : Written (after calls) (after (calls ++ [call])) := by
      unfold after
      rw [exec_concat]
      exact perform_written adds
    exact written.packed absent stored
  · intro index later adds packed used
    have keeps : Keeps index (after calls) (after (calls ++ later)) := by
      unfold after
      rw [exec_append]
      exact keeps_exec adds packed used
    have kept := keeps index (Nat.le_refl _)
    refine ⟨kept.1, kept.2, ?_⟩
    rw [heard_iff kept.1, heard_iff used, crowd_keeps packed keeps]

/-- A key that begins with 0x11, and a last byte to tell such keys apart. -/
def crowdedKey (last : UInt8) : ByteVec 32 :=
  ⟨0x11 :: (List.replicate 30 0 ++ [last]), rfl⟩

/-- Four adverts, and a contact that the owner pins. -/
def crowdedOut : List Call :=
  [.stageObservedContact (crowdedKey 1) [0x41] 1 1,
    .stageObservedContact (crowdedKey 2) [0x42] 1 1,
    .stageObservedContact (crowdedKey 3) [0x43] 1 1,
    .stageObservedContact (crowdedKey 4) [0x44] 1 1,
    .upsertContact (crowdedKey 5) [0x45] 1 true 0 .saved]

theorem pinned_unheard :
    ((after crowdedOut).entry 4).used = true ∧
      ((after crowdedOut).entry 4).pinned = true ∧
      ((after crowdedOut).entry 4).publicKey = crowdedKey 5 ∧
      ¬ (after crowdedOut).Heard 4 := by
  decide +kernel

end Kitsu.Mesh.Contacts
