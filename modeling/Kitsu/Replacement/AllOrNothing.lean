import Kitsu.Lib.Run
import Kitsu.Replacement.Setup

/-!
# A replacement is all or nothing

The companion a boot finds is a function of the flash, and what can happen to it
depends on one question only: whether the transaction authorizes the installed
pack for it.  Without that a companion with a pack keeps everything.  With it
the flash is pending until the core record is written and done from then on,
whatever fails or is cut in between.
-/

namespace Kitsu.Replacement

open Kitsu.Lib.Crash
open Kitsu.Lib.Run

variable {flash after : Flash} {faults : Faults} {state : CoreState}
  {pack : Pack} {transaction : Transaction}

/-! ## The companion in the flash -/

theorem validCoreState_sanitized (keys : CoreState) :
    validCoreState (sanitized keys) = true := by
  have disjoint : (0x0fff : UInt16) &&& 0xf000 = 0 := by decide
  have gifts : keys.collectedGifts &&& 0x0fff &&& 0xf000 = 0 := by
    rw [UInt16.and_assoc, disjoint, UInt16.and_zero]
  have inRange (value : UInt8) : decide (min 100 value ≤ 100) = true :=
    decide_eq_true Std.min_le_left
  have clamped (count value : UInt8) :
      (if count ≤ value then 0xff else value) = (0xff : UInt8) ∨
        decide ((if count ≤ value then 0xff else value) < count) =
          true := by
    split
    · exact Or.inl rfl
    · rename_i below
      exact Or.inr (decide_eq_true (UInt8.not_le.mp below))
  simp only [validCoreState, sanitized, gifts, Bool.and_eq_true,
    Bool.or_eq_true, beq_iff_eq]
  exact ⟨⟨⟨⟨⟨inRange _, inRange _⟩, inRange _⟩, trivial⟩, clamped _ _⟩,
    clamped _ _⟩

theorem validCoreState_companion (flash : Flash) :
    validCoreState (companion flash) = true := by
  unfold companion
  split
  · rename_i found
    exact (Option.filter_eq_some_iff.mp found).2
  · cases flash.legacy with
    | none => rfl
    | some keys => exact validCoreState_sanitized keys

theorem companion_of_core (stored : flash.core = some state)
    (valid : validCoreState state = true) : companion flash = state := by
  have loaded : loadedCore flash = some state := by
    simp [loadedCore, stored, Option.filter, valid]
  simp [companion, loaded]

theorem companion_congr (core : after.core = flash.core)
    (legacy : after.legacy = flash.legacy) :
    companion after = companion flash := by
  simp [companion, loadedCore, core, legacy]

/-- The companion, its brain and its pack are the same. -/
structure Same (flash after : Flash) : Prop where
  companion : companion after = companion flash
  brainA : after.brainA = flash.brainA
  brainB : after.brainB = flash.brainB
  slot : after.slot = flash.slot

theorem Same.refl (flash : Flash) : Same flash flash :=
  ⟨rfl, rfl, rfl, rfl⟩

theorem Same.trans {last : Flash} (first : Same flash after)
    (second : Same after last) : Same flash last where
  companion := second.companion.trans first.companion
  brainA := second.brainA.trans first.brainA
  brainB := second.brainB.trans first.brainB
  slot := second.slot.trans first.slot

theorem Same.hasBrain (same : Same flash after) (packId : UInt32) :
    hasBrain after packId = hasBrain flash packId := by
  simp [Replacement.hasBrain, same.brainA, same.brainB]

/-! ## Device calls -/

/-- Only the retired partition and the replay namespace may differ. -/
structure Aside (flash after : Flash) : Prop where
  core : after.core = flash.core
  legacy : after.legacy = flash.legacy
  brainA : after.brainA = flash.brainA
  brainB : after.brainB = flash.brainB
  slot : after.slot = flash.slot

theorem Aside.same (aside : Aside flash after) : Same flash after where
  companion := companion_congr aside.core aside.legacy
  brainA := aside.brainA
  brainB := aside.brainB
  slot := aside.slot

theorem consume_spec (outcome : EraseOutcome) (flash : Flash) :
    wp (consume outcome) (fun _ after => Aside flash after)
      (Aside flash) flash := by
  cases outcome <;> exact ⟨rfl, rfl, rfl, rfl, rfl⟩

/-- The replay namespace is cleared beside everything else. -/
theorem clearLegacyReplayNamespace_spec (outcome : PutOutcome) (flash : Flash) :
    wp (clearLegacyReplayNamespace outcome)
      (fun cleared after => Aside flash after ∧ after.conn = flash.conn ∧
        (outcome = .written → cleared = true))
      (fun after => Aside flash after ∧ after.conn = flash.conn ∧
        outcome ≠ .written) flash := by
  have aside : Aside flash flash := ⟨rfl, rfl, rfl, rfl, rfl⟩
  have without : Aside flash { flash with replayUsed := false } :=
    ⟨rfl, rfl, rfl, rfl, rfl⟩
  unfold clearLegacyReplayNamespace
  rw [wp_bind, wp_get, wp_ite]
  constructor
  · intro _
    cases outcome with
    | written => exact ⟨without, rfl, fun _ => rfl⟩
    | failed taken => cases taken <;> exact ⟨by assumption, rfl, nofun⟩
    | cut taken => cases taken <;> exact ⟨by assumption, rfl, nofun⟩
  · intro _
    exact ⟨aside, rfl, fun _ => rfl⟩

/-- Retirement leaves a preserved transaction alone. -/
theorem retire_spec (preservation : LegacyConnectivityPreservation)
    (faults : Faults) (flash : Flash) :
    wp (retire preservation faults) (fun ready after => Aside flash after ∧
        (preservation = .transaction →
          after.conn.transaction = flash.conn.transaction) ∧
        (faults.retire = .erased → faults.replay = .written → ready = true))
      (fun after => Aside flash after ∧
        (preservation = .transaction →
          after.conn.transaction = flash.conn.transaction) ∧
        (faults.retire = .erased → faults.replay ≠ .written)) flash := by
  unfold retire
  rw [wp_bind, wp_get, wp_ite]
  constructor
  · intro _
    refine wp_mono (clearLegacyReplayNamespace_spec faults.replay flash)
      ?_ ?_
    · rintro ready after ⟨aside, conn, ok⟩
      exact ⟨aside, fun _ => by rw [conn], fun _ => ok⟩
    · rintro after ⟨aside, conn, stopped⟩
      exact ⟨aside, fun _ => by rw [conn], fun _ => stopped⟩
  · intro _
    cases erase : faults.retire with
    | erased =>
      have spec := clearLegacyReplayNamespace_spec faults.replay
        { flash with conn := overlay preservation flash.conn erasedConn }
      change wp (clearLegacyReplayNamespace faults.replay) _ _
        { flash with conn := overlay preservation flash.conn erasedConn }
      refine wp_mono spec ?_ ?_
      · rintro ready after ⟨aside, conn, ok⟩
        refine ⟨⟨aside.core, aside.legacy, aside.brainA, aside.brainB,
          aside.slot⟩, ?_, fun _ => ok⟩
        rintro rfl
        rw [conn]
        rfl
      · rintro after ⟨aside, conn, stopped⟩
        refine ⟨⟨aside.core, aside.legacy, aside.brainA, aside.brainB,
          aside.slot⟩, ?_, fun _ => stopped⟩
        rintro rfl
        rw [conn]
        rfl
    | failed left =>
      refine ⟨⟨rfl, rfl, rfl, rfl, rfl⟩, ?_, nofun⟩
      rintro rfl
      rfl
    | cut left =>
      refine ⟨⟨rfl, rfl, rfl, rfl, rfl⟩, ?_, nofun⟩
      rintro rfl
      rfl

/-- Saving a valid state leaves the old record or the new one. -/
theorem saveState_spec (outcome : PutOutcome)
    (valid : validCoreState state = true) (flash : Flash) :
    wp (saveState state outcome) (fun saved after =>
        (saved = true ∧ after = { flash with core := some state } ∨
          saved = false ∧ outcome ≠ .written ∧
            (after = flash ∨ after = { flash with core := some state })))
      (fun after => outcome ≠ .written ∧
        (after = flash ∨ after = { flash with core := some state }))
      flash := by
  cases outcome with
  | written => exact Or.inl ⟨valid, rfl⟩
  | failed taken =>
    cases taken with
    | false => exact Or.inr ⟨rfl, nofun, Or.inl rfl⟩
    | true => exact Or.inr ⟨rfl, nofun, Or.inr rfl⟩
  | cut taken =>
    cases taken with
    | false => exact ⟨nofun, Or.inl rfl⟩
    | true => exact ⟨nofun, Or.inr rfl⟩

/-- Loading finds the companion and at most migrates it. -/
theorem loadState_spec (faults : Faults) (flash : Flash) :
    wp (loadState faults)
      (fun state after => state = companion flash ∧ Same flash after ∧
        after.conn = flash.conn)
      (fun after => Same flash after ∧ after.conn = flash.conn ∧
        faults.migrate ≠ .written) flash := by
  have valid := validCoreState_companion flash
  have migrated :
      Same flash { flash with core := some (companion flash) } :=
    ⟨companion_of_core rfl valid, rfl, rfl, rfl⟩
  unfold loadState
  rw [wp_bind, wp_get, wp_ite]
  constructor
  · intro _
    rw [wp_bind]
    refine wp_mono (saveState_spec faults.migrate valid flash) ?_ ?_
    · rintro saved after (⟨_, rfl⟩ | ⟨_, _, rfl | rfl⟩)
      · exact ⟨rfl, migrated, rfl⟩
      · exact ⟨rfl, Same.refl _, rfl⟩
      · exact ⟨rfl, migrated, rfl⟩
    · rintro after ⟨stopped, rfl | rfl⟩
      · exact ⟨Same.refl _, rfl, stopped⟩
      · exact ⟨migrated, rfl, stopped⟩
  · intro _
    exact ⟨rfl, Same.refl _, rfl⟩

theorem cleanUp_spec (transaction : Transaction) (ready : Bool)
    (settled : Settled) (faults : Faults) (flash : Flash) :
    wp (cleanUp transaction ready settled faults)
      (fun _ after => Aside flash after) (Aside flash) flash := by
  unfold cleanUp
  rw [wp_ite]
  constructor
  · intro _
    rw [wp_bind]
    exact wp_post (consume_spec faults.consume flash) fun _ _ aside => aside
  · intro _
    exact ⟨rfl, rfl, rfl, rfl, rfl⟩

/-- A companion without a brain may get a fresh one. -/
structure Hatched (flash after : Flash) (packId : UInt32) : Prop where
  core : after.core = flash.core
  legacy : after.legacy = flash.legacy
  slot : after.slot = flash.slot
  conn : after.conn = flash.conn
  brainB : after.brainB = flash.brainB
  brainA : after.brainA = flash.brainA ∨
    hasBrain flash packId = false ∧
      after.brainA = some (freshBrain packId)

theorem beginBrain_spec (packId : UInt32) (faults : Faults) (flash : Flash) :
    wp (beginBrain packId faults) (fun _ after => Hatched flash after packId)
      (fun after => Hatched flash after packId) flash := by
  have kept : Hatched flash flash packId :=
    ⟨rfl, rfl, rfl, rfl, rfl, Or.inl rfl⟩
  unfold beginBrain
  rw [wp_bind, wp_get, wp_ite]
  constructor
  · intro _
    exact kept
  · intro missing
    have hatched :
        Hatched flash { flash with brainA := some (freshBrain packId) }
          packId :=
      ⟨rfl, rfl, rfl, rfl, rfl, Or.inr ⟨by simpa using missing, rfl⟩⟩
    cases faults.brain with
    | written => exact hatched
    | failed taken => cases taken <;> assumption
    | cut taken => cases taken <;> assumption

/-! ## What a boot begins with -/

/-- Nothing fails in a boot up to its last save. -/
structure Faults.Sound (faults : Faults) : Prop where
  retire : faults.retire = .erased
  replay : faults.replay = .written
  migrate : faults.migrate = .written
  clearBrain : faults.clearBrain = .cleared
  save : faults.save = .written

theorem preservation_of_committed (committed : transaction.committedValid = true) :
    preservation transaction = .transaction := by
  simp [preservation, committed]

/-- A boot up to the point where it looks at the pack. -/
theorem boot_spec {post : Settled → Flash → Prop} {crash : Flash → Prop}
    (early : ∀ after, Same flash after →
      (flash.conn.transaction.committedValid = true →
        after.conn.transaction = flash.conn.transaction) →
      ¬ faults.Sound → crash after) (late : ∀ ready after, Same flash after →
      (flash.conn.transaction.committedValid = true →
        after.conn.transaction = flash.conn.transaction) →
      (faults.retire = .erased → faults.replay = .written → ready = true) →
      wp (do
        let settled ← settlePack flash.conn.transaction ready
          (companion flash) faults
        cleanUp flash.conn.transaction ready settled faults
        beginBrain (brainPackId settled) faults
        return settled) post crash after) : wp (boot faults) post crash flash := by
  unfold boot
  rw [wp_bind, wp_get, wp_bind]
  refine wp_mono (retire_spec _ faults flash) ?_ ?_
  · rintro ready retired ⟨aside, preserved, ok⟩
    have transaction (committed : flash.conn.transaction.committedValid = true) :=
      preserved (preservation_of_committed committed)
    rw [wp_bind]
    refine wp_mono (loadState_spec faults retired) ?_ ?_
    · rintro state loaded ⟨rfl, same, conn⟩
      rw [aside.same.companion]
      apply late ready loaded (aside.same.trans same) _ ok
      intro committed
      rw [conn, transaction committed]
    · rintro stopped ⟨same, conn, failed⟩
      apply early stopped (aside.same.trans same)
      · intro committed
        rw [conn, transaction committed]
      · intro sound
        exact failed sound.migrate
  · rintro stopped ⟨aside, preserved, failed⟩
    apply early stopped aside.same
    · intro committed
      exact preserved (preservation_of_committed committed)
    · intro sound
      exact failed sound.retire sound.replay

/-! ## A companion that nothing may replace -/

/-- The companion has a pack, and no transaction gives it up. -/
structure Held (flash : Flash) : Prop where
  stored : (companion flash).collectiblePackId ≠ 0
  unauthorized : ∀ pack, flash.slot = .valid pack →
    ¬ Authorizes flash.conn.transaction
      (companion flash).collectiblePackId pack

/-- What a boot shows of a pack: the stored one and no other. -/
def shown (flash : Flash) : Option Pack :=
  match flash.slot with
  | .valid pack =>
    if (companion flash).collectiblePackId = pack.packId then some pack
    else none
  | _ => none

theorem packId_of_shown (exposed : shown flash = some pack) :
    pack.packId = (companion flash).collectiblePackId := by
  unfold shown at exposed
  split at exposed
  · split at exposed
    · rename_i same
      cases exposed
      exact same.symm
    · cases exposed
  · cases exposed

theorem settlePack_held (held : Held flash) (same : Same flash after)
    (ready : Bool) (faults : Faults) :
    settlePack flash.conn.transaction ready (companion flash) faults
        after =
      .done ⟨companion flash, shown flash, false⟩ after := by
  have slot := same.slot
  unfold settlePack shown
  rw [Prog.bind_apply, Prog.get_apply]
  cases installed : flash.slot with
  | empty =>
    simp only [slot, installed]
    rfl
  | invalid =>
    simp only [slot, installed]
    rfl
  | valid pack =>
    have refused : ¬ (flash.conn.transaction.committedValid = true ∧
        companionReplacementTransactionAuthorizes
          flash.conn.transaction (companion flash).collectiblePackId
          pack = true) := by
      intro accepted
      exact held.unauthorized pack installed (authorizes_iff.mp accepted)
    simp only [slot, installed]
    by_cases equal : (companion flash).collectiblePackId = pack.packId
    · simp only [if_pos equal]
      rfl
    · simp only [if_neg equal]
      rw [if_neg, if_neg held.stored]
      · rfl
      · simp only [Bool.and_eq_true, decide_eq_true_eq]
        rintro ⟨⟨_, committed⟩, authorized⟩
        exact refused ⟨committed, authorized⟩

/-- A held companion with a brain keeps everything it has. -/
structure Kept (flash after : Flash) : Prop where
  companion : companion after = companion flash
  slot : after.slot = flash.slot
  brainB : after.brainB = flash.brainB
  brainA : after.brainA = flash.brainA ∨
    hasBrain flash (Replacement.companion flash).collectiblePackId = false ∧
      after.brainA = some
        (freshBrain (Replacement.companion flash).collectiblePackId)

theorem Same.kept (same : Same flash after) : Kept flash after :=
  ⟨same.companion, same.slot, same.brainB, Or.inl same.brainA⟩

theorem Same.kept_hatched {last : Flash} (same : Same flash after)
    (hatched : Hatched after last
      (Replacement.companion flash).collectiblePackId) :
    Kept flash last where
  companion :=
    (companion_congr hatched.core hatched.legacy).trans same.companion
  slot := hatched.slot.trans same.slot
  brainB := hatched.brainB.trans same.brainB
  brainA := by
    rw [← same.hasBrain, ← same.brainA]
    exact hatched.brainA

theorem boot_held (held : Held flash) (faults : Faults) :
    wp (boot faults) (fun settled after => Kept flash after ∧
        settled = ⟨companion flash, shown flash, false⟩) (Kept flash) flash := by
  apply boot_spec
  · intro after same _ _
    exact same.kept
  · intro ready loaded same _ _
    have settled := settlePack_held held same ready faults
    have id : brainPackId ⟨companion flash, shown flash, false⟩ =
        (companion flash).collectiblePackId :=
      if_pos held.stored
    rw [wp_bind, wp, settled]
    change wp (do
      cleanUp flash.conn.transaction ready
        ⟨companion flash, shown flash, false⟩ faults
      beginBrain (brainPackId ⟨companion flash, shown flash, false⟩) faults
      return _) _ _ loaded
    rw [wp_bind, id]
    refine wp_mono (cleanUp_spec _ _ _ faults loaded) ?_ ?_
    · intro _ cleaned aside
      have kept := same.trans aside.same
      rw [wp_bind]
      refine wp_mono (beginBrain_spec _ faults cleaned) ?_ ?_
      · intro _ after hatched
        exact ⟨kept.kept_hatched hatched, rfl⟩
      · intro after hatched
        exact kept.kept_hatched hatched
    · intro after aside
      exact (same.trans aside.same).kept

/-! ## The first pack -/

/-- The companion has no pack yet. -/
def Unassigned (flash : Flash) : Prop :=
  (companion flash).collectiblePackId = 0

/-- The companion is the one from before, or that with its first pack. -/
def Assigned (flash after : Flash) : Prop :=
  companion after = companion flash ∨
    ∃ pack, flash.slot = .valid pack ∧
      companion after = assigned (companion flash) pack.packId

theorem validCoreState_assigned (valid : validCoreState state = true)
    (packId : UInt32) : validCoreState (assigned state packId) = true := by
  simp only [validCoreState, Bool.and_eq_true] at valid
  simp only [validCoreState, assigned, Bool.and_eq_true]
  exact ⟨⟨⟨⟨valid.1.1.1.1, valid.1.1.1.2⟩, rfl⟩, rfl⟩, rfl⟩

theorem settlePack_unassigned (unassigned : Unassigned flash)
    (same : Same flash after) (ready : Bool) :
    wp (settlePack flash.conn.transaction ready (companion flash) faults)
      (fun _ last => Assigned flash last) (Assigned flash) after := by
  have zero : (companion flash).collectiblePackId = 0 := unassigned
  have old : Assigned flash after := Or.inl same.companion
  unfold settlePack
  rw [wp_bind, wp_get, same.slot]
  cases installed : flash.slot with
  | empty => exact old
  | invalid => exact old
  | valid pack =>
    have other : ¬ (companion flash).collectiblePackId = pack.packId := by
      rw [zero]
      exact pack.packId_ne.symm
    have valid := validCoreState_assigned
      (validCoreState_companion flash) pack.packId
    have new : Assigned flash
        { after with
          core := some (assigned (companion flash) pack.packId) } :=
      Or.inr ⟨pack, installed, companion_of_core rfl valid⟩
    simp only [if_neg other]
    rw [if_neg (by simp [zero]), if_pos zero, wp_bind]
    refine wp_mono (saveState_spec faults.save valid after) ?_ ?_
    · rintro saved last (⟨_, rfl⟩ | ⟨_, _, rfl | rfl⟩)
      · exact new
      · exact old
      · exact new
    · rintro last ⟨_, rfl | rfl⟩
      · exact old
      · exact new

theorem Assigned.congr {last : Flash} (assigned : Assigned flash after)
    (same : companion last = companion after) : Assigned flash last := by
  unfold Assigned
  rw [same]
  exact assigned

theorem boot_unassigned (unassigned : Unassigned flash) (faults : Faults) :
    wp (boot faults) (fun _ after => Assigned flash after)
      (Assigned flash) flash := by
  apply boot_spec
  · intro after same _ _
    exact Or.inl same.companion
  · intro ready loaded same _ _
    rw [wp_bind]
    refine wp_mono (settlePack_unassigned unassigned same ready) ?_ ?_
    · intro settled saved assigned
      rw [wp_bind]
      refine wp_mono (cleanUp_spec _ _ _ faults saved) ?_ ?_
      · intro _ cleaned aside
        have kept := assigned.congr aside.same.companion
        rw [wp_bind]
        refine wp_mono (beginBrain_spec _ faults cleaned) ?_ ?_
        · intro _ after hatched
          exact kept.congr (companion_congr hatched.core hatched.legacy)
        · intro after hatched
          exact kept.congr (companion_congr hatched.core hatched.legacy)
      · intro after aside
        exact assigned.congr aside.same.companion
    · intro after assigned
      exact assigned

/-! ## A replacement under way -/

/-- The state of a companion that has just replaced another. -/
def newborn (packId : UInt32) : CoreState :=
  { collectiblePackId := packId }

/-- The transaction gives the companion up for the installed pack. -/
structure Pending (flash : Flash) (state : CoreState) (pack : Pack) :
    Prop where
  companion : companion flash = state
  slot : flash.slot = .valid pack
  authorizes : Authorizes flash.conn.transaction
    state.collectiblePackId pack

/-- The core record has the new companion. -/
structure Done (flash : Flash) (pack : Pack) : Prop where
  companion : companion flash = newborn pack.packId
  slot : flash.slot = .valid pack

/-- No brain but a fresh one of the installed pack is stored. -/
structure Clean (flash : Flash) (pack : Pack) : Prop where
  brainA : flash.brainA = none ∨
    flash.brainA = some (freshBrain pack.packId)
  brainB : flash.brainB = none

theorem validCoreState_newborn (packId : UInt32) :
    validCoreState (newborn packId) = true := by
  have hatched : validCoreState {} = true := by decide
  exact hatched

theorem Authorizes.source_ne
    (authorizes : Authorizes transaction state.collectiblePackId pack) :
    state.collectiblePackId ≠ 0 ∧
      state.collectiblePackId ≠ pack.packId := by
  have valid := authorizes.valid
  have target := authorizes.target
  have source := authorizes.source
  simp only [validRecord, targetMatches, Bool.and_eq_true, bne_iff_ne,
    beq_iff_eq, ne_eq] at valid target
  rw [← source, ← target.1.1.1.1]
  exact ⟨valid.1.1.1.1.1.1.2, valid.1.2⟩

/-- The steps of an authorized replacement. -/
def replace (state : CoreState) (pack : Pack) (faults : Faults) :
    Prog Flash Settled := do
  let _ ← clearStoredState faults.clearBrain
  let saved ← saveState (newborn pack.packId) faults.save
  if saved then
    let _ ← consume faults.consume
    return ⟨replaced state pack.packId, some pack, true⟩
  else
    return ⟨replaced state pack.packId, some pack, true⟩

theorem settlePack_authorized
    (authorizes : Authorizes transaction state.collectiblePackId pack)
    (slot : flash.slot = .valid pack) (ready : Bool) (faults : Faults) :
    settlePack transaction ready state faults flash =
      if ready then replace state pack faults flash
      else .done ⟨state, none, false⟩ flash := by
  have accepted := authorizes_iff.mpr authorizes
  have ids := authorizes.source_ne
  unfold settlePack
  rw [Prog.bind_apply, Prog.get_apply]
  simp only [slot, if_neg ids.2]
  cases ready with
  | true =>
    rw [if_pos (by simp [ids.1, accepted.1, accepted.2])]
    rfl
  | false =>
    rw [if_neg (by simp), if_neg ids.1]
    rfl

/-- Clearing touches nothing but the brains. -/
theorem clearStoredState_spec (outcome : ClearOutcome) (flash : Flash) :
    wp (clearStoredState outcome) (fun _ after =>
        (∃ keepA keepB : Bool, after = { flash with
          brainA := if keepA then flash.brainA else none
          brainB := if keepB then flash.brainB else none }) ∧
        ((∀ keepA keepB, outcome ≠ .failed keepA keepB) →
          after.brainA = none ∧ after.brainB = none)) (fun after =>
        (∃ keepA keepB : Bool, after = { flash with
          brainA := if keepA then flash.brainA else none
          brainB := if keepB then flash.brainB else none }) ∧
        outcome ≠ .cleared) flash := by
  cases outcome with
  | cleared => exact ⟨⟨false, false, rfl⟩, fun _ => ⟨rfl, rfl⟩⟩
  | failed keepA keepB =>
    exact ⟨⟨keepA, keepB, rfl⟩, fun never => absurd rfl (never _ _)⟩
  | cut keepA keepB => exact ⟨⟨keepA, keepB, rfl⟩, nofun⟩

/-- The clear of a boot did not report a failure. -/
def Faults.Clears (faults : Faults) : Prop :=
  ∀ keepA keepB, faults.clearBrain ≠ .failed keepA keepB

/-- A replacement is pending, or done and clean unless a clear failed. -/
def Underway (state : CoreState) (pack : Pack) (clean : Prop)
    (flash : Flash) : Prop :=
  Pending flash state pack ∨ Done flash pack ∧ (clean → Clean flash pack)

theorem Done.of_core (slot : flash.slot = .valid pack)
    (core : flash.core = some (newborn pack.packId)) : Done flash pack :=
  ⟨companion_of_core core (validCoreState_newborn _), slot⟩

theorem Done.aside (done : Done flash pack) (aside : Aside flash after) :
    Done after pack :=
  ⟨aside.same.companion.trans done.companion, aside.slot.trans done.slot⟩

theorem Clean.aside (clean : Clean flash pack)
    (aside : Aside flash after) : Clean after pack where
  brainA := by
    rw [aside.brainA]
    exact clean.brainA
  brainB := aside.brainB.trans clean.brainB

/-- Everything a replacement can leave. -/
theorem replace_spec (pending : Pending flash state pack) (faults : Faults) :
    wp (replace state pack faults) (fun settled after =>
        settled = ⟨newborn pack.packId, some pack, true⟩ ∧
        Underway state pack faults.Clears after ∧
        (faults.Sound → Done after pack ∧ Clean after pack))
      (fun after => Underway state pack faults.Clears after ∧
        (faults.Sound → Done after pack ∧ Clean after pack)) flash := by
  unfold replace
  rw [wp_bind]
  refine wp_mono (clearStoredState_spec faults.clearBrain flash) ?_ ?_
  · rintro _ cleared ⟨⟨keepA, keepB, shape⟩, empty⟩
    have still : Pending cleared state pack := by
      rw [shape]
      exact ⟨pending.companion, pending.slot, pending.authorizes⟩
    have done : Done { cleared with core := some (newborn pack.packId) }
        pack :=
      Done.of_core still.slot rfl
    have clean (clears : faults.Clears) :
        Clean { cleared with core := some (newborn pack.packId) } pack :=
      ⟨Or.inl (empty clears).1, (empty clears).2⟩
    have clears (sound : faults.Sound) : faults.Clears := by
      intro keepA keepB
      rw [sound.clearBrain]
      nofun
    rw [wp_bind]
    refine wp_mono (saveState_spec faults.save
      (validCoreState_newborn pack.packId) cleared) ?_ ?_
    · rintro saved stored (⟨rfl, rfl⟩ | ⟨rfl, unsaved, rfl | rfl⟩)
      · rw [if_pos rfl, wp_bind]
        refine wp_mono (consume_spec faults.consume _) ?_ ?_
        · intro _ after aside
          exact ⟨rfl, Or.inr ⟨done.aside aside,
              fun clears => (clean clears).aside aside⟩,
            fun sound => ⟨done.aside aside, (clean (clears sound)).aside aside⟩⟩
        · intro after aside
          exact ⟨Or.inr ⟨done.aside aside,
              fun clears => (clean clears).aside aside⟩,
            fun sound => ⟨done.aside aside, (clean (clears sound)).aside aside⟩⟩
      · exact ⟨rfl, Or.inl still, fun sound => absurd sound.save unsaved⟩
      · exact ⟨rfl, Or.inr ⟨done, clean⟩,
          fun sound => absurd sound.save unsaved⟩
    · rintro stored ⟨unsaved, rfl | rfl⟩
      · exact ⟨Or.inl still, fun sound => absurd sound.save unsaved⟩
      · exact ⟨Or.inr ⟨done, clean⟩,
          fun sound => absurd sound.save unsaved⟩
  · rintro after ⟨⟨keepA, keepB, rfl⟩, stopped⟩
    exact ⟨Or.inl ⟨pending.companion, pending.slot, pending.authorizes⟩,
      fun sound => absurd sound.clearBrain stopped⟩

theorem Done.hatched (done : Done flash pack) {packId : UInt32}
    (hatched : Hatched flash after packId) : Done after pack :=
  ⟨(companion_congr hatched.core hatched.legacy).trans done.companion,
    hatched.slot.trans done.slot⟩

theorem Clean.hatched (clean : Clean flash pack)
    (hatched : Hatched flash after pack.packId) : Clean after pack where
  brainA := by
    rcases hatched.brainA with kept | ⟨_, fresh⟩
    · rw [kept]
      exact clean.brainA
    · exact Or.inr fresh
  brainB := hatched.brainB.trans clean.brainB

theorem Pending.hatched (pending : Pending flash state pack)
    {packId : UInt32} (hatched : Hatched flash after packId) :
    Pending after state pack where
  companion :=
    (companion_congr hatched.core hatched.legacy).trans pending.companion
  slot := hatched.slot.trans pending.slot
  authorizes := by
    rw [hatched.conn]
    exact pending.authorizes

theorem Underway.hatched {clean : Prop}
    (underway : Underway state pack clean flash)
    (hatched : Hatched flash after pack.packId) :
    Underway state pack clean after := by
  rcases underway with pending | ⟨done, brains⟩
  · exact Or.inl (pending.hatched hatched)
  · exact Or.inr ⟨done.hatched hatched,
      fun holds => (brains holds).hatched hatched⟩

theorem cleanUp_skip {ready : Bool} {settled : Settled}
    (skipped : settled.attempted = true ∨ ready = false) :
    cleanUp transaction ready settled faults = pure () := by
  unfold cleanUp
  rcases skipped with attempted | unready
  · simp [attempted]
  · simp [unready]

theorem brainPackId_newborn (exposed : Option Pack) (attempted : Bool) :
    brainPackId ⟨newborn pack.packId, exposed, attempted⟩ =
      pack.packId :=
  if_pos pack.packId_ne

/-- A boot keeps a replacement pending or completes it. -/
theorem boot_pending (pending : Pending flash state pack) (faults : Faults) :
    wp (boot faults)
      (fun settled after => Underway state pack faults.Clears after ∧
        (faults.Sound → settled = ⟨newborn pack.packId, some pack, true⟩ ∧
          Done after pack ∧ Clean after pack))
      (fun after => Underway state pack faults.Clears after ∧
        (faults.Sound → Done after pack ∧ Clean after pack)) flash := by
  have authorizes := pending.authorizes
  have committed := authorizes.committedValid
  have carried {after : Flash} (same : Same flash after)
      (transaction : after.conn.transaction = flash.conn.transaction) :
      Pending after state pack :=
    ⟨same.companion.trans pending.companion, same.slot.trans pending.slot,
      transaction ▸ authorizes⟩
  apply boot_spec
  · intro after same preserved unsound
    exact ⟨Or.inl (carried same (preserved committed)),
      fun sound => absurd sound unsound⟩
  · intro ready loaded same preserved ok
    have still := carried same (preserved committed)
    have settling := settlePack_authorized authorizes still.slot ready
      faults
    rw [pending.companion, wp_bind, wp, settling]
    cases ready with
    | false =>
      have unsound (sound : faults.Sound) : False :=
        absurd (ok sound.retire sound.replay) Bool.false_ne_true
      change wp (do
        cleanUp flash.conn.transaction false ⟨state, none, false⟩ faults
        beginBrain (brainPackId ⟨state, none, false⟩) faults
        return _) _ _ loaded
      rw [cleanUp_skip (Or.inr rfl), wp_bind, wp_pure, wp_bind]
      refine wp_mono (beginBrain_spec _ faults loaded) ?_ ?_
      · intro _ after hatched
        exact ⟨Or.inl (still.hatched hatched),
          fun sound => (unsound sound).elim⟩
      · intro after hatched
        exact ⟨Or.inl (still.hatched hatched),
          fun sound => (unsound sound).elim⟩
    | true =>
      refine wp_mono (replace_spec still faults) ?_ ?_
      · rintro settled replaced ⟨rfl, underway, sound⟩
        rw [cleanUp_skip (Or.inl rfl), wp_bind, wp_pure, wp_bind,
          brainPackId_newborn]
        refine wp_mono (beginBrain_spec _ faults replaced) ?_ ?_
        · intro _ after hatched
          exact ⟨underway.hatched hatched, fun holds =>
            ⟨rfl, (sound holds).1.hatched hatched,
              (sound holds).2.hatched hatched⟩⟩
        · intro after hatched
          exact ⟨underway.hatched hatched, fun holds =>
            ⟨(sound holds).1.hatched hatched, (sound holds).2.hatched hatched⟩⟩
      · rintro after underway
        exact underway

/-- Nothing gives up a companion that replaced another. -/
theorem Done.held (done : Done flash pack) : Held flash where
  stored := by
    rw [done.companion]
    exact pack.packId_ne
  unauthorized := by
    intro other installed authorizes
    have same : pack = other := by
      have equal := done.slot.symm.trans installed
      cases equal
      rfl
    apply authorizes.source_ne.2
    rw [done.companion, same]
    rfl

theorem Done.shown (done : Done flash pack) : shown flash = some pack := by
  simp [Replacement.shown, done.slot, done.companion, newborn]

theorem Done.kept (done : Done flash pack) (kept : Kept flash after) :
    Done after pack :=
  ⟨kept.companion.trans done.companion, kept.slot.trans done.slot⟩

theorem Clean.kept (clean : Clean flash pack) (done : Done flash pack)
    (kept : Kept flash after) : Clean after pack where
  brainA := by
    rcases kept.brainA with same | ⟨_, fresh⟩
    · rw [same]
      exact clean.brainA
    · rw [done.companion] at fresh
      exact Or.inr fresh
  brainB := kept.brainB.trans clean.brainB

/-! ## Runs -/

theorem wp_step {Holds : Flash → Prop}
    (holds : wp (boot faults) (fun _ after => Holds after) Holds flash) :
    Holds (step flash faults) := by
  unfold wp at holds
  unfold step
  split <;> simp_all

theorem step_underway {clean : Prop}
    (underway : Underway state pack clean flash) (faults : Faults) :
    Underway state pack (clean ∧ faults.Clears) (step flash faults) := by
  apply wp_step
  rcases underway with pending | ⟨done, brains⟩
  · have weaken (after : Flash)
        (left : Underway state pack faults.Clears after) :
        Underway state pack (clean ∧ faults.Clears) after :=
      left.imp id fun ⟨done, brains⟩ =>
        ⟨done, fun holds => brains holds.2⟩
    exact wp_mono (boot_pending pending faults)
      (fun _ after left => weaken after left.1)
      (fun after left => weaken after left.1)
  · have keep (after : Flash) (kept : Kept flash after) :
        Underway state pack (clean ∧ faults.Clears) after :=
      Or.inr ⟨done.kept kept,
        fun holds => (brains holds.1).kept done kept⟩
    exact wp_mono (boot_held done.held faults)
      (fun _ after left => keep after left.1) keep

/-- A replacement stays under way through any boots. -/
theorem exec_underway (pending : Pending flash state pack) (boots : List Faults) :
    Underway state pack (∀ faults ∈ boots, faults.Clears)
      (exec step flash boots) := by
  refine @exec_induction _ _ step flash
    (fun boots after =>
      Underway state pack (∀ faults ∈ boots, faults.Clears) after)
    (Or.inl pending) ?_ boots
  intro boots faults underway
  have stepped := step_underway underway faults
  simpa [or_imp, forall_and] using stepped

/-- A sound boot completes what is under way. -/
theorem boot_sound {clean : Prop}
    (underway : Underway state pack clean flash) (sound : faults.Sound) :
    wp (boot faults) (fun settled after => settled.exposed = some pack ∧
        Done after pack ∧ (clean → Clean after pack))
      (fun after => Done after pack ∧ (clean → Clean after pack))
      flash := by
  rcases underway with pending | ⟨done, brains⟩
  · refine wp_mono (boot_pending pending faults) ?_ ?_
    · rintro settled after ⟨_, completes⟩
      rcases completes sound with ⟨rfl, done, clean⟩
      exact ⟨rfl, done, fun _ => clean⟩
    · rintro after ⟨_, completes⟩
      have completed := completes sound
      exact ⟨completed.1, fun _ => completed.2⟩
  · refine wp_mono (boot_held done.held faults) ?_ ?_
    · rintro settled after ⟨kept, rfl⟩
      exact ⟨done.shown, done.kept kept,
        fun holds => (brains holds).kept done kept⟩
    · intro after kept
      exact ⟨done.kept kept, fun holds => (brains holds).kept done kept⟩

/-- An unassigned companion at most gets its first pack. -/
theorem step_unassigned (unassigned : Unassigned flash)
    (faults : Faults) : Assigned flash (step flash faults) :=
  wp_step (boot_unassigned unassigned faults)

theorem step_held (held : Held flash) (faults : Faults) :
    Kept flash (step flash faults) :=
  wp_step (wp_mono (boot_held held faults) (fun _ _ kept => kept.1)
    fun _ kept => kept)

/-- A boot gives up a companion only with a transaction that says so. -/
theorem step_changes (stored : (companion flash).collectiblePackId ≠ 0)
    (changed : (companion (step flash faults)).collectiblePackId ≠
      (companion flash).collectiblePackId) :
    ∃ pack, flash.slot = .valid pack ∧
      Authorizes flash.conn.transaction
        (companion flash).collectiblePackId pack ∧
      companion (step flash faults) = newborn pack.packId := by
  by_cases held : Held flash
  · refine absurd ?_ changed
    rw [(step_held held faults).companion]
  · have authorized : ∃ pack, flash.slot = .valid pack ∧
        Authorizes flash.conn.transaction
          (companion flash).collectiblePackId pack := by
      by_contra none
      apply held
      refine ⟨stored, ?_⟩
      intro pack installed authorizes
      exact none ⟨pack, installed, authorizes⟩
    rcases authorized with ⟨pack, installed, authorizes⟩
    have pending : Pending flash (companion flash) pack :=
      ⟨rfl, installed, authorizes⟩
    have stepped : Underway (companion flash) pack (True ∧ faults.Clears)
        (step flash faults) :=
      step_underway (Or.inl pending) faults
    rcases stepped with still | ⟨done, _⟩
    · exact absurd (congrArg _ still.companion) changed
    · exact ⟨pack, installed, authorizes, done.companion⟩

/--
For every flash and every boots, each with any failure or cut: a stored pack is
given up only by a boot that finds a transaction for it and the installed pack;
a companion with a pack and no such transaction keeps everything and shows no
other pack, and one without a pack at most gets its first; and a replacement
that some boot finds authorized is completed by the first sound boot.
-/
theorem replacement_all_or_nothing (start : Flash) (earlier : List Faults)
    (faults : Faults) :
    let before := exec step start earlier
    let stored := (companion before).collectiblePackId
    (stored ≠ 0 → (companion (step before faults)).collectiblePackId ≠ stored →
      ∃ pack, before.slot = .valid pack ∧
        Authorizes before.conn.transaction stored pack ∧
        companion (step before faults) = newborn pack.packId) ∧
    (stored ≠ 0 → (∀ pack, before.slot = .valid pack →
        ¬ Authorizes before.conn.transaction stored pack) →
      Kept before (step before faults) ∧
        ∀ settled after, boot faults before = .done settled after →
          ∀ pack, settled.exposed = some pack → pack.packId = stored) ∧
    (stored = 0 → companion (step before faults) = companion before ∨
        ∃ pack, before.slot = .valid pack ∧ companion (step before faults) =
            assigned (companion before) pack.packId) ∧
    ∀ pack, before.slot = .valid pack →
      Authorizes before.conn.transaction stored pack →
      ∀ later last, last.Sound →
        let final := exec step before later
        companion (step final last) = newborn pack.packId ∧
          ((∀ faults ∈ later, faults.Clears) → Clean (step final last) pack) ∧
          ∀ settled after, boot last final = .done settled after →
            settled.exposed = some pack := by
  intro before stored
  refine ⟨step_changes, ?_, ?_, ?_⟩
  · intro nonzero unauthorized
    have held : Held before := ⟨nonzero, unauthorized⟩
    refine ⟨step_held held faults, ?_⟩
    intro settled after completed pack exposed
    have spec := wp_done (boot_held held faults) completed
    rw [spec.2] at exposed
    exact packId_of_shown exposed
  · intro unassigned
    exact step_unassigned unassigned faults
  · intro pack installed authorizes later last sound final
    have pending : Pending before (companion before) pack :=
      ⟨rfl, installed, authorizes⟩
    have spec := boot_sound (exec_underway pending later) sound
    have stepped := wp_step (wp_mono spec
      (fun _ after completed => completed.2) fun after completed =>
        completed)
    refine ⟨stepped.1.companion, stepped.2, ?_⟩
    intro settled after completed
    exact (wp_done spec completed).1

/-! ## One device -/

/-- A pack of the smallest size. -/
def foxPack : Pack where
  packId := 1
  revision := 1
  totalBytes := 64
  payloadCrc32 := 7
  headerCrc32 := 9
  packId_ne := by decide
  revision_ne := by decide
  header_le := by decide
  totalBytes_le := by decide

/-- Another pack, in its third revision. -/
def owlPack : Pack where
  packId := 2
  revision := 3
  totalBytes := 128
  payloadCrc32 := 11
  headerCrc32 := 13
  packId_ne := by decide
  revision_ne := by decide
  header_le := by decide
  totalBytes_le := by decide

/-- A fox, an owl in its slot, and the transaction for it. -/
def approvedOwl : Flash where
  core := some { collectiblePackId := 1, pets := 40 }
  legacy := none
  brainA := none
  brainB := some ⟨1, 5, [7]⟩
  slot := .valid owlPack
  conn := ⟨builtTransaction 1 owlPack, true⟩
  replayUsed := false

/-- A companion with a gift from before the first pack was installed. -/
def giftedStarter : Flash where
  core := some { collectedGifts := 1 }
  legacy := none
  brainA := none
  brainB := none
  slot := .valid foxPack
  conn := erasedConn
  replayUsed := false

/-- A boot that is cut while it clears the brain, and then a sound one. -/
theorem approvedOwl_replaced :
    companion (step (exec step approvedOwl
        [{ clearBrain := .cut true false }]) {}) = newborn 2 ∧
      Clean (step (exec step approvedOwl
        [{ clearBrain := .cut true false }]) {}) owlPack := by
  have authorizes : Authorizes approvedOwl.conn.transaction 1 owlPack :=
    authorizes_built (by decide) (by decide)
  have completed := (replacement_all_or_nothing approvedOwl [] {}).2.2.2
    owlPack rfl authorizes [{ clearBrain := .cut true false }] {}
    ⟨rfl, rfl, rfl, rfl, rfl⟩
  refine ⟨completed.1, completed.2.1 ?_⟩
  intro faults member
  cases List.mem_singleton.mp member
  nofun

/--
Without any transaction a first pack takes the gifts of the companion; a boot
that runs to its end does not complete the replacement when its save fails; and
a clear that fails leaves the brain of the old companion for good.
-/
theorem replacement_leaves_or_takes :
    (giftedStarter.conn.transaction.preparedValid = false ∧
      (companion giftedStarter).collectedGifts = 1 ∧
      (companion (step giftedStarter {})).collectedGifts = 0) ∧
    ((boot { save := .failed false } approvedOwl).result?.isSome = true ∧
      companion (step approvedOwl { save := .failed false }) =
        companion approvedOwl) ∧
    (companion (step approvedOwl { clearBrain := .failed true true }) =
        newborn 2 ∧
      (step (step approvedOwl { clearBrain := .failed true true })
        {}).brainB = approvedOwl.brainB) := by
  decide +kernel

end Kitsu.Replacement
