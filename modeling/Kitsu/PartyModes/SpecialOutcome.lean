import Kitsu.Encounter.SignalState
import Kitsu.PartyModes.Result
import Kitsu.Social.Runs

/-!
# The special outcome of a finished party

A party that is over is finished again on every tick.  Its outcome goes to three places
of their own, and one nonce in memory says when all of them were reached.  A shared
trail is merged as a maximum, sessions are remembered by the social ledger, and a story
is told once it was started.  How often each was reached is counted beside the state.
-/

namespace Kitsu.PartyModes.SpecialOutcome

open Kitsu.Lib.Run
open Kitsu.Encounter
open Kitsu.Encounter.SignalState
open Kitsu.Social (SocialProgression)

abbrev kStoryCount : Nat := 6

/-- The texts of the stories, and the list of recent ones, are left out. -/
structure StoryState where
  activeStory : Option (Fin kStoryCount) := none
  /-- The second scene. -/
  awaitsChoice : Bool := false
  completedMask : UInt32 := 0
  completions : UInt16 := 0
deriving DecidableEq

def StoryState.startStory (stories : StoryState) (selected : Fin kStoryCount) : StoryState :=
  { stories with activeStory := some selected, awaitsChoice := false }

def StoryState.advanceStory (stories : StoryState) : StoryState :=
  { stories with awaitsChoice := true }

def StoryState.resolveStory (stories : StoryState) (story : Fin kStoryCount) : StoryState where
  completedMask := stories.completedMask ||| 1 <<< UInt32.ofNat story
  completions := if stories.completions = 0xffff then 0xffff else stories.completions + 1

/-- The party that is over. -/
structure Session where
  mode : Mode
  outcomeValue : UInt16
  rareEncounter : UInt8
  storyChoice : UInt8
  rawNonce : UInt32
deriving DecidableEq

/-- The name under which a mode party is rewarded; never zero. -/
def modePartyRewardNonce (rawNonce : UInt32) : UInt32 :=
  let mixed := rawNonce ^^^ 0x4d385231
  let mixed := (mixed ^^^ mixed >>> 16) * 0x7feb352d
  let mixed := mixed ^^^ mixed >>> 15
  if mixed == 0 then 0x4d385231 else mixed

/-- The session under which the social ledger rewards the party. -/
def socialNonce (rawNonce : UInt32) : UInt32 :=
  let nonce := modePartyRewardNonce rawNonce ^^^ 0x534f4349
  if nonce == 0 then 0x534f4349 else nonce

/-- What a session's outcome changes, with counts of what was done. -/
structure World where
  signal : Signal
  social : SocialProgression
  socialProgressionReady : Bool
  stories : StoryState
  dialogueStateReady : Bool
  /-- The last session that was celebrated, rewarded and handled is this one. -/
  celebrated : Bool := false
  rewarded : Bool := false
  handled : Bool := false
  /-- How often the trail was raised, an encounter attempted and a story resolved. -/
  raises : Nat := 0
  attempts : Nat := 0
  choices : Nat := 0

/-- What the social part of the reward is given; it comes once in a session. -/
structure Reward where
  request : Social.PartyRewardRequest
  stored : Bool

/-- What becomes of the writes of a tick, and what else it is given. -/
structure Tick where
  selected : Fin kStoryCount := 0
  startStored : Bool := true
  reward : Option Reward := none
  signalWrite : WriteOutcome := .written
  socialStored : Bool := true
  attempt : Trigger
  advanceStored : Bool := true
  careStored : Bool := true
  storyStored : Bool := true

/-- The celebration may start a story. -/
def showPartyCompletion (world : World) (tick : Tick) : World :=
  if world.celebrated then world
  else
    { world with
      celebrated := true
      stories :=
        if world.dialogueStateReady && world.stories.activeStory.isNone && tick.startStored then
          world.stories.startStory tick.selected
        else world.stories }

/-- The social part; the other ledgers of the reward are not looked at here. -/
def recordPartyReward (session : Session) (world : World) (reward : Option Reward) : World :=
  match reward with
  | none => world
  | some reward =>
    if world.rewarded then world
    else if !world.socialProgressionReady then { world with rewarded := true }
    else
      let request := { reward.request with sessionNonce := socialNonce session.rawNonce }
      let first := Social.answer world.social (.recordPartyRewards request)
      let second := Social.answer first.progression
        (.contributeDailyChallenge request.dayId 1 3)
      let changed := first.status = .ok || second.status = .ok
      { world with
        rewarded := true
        social :=
          if changed && !reward.stored then (Social.restore world.social.state).2
          else second.progression }

/-- A session that the ledger refuses for another reason than its memory has no result. -/
def recordSession (social : SocialProgression) (call : Social.Call) :
    Option (Bool × SocialProgression) :=
  let answer := Social.answer social call
  match answer.status with
  | .ok => some (true, answer.progression)
  | .duplicate => some (false, answer.progression)
  | _ => none

/-- A rare encounter that was shared is recorded, once a session. -/
def recordRare (session : Session) (social : SocialProgression) :
    Option (Bool × SocialProgression) :=
  if session.rareEncounter = 0 then some (false, social)
  else recordSession social (.recordCooperativeRareEncounter session.rawNonce)

/-- A shared trail is recorded, once a session. -/
def recordShared (session : Session) (social : SocialProgression) :
    Option (Bool × SocialProgression) :=
  if session.mode ≠ .sharedTrail then some (false, social)
  else
    recordSession social
      (.recordSharedTrailResult session.rawNonce session.outcomeValue.toUInt8)

/-- Both sessions of the party, and whether one of them was new. -/
def recordSessions (session : Session) (social : SocialProgression) :
    Option (Bool × SocialProgression) :=
  (recordRare session social).bind fun rare =>
    (recordShared session rare.2).map fun shared => (rare.1 || shared.1, shared.2)

/-- What was recorded is written, put back or answered with an encounter. -/
def settleSessions (session : Session) (world : World) (tick : Tick) :
    Option (Bool × SocialProgression) → Bool × World
  | none => (false, { world with social := (Social.restore world.social.state).2 })
  | some (changed, social) =>
    if changed && !(Social.validateSocialState social.state && tick.socialStored) then
      (false, { world with social := (Social.restore world.social.state).2 })
    else if changed && session.rareEncounter != 0 then
      (true, { world with
        social
        signal := recordSuccessfulEncounterTrigger world.signal
          { tick.attempt with kind := .nearbyKitsuMet }
        attempts := world.attempts + 1 })
    else (true, { world with social })

def applySocialPart (session : Session) (world : World) (tick : Tick) : Bool × World :=
  if !world.socialProgressionReady then (true, world)
  else settleSessions session world tick (recordSessions session world.social)

/-- A shared trail raises the own count first; the rest is retried later. -/
def applyModePartySocialOutcome (session : Session) (world : World) (tick : Tick) :
    Bool × World :=
  if session.mode = .sharedTrail then
    let (merged, signal) := mergeSharedTrail world.signal session.outcomeValue tick.signalWrite
    let raised := world.signal.trail.state.missCount < signal.trail.state.missCount
    let world := { world with
      signal, raises := if raised then world.raises + 1 else world.raises }
    if !merged then (false, world) else applySocialPart session world tick
  else applySocialPart session world tick

/-- An answer of `chooseFunStory` that reports an error is not told from another. -/
def applyModePartyStoryVote (session : Session) (world : World) (tick : Tick) : Bool × World :=
  if !world.dialogueStateReady || session.storyChoice ≥ 3 then (false, world)
  else
    match world.stories.activeStory with
    | none => (false, world)
    | some story =>
      if !world.stories.awaitsChoice && !tick.advanceStored then (false, world)
      else
        let advanced := world.stories.advanceStory
        if tick.careStored && tick.storyStored then
          (true, { world with
            stories := advanced.resolveStory story, choices := world.choices + 1 })
        else (true, { world with stories := advanced })

/-- Handle a completed session; what failed is tried again at the next tick. -/
def finishModePartyIfComplete (session : Session) (world : World) (tick : Tick) : World :=
  if session.rawNonce = 0 then world
  else
    let world := recordPartyReward session (showPartyCompletion world tick) tick.reward
    if world.handled then world
    else
      let (socialApplied, world) := applyModePartySocialOutcome session world tick
      let (storyApplied, world) :=
        if session.mode = .storyVote then applyModePartyStoryVote session world tick
        else (true, world)
      { world with handled := socialApplied && storyApplied }

/-- What happens while a session is being settled. -/
inductive Call where
  | tick (tick : Tick)
  | trigger (trigger : Trigger)

/-- A tick of the session, or an encounter in between. -/
def step (session : Session) (world : World) : Call → World
  | .tick tick => finishModePartyIfComplete session world tick
  | .trigger trigger =>
    { world with signal := recordSuccessfulEncounterTrigger world.signal trigger }

/-! ## What is asked of the outcome -/

/-- The misses of the device. -/
def World.missCount (world : World) : UInt8 :=
  world.signal.trail.state.missCount

def World.rare (world : World) : UInt32 :=
  world.social.state.cooperativeRareEncounters

def World.shared (world : World) : UInt32 :=
  world.social.state.sharedTrailProgress

/-- Every write of the tick is made, and there is a place for it. -/
structure AllWritten (world : World) (tick : Tick) : Prop where
  storage : world.signal.storageReady = true
  signal : world.signal.signalEncounterStateReady = true
  signalWrite : tick.signalWrite = .written
  social : tick.socialStored = true
  dialogue : world.dialogueStateReady = true
  start : tick.startStored = true
  advance : tick.advanceStored = true
  care : tick.careStored = true
  story : tick.storyStored = true

/--
What a session has changed in all, and that a handled one changes no more.
-/
structure Once (session : Session) (start world : World) : Prop where
  raises : world.raises ≤ 1
  choices : world.choices ≤ 1
  attempts : world.rare = start.rare ∧ world.attempts = 0 ∨
    world.rare = start.rare + 1 ∧ world.attempts = 1
  shared : world.shared = start.shared ∨
    world.shared = Kitsu.Lib.saturatingAdd32 start.shared session.outcomeValue.toUInt8.toUInt32
  /-- A handled session is not looked at again. -/
  handled : world.handled = true → ∀ tick,
    let after := finishModePartyIfComplete session world tick
    after = { world with social := after.social, rewarded := after.rewarded } ∧
      after.rare = world.rare ∧ after.shared = world.shared
  finishes : ∀ tick, AllWritten world tick →
    (finishModePartyIfComplete session world tick).handled = true

/-- A party that was just finished, and sessions that the ledger has not heard of. -/
structure Begins (session : Session) (start : World) : Prop where
  nonce : session.rawNonce ≠ 0
  value : session.outcomeValue ≤ 20
  choice : session.storyChoice < 3
  usable : start.signal.trail.available = true ∧ Trail.Valid start.signal.trail.state
  social : Social.Restorable start.social ∧ start.social.available = true
  below : start.rare ≠ .ofNat (2 ^ 32 - 1)
  distinct : [Social.Purpose.rareEncounter.replayNonce session.rawNonce,
    Social.Purpose.sharedTrail.replayNonce session.rawNonce,
    socialNonce session.rawNonce].Nodup
  unheard : ∀ purpose, Social.Purpose.replayNonce purpose session.rawNonce ∈
    start.social.state.recentSessions.newestFirst → purpose = .party
  blank : start.celebrated = false ∧ start.rewarded = false ∧ start.handled = false ∧
    start.raises = 0 ∧ start.attempts = 0 ∧ start.choices = 0

/-- The tick resolves the story that is active. -/
def Tells (world : World) (tick : Tick) : Prop :=
  world.dialogueStateReady = true ∧ tick.careStored = true ∧ tick.storyStored = true ∧
    (world.stories.awaitsChoice = true ∨ tick.advanceStored = true)

/--
No encounter ends a trail that was raised before the session was handled.  The story of a
vote is there when the party is celebrated, and is told with the social record written.
-/
def Fits (session : Session) (world : World) : Call → Prop
  | .trigger trigger => world.handled = false → world.raises ≠ 0 →
      session.outcomeValue.toUInt8 ≤
        (recordSuccessfulEncounterTrigger world.signal trigger).trail.state.missCount
  | .tick tick => world.handled = false → session.mode = .storyVote →
      (world.celebrated = false → world.stories.activeStory.isSome = true ∨
        world.dialogueStateReady = true ∧ tick.startStored = true) ∧
      (Tells world tick → session.rareEncounter = 0 ∨ world.socialProgressionReady = false ∨
        world.attempts ≠ 0 ∨ tick.socialStored = true)

/-! ## The trail -/

/-- The trail can be raised and put back. -/
def Usable (signal : Signal) : Prop :=
  signal.trail.available = true ∧ Trail.Valid signal.trail.state

theorem usable_restore {state : Trail.SignalTrailState} (valid : Trail.Valid state) :
    Trail.restore state = (.ok, { state }) :=
  Trail.restore_ok (Trail.validateSignalTrailState_iff.mpr valid)

variable {signal : Signal}

theorem Usable.sound (usable : Usable signal) : Trail.Sound signal.trail :=
  usable.1.trans (Trail.validateSignalTrailState_iff.mpr usable.2).symm

theorem process_usable (usable : Usable signal) (event : LogicalOperationEvent)
    (occurred : UInt8) :
    (Trail.process signal.trail event occurred).2.available = true ∧
      Trail.Valid (Trail.process signal.trail event occurred).2.state := by
  have available : (Trail.process signal.trail event occurred).2.available = true := by
    unfold Trail.process
    split <;> exact usable.1
  have sound : Trail.Sound (Trail.process signal.trail event occurred).2 :=
    Trail.process_sound usable.sound
  rw [Trail.Sound, available] at sound
  exact ⟨available, Trail.validateSignalTrailState_iff.mp sound.symm⟩

theorem rollBack_usable {advanced : Signal} (usable : Usable signal)
    (state : CoordinatorState) :
    Usable (advanced.rollBack state signal.trail.state) := by
  rw [Usable, Signal.rollBack, usable_restore usable.2]
  exact ⟨rfl, usable.2⟩

theorem trigger_usable (usable : Usable signal) (trigger : Trigger) :
    Usable (recordSuccessfulEncounterTrigger signal trigger) := by
  unfold recordSuccessfulEncounterTrigger
  split
  · exact usable
  dsimp only
  split
  · exact usable
  rename_i record coordinator _
  split
  · exact rollBack_usable usable _
  split
  · exact rollBack_usable usable _
  split
  · rcases persist_kept { signal with
      coordinator
      trail := (Trail.process signal.trail (nextEvent signal trigger.kind)
        record.encounterOccurred).2 } trigger.outcome with ⟨store, equal, _⟩
    rw [equal]
    exact process_usable usable _ _
  · exact rollBack_usable usable _

theorem merge_usable (usable : Usable signal) {value : UInt16}
    (bounded : value ≤ 20) (write : WriteOutcome) :
    Usable (mergeSharedTrail signal value write).2 ∧
      ((mergeSharedTrail signal value write).2.trail.state.missCount =
          signal.trail.state.missCount ∨
        signal.trail.state.missCount < value.toUInt8 ∧
          (mergeSharedTrail signal value write).2.trail.state.missCount = value.toUInt8) ∧
      (write = .written → signal.storageReady = true →
        signal.signalEncounterStateReady = true →
          (mergeSharedTrail signal value write).1 = true) := by
  have small : ¬ value > Trail.kSignalTrailMaximumMisses.toUInt16 := by
    rw [gt_iff_lt, UInt16.not_lt]
    exact bounded
  have fits : ¬ value.toUInt8 > Trail.kSignalTrailMaximumMisses := by
    rw [gt_iff_lt, UInt8.not_lt, UInt8.le_iff_toNat_le, UInt16.toNat_toUInt8]
    exact (Nat.mod_le _ _).trans bounded
  have sound : Trail.Sound (Trail.mergeSharedMissCount signal.trail value.toUInt8).2 :=
    Trail.mergeSharedMissCount_sound usable.sound
  rw [Trail.Sound, Trail.mergeSharedMissCount_available, usable.1] at sound
  have valid := Trail.validateSignalTrailState_iff.mp sound.symm
  by_cases above : value.toUInt8 ≤ signal.trail.state.missCount
  · have same : Trail.mergeSharedMissCount signal.trail value.toUInt8 =
        (.unchanged, signal.trail) := by
      simp [Trail.mergeSharedMissCount, usable.1, fits, above]
    simp only [mergeSharedTrail, small, same]
    exact ⟨usable, .inl rfl, fun _ _ _ => rfl⟩
  · rcases applied : Trail.mergeSharedMissCount signal.trail value.toUInt8 with ⟨status, trail⟩
    have raised : status = .applied ∧ trail.state.missCount = value.toUInt8 := by
      simp only [Trail.mergeSharedMissCount, usable.1, fits, above] at applied
      cases applied
      exact ⟨rfl, rfl⟩
    have available := @Trail.mergeSharedMissCount_available signal.trail value.toUInt8
    rw [applied] at valid available
    rcases persist_kept { signal with trail } write with ⟨store, equal, _⟩
    simp only [mergeSharedTrail, small, applied, raised.1, if_false]
    split
    · rw [equal]
      exact ⟨⟨available.trans usable.1, valid⟩, .inr ⟨UInt8.not_le.mp above, raised.2⟩,
        fun _ _ _ => rfl⟩
    · rename_i failed
      rw [equal, usable_restore usable.2]
      refine ⟨⟨rfl, usable.2⟩, .inl rfl, fun written powered ready => ?_⟩
      have checked := Trail.validateSignalTrailState_iff.mpr valid
      simp [persistSignalEncounterState, powered, ready, checked, written] at failed

/-! ## The social ledger -/

/-- The sessions that the ledger remembers, the last one first. -/
def recent (social : SocialProgression) : List UInt32 :=
  social.state.recentSessions.newestFirst

/-- The social record is valid and can be used. -/
structure Sociable (social : SocialProgression) : Prop where
  valid : Social.Restorable social
  available : social.available = true

theorem Sociable.restore {social : SocialProgression} (sociable : Sociable social) :
    (Social.restore social.state).2 = social := by
  rw [Social.restore_valid sociable.valid]
  rcases social with ⟨state, available⟩
  cases sociable.available
  rfl

theorem seenSession_iff {social : SocialProgression} (sociable : Sociable social)
    (nonce : UInt32) : Social.seenSession social.state nonce = true ↔ nonce ∈ recent social := by
  have filled := (Social.validateSocialState_iff.mp sociable.valid).1.sessions.filled
  rw [Social.seenSession, List.contains_iff_mem]
  constructor
  · intro used
    rcases (Kitsu.Lib.RingBuffer.mem_used _).mp used with ⟨slot, inside, rfl⟩
    exact (filled.forall_newestFirst (· ∈ recent social)).mp (fun _ member => member) slot inside
  · exact filled.mem_newestFirst

theorem Sociable.answer {social : SocialProgression} (sociable : Sociable social)
    (call : Social.Call) : Sociable (Social.answer social call).progression := by
  refine ⟨sociable.valid.step call, ?_⟩
  have stepped := Social.answer_stepped sociable.valid call
  generalize Social.answer social call = answered at stepped
  cases stepped with
  | refused refusal => exact sociable.available
  | accepted asked happens => rfl
  | restored asked => rfl

/-- The name under which a rare encounter is recorded. -/
def rareNonce (session : Session) : UInt32 :=
  Social.Purpose.rareEncounter.replayNonce session.rawNonce

/-- The name under which a shared trail is recorded. -/
def sharedNonce (session : Session) : UInt32 :=
  Social.Purpose.sharedTrail.replayNonce session.rawNonce

/-- A session is refused when it is remembered, and otherwise remembered and counted. -/
structure Recorded (social after : SocialProgression) (nonce : UInt32) (rare shared : UInt32) :
    Prop where
  sociable : Sociable after
  recent : recent after = (nonce :: recent social).take 8
  rare : after.state.cooperativeRareEncounters = rare
  shared : after.state.sharedTrailProgress = shared

variable {session : Session} {social : SocialProgression}

theorem recordSession_old {call : Social.Call} (sociable : Sociable social)
    (refused : (Social.answer social call).status = .duplicate) :
    recordSession social call = some (false, social) := by
  have stepped := Social.answer_stepped sociable.valid call
  simp only [recordSession]
  generalize Social.answer social call = answered at stepped refused ⊢
  cases stepped with
  | refused refusal =>
    cases refused
    rfl
  | accepted asked happens => contradiction
  | restored asked => contradiction

theorem remembered_recent (sociable : Sociable social) (state : Social.SocialState)
    (same : state.recentSessions = social.state.recentSessions) (nonce : UInt32) :
    (Social.refreshCrc (Social.rememberSession state nonce)).recentSessions.newestFirst =
      (nonce :: recent social).take 8 := by
  have filled := (Social.validateSocialState_iff.mp sociable.valid).1.sessions.filled
  show (state.recentSessions.push nonce).newestFirst = _
  rw [same]
  exact filled.newestFirst_push nonce

/-- The calls of both sessions answer by the memory alone. -/
theorem session_recorded {call : Social.Call} {nonce : UInt32} {counted : Social.SocialState}
    (sociable : Sociable social) (same : counted.recentSessions = social.state.recentSessions)
    (old : Social.seenSession social.state nonce = true →
      (Social.answer social call).status = .duplicate)
    (new : Social.seenSession social.state nonce = false →
      (Social.answer social call).status = .ok ∧
        (Social.answer social call).progression.state =
          Social.refreshCrc (Social.rememberSession counted nonce)) :
    (nonce ∈ recent social → recordSession social call = some (false, social)) ∧
    (nonce ∉ recent social → ∃ after, recordSession social call = some (true, after) ∧
      Recorded social after nonce counted.cooperativeRareEncounters
        counted.sharedTrailProgress) := by
  have seen := seenSession_iff sociable nonce
  constructor
  · intro member
    exact recordSession_old sociable (old (seen.mpr member))
  · intro absent
    rcases new (Bool.eq_false_iff.mpr (mt seen.mp absent)) with ⟨accepted, state⟩
    refine ⟨(Social.answer social call).progression, ?_, sociable.answer call, ?_, ?_, ?_⟩
    · simp only [recordSession, accepted]
    · rw [recent, state]
      exact remembered_recent sociable counted same nonce
    · rw [state]
      rfl
    · rw [state]
      rfl

theorem rare_recorded (sociable : Sociable social) (nonzero : session.rawNonce ≠ 0) :
    (rareNonce session ∈ recent social →
      recordSession social (.recordCooperativeRareEncounter session.rawNonce) =
        some (false, social)) ∧
    (rareNonce session ∉ recent social → ∃ after,
      recordSession social (.recordCooperativeRareEncounter session.rawNonce) =
        some (true, after) ∧ Recorded social after (rareNonce session)
        (Kitsu.Lib.saturatingAdd32 social.state.cooperativeRareEncounters 1)
        social.state.sharedTrailProgress) := by
  apply @session_recorded _ _ _ { social.state with
    cooperativeRareEncounters :=
      Kitsu.Lib.saturatingAdd32 social.state.cooperativeRareEncounters 1 } sociable rfl
  all_goals
    intro seen
    rw [rareNonce, Social.Purpose.replayNonce] at seen
    simp [Social.answer, Social.recordCooperativeRareEncounter, sociable.available, nonzero,
      seen, Social.Reply.answer, Social.accept, rareNonce, Social.Purpose.replayNonce]

theorem shared_recorded (sociable : Sociable social) (nonzero : session.rawNonce ≠ 0)
    (bounded : ¬ session.outcomeValue.toUInt8 > 20) :
    (sharedNonce session ∈ recent social →
      recordSession social (.recordSharedTrailResult session.rawNonce
        session.outcomeValue.toUInt8) = some (false, social)) ∧
    (sharedNonce session ∉ recent social → ∃ after,
      recordSession social (.recordSharedTrailResult session.rawNonce
        session.outcomeValue.toUInt8) = some (true, after) ∧
      Recorded social after (sharedNonce session) social.state.cooperativeRareEncounters
        (Kitsu.Lib.saturatingAdd32 social.state.sharedTrailProgress
          session.outcomeValue.toUInt8.toUInt32)) := by
  have formed : (session.rawNonce == 0 || decide (session.outcomeValue.toUInt8 > 20)) = false := by
    simpa [nonzero] using bounded
  apply @session_recorded _ _ _ { social.state with
    sharedTrailProgress := Kitsu.Lib.saturatingAdd32 social.state.sharedTrailProgress
      session.outcomeValue.toUInt8.toUInt32 } sociable rfl
  all_goals
    intro seen
    rw [sharedNonce, Social.Purpose.replayNonce] at seen
    simp only [Social.answer, Social.recordSharedTrailResult, sociable.available, formed,
      seen, Social.Reply.answer, Social.accept]
  · rfl
  · exact ⟨rfl, rfl⟩

/-- Neither session of the party was heard of, and nothing was counted. -/
structure Pending (session : Session) (start : World) (social : SocialProgression)
    (attempts : Nat) : Prop where
  rare : rareNonce session ∉ recent social
  shared : sharedNonce session ∉ recent social
  counts : social.state.cooperativeRareEncounters = start.rare ∧
    social.state.sharedTrailProgress = start.shared ∧ attempts = 0

/-- The sessions of the party are remembered for a while, and were counted. -/
structure Counted (session : Session) (start : World) (social : SocialProgression)
    (attempts depth : Nat) : Prop where
  rare : session.rareEncounter ≠ 0 → rareNonce session ∈ (recent social).take depth ∧
    social.state.cooperativeRareEncounters = start.rare + 1 ∧ attempts = 1
  ordinary : session.rareEncounter = 0 →
    social.state.cooperativeRareEncounters = start.rare ∧ attempts = 0
  shared : session.mode = .sharedTrail → sharedNonce session ∈ (recent social).take depth ∧
    social.state.sharedTrailProgress =
      Kitsu.Lib.saturatingAdd32 start.shared session.outcomeValue.toUInt8.toUInt32
  alone : session.mode ≠ .sharedTrail → social.state.sharedTrailProgress = start.shared

/-- The session is recorded or still to be. -/
def Known (session : Session) (start : World) (social : SocialProgression)
    (attempts : Nat) (rewarded : Bool) : Prop :=
  Pending session start social attempts ∨
    Counted session start social attempts (if rewarded then 8 else 7)

theorem recordSessions_counted {start : World} {attempts depth : Nat}
    (sociable : Sociable social) (nonzero : session.rawNonce ≠ 0)
    (bounded : ¬ session.outcomeValue.toUInt8 > 20)
    (counted : Counted session start social attempts depth) :
    recordSessions session social = some (false, social) := by
  have rare := (rare_recorded sociable nonzero).1
  have shared := (shared_recorded sociable nonzero bounded).1
  have first : recordRare session social = some (false, social) := by
    unfold recordRare
    split
    · rfl
    · rename_i wanted
      exact rare (List.mem_of_mem_take (counted.rare wanted).1)
  have second : recordShared session social = some (false, social) := by
    unfold recordShared
    split
    · rfl
    · rename_i wanted
      exact shared (List.mem_of_mem_take (counted.shared (not_not.mp wanted)).1)
  rw [recordSessions, first, Option.bind_some, second]
  rfl

/-- What the ledger is after the sessions of the party were recorded. -/
structure Entered (session : Session) (social after : SocialProgression) : Prop where
  sociable : Sociable after
  rare : session.rareEncounter ≠ 0 → rareNonce session ∈ (recent after).take 2 ∧
    after.state.cooperativeRareEncounters =
      Kitsu.Lib.saturatingAdd32 social.state.cooperativeRareEncounters 1
  ordinary : session.rareEncounter = 0 →
    after.state.cooperativeRareEncounters = social.state.cooperativeRareEncounters
  shared : session.mode = .sharedTrail → sharedNonce session ∈ (recent after).take 2 ∧
    after.state.sharedTrailProgress = Kitsu.Lib.saturatingAdd32
      social.state.sharedTrailProgress session.outcomeValue.toUInt8.toUInt32
  alone : session.mode ≠ .sharedTrail →
    after.state.sharedTrailProgress = social.state.sharedTrailProgress

theorem recordSessions_pending (sociable : Sociable social)
    (nonzero : session.rawNonce ≠ 0) (bounded : ¬ session.outcomeValue.toUInt8 > 20)
    (apart : rareNonce session ≠ sharedNonce session)
    (rare : rareNonce session ∉ recent social) (shared : sharedNonce session ∉ recent social) :
    (session.rareEncounter = 0 ∧ session.mode ≠ .sharedTrail ∧
      recordSessions session social = some (false, social)) ∨
    (session.rareEncounter ≠ 0 ∨ session.mode = .sharedTrail) ∧
      ∃ after, recordSessions session social = some (true, after) ∧
        Entered session social after := by
  by_cases wanted : session.rareEncounter = 0
  · have first : recordRare session social = some (false, social) := if_pos wanted
    by_cases trail : session.mode = .sharedTrail
    · rcases (shared_recorded sociable nonzero bounded).2 shared with ⟨after, second, recorded⟩
      have second : recordShared session social = some (true, after) :=
        (if_neg (not_not.mpr trail)).trans second
      refine .inr ⟨.inr trail, after, by simp [recordSessions, first, second], recorded.sociable,
        fun rare => absurd wanted rare, fun _ => recorded.rare, fun _ => ⟨?_, recorded.shared⟩,
        fun alone => absurd trail alone⟩
      simp [recorded.recent]
    · have second : recordShared session social = some (false, social) := if_pos trail
      exact .inl ⟨wanted, trail, by simp [recordSessions, first, second]⟩
  · rcases (rare_recorded sociable nonzero).2 rare with ⟨middle, first, entered⟩
    have first : recordRare session social = some (true, middle) :=
      (if_neg wanted).trans first
    by_cases trail : session.mode = .sharedTrail
    · have unheard : sharedNonce session ∉ recent middle := by
        rw [entered.recent]
        intro member
        rcases List.mem_cons.mp (List.mem_of_mem_take member) with same | member
        · exact apart same.symm
        · exact shared member
      rcases (shared_recorded entered.sociable nonzero bounded).2 unheard with
        ⟨after, second, recorded⟩
      have second : recordShared session middle = some (true, after) :=
        (if_neg (not_not.mpr trail)).trans second
      refine .inr ⟨.inl wanted, after, by simp [recordSessions, first, second],
        recorded.sociable, fun _ => ⟨?_, recorded.rare.trans entered.rare⟩,
        fun ordinary => absurd ordinary wanted, fun _ => ⟨?_, ?_⟩,
        fun alone => absurd trail alone⟩
      · simp [recorded.recent, entered.recent]
      · simp [recorded.recent]
      · rw [recorded.shared, entered.shared]
    · have second : recordShared session middle = some (false, middle) := if_pos trail
      refine .inr ⟨.inl wanted, middle, by simp [recordSessions, first, second],
        entered.sociable, fun _ => ⟨?_, entered.rare⟩, fun ordinary => absurd ordinary wanted,
        fun shared => absurd shared trail, fun _ => entered.shared⟩
      simp [entered.recent]

theorem beginDay_counts (state : Social.SocialState) (dayId : UInt32) :
    (Social.beginDay state dayId).cooperativeRareEncounters = state.cooperativeRareEncounters ∧
      (Social.beginDay state dayId).sharedTrailProgress = state.sharedTrailProgress := by
  unfold Social.beginDay
  split <;> exact ⟨rfl, rfl⟩

/-- The reward counts nothing here, and is remembered as a session of its own. -/
structure Rewarded (session : Session) (social after : SocialProgression) : Prop where
  sociable : Sociable after
  recent : recent after = recent social ∨
    recent after = (socialNonce session.rawNonce :: recent social).take 8
  rare : after.state.cooperativeRareEncounters = social.state.cooperativeRareEncounters
  shared : after.state.sharedTrailProgress = social.state.sharedTrailProgress

theorem answer_rewarded (sociable : Sociable social) {request : Social.PartyRewardRequest}
    (named : request.sessionNonce = socialNonce session.rawNonce) :
    Rewarded session social
      (Social.answer social (.recordPartyRewards request)).progression := by
  have kept := sociable.answer (.recordPartyRewards request)
  have stepped := Social.answer_stepped sociable.valid (.recordPartyRewards request)
  generalize Social.answer social (.recordPartyRewards request) = answered at kept stepped ⊢
  cases stepped with
  | refused refusal => exact ⟨sociable, .inl rfl, rfl, rfl⟩
  | restored asked => contradiction
  | accepted asked happens =>
    have newest := happens.newestFirst (Social.validateSocialState_iff.mp sociable.valid).1
    cases asked
    cases happens with
    | rewarded parties rewardable unseen written =>
      refine ⟨kept, .inr ?_, (beginDay_counts _ _).1, (beginDay_counts _ _).2⟩
      rw [← named]
      exact newest

theorem answer_contributed (sociable : Sociable social) (dayId : UInt32) :
    let after := (Social.answer social (.contributeDailyChallenge dayId 1 3)).progression
    Rewarded session social after ∧ recent after = recent social := by
  have kept := sociable.answer (.contributeDailyChallenge dayId 1 3)
  have stepped := Social.answer_stepped sociable.valid (.contributeDailyChallenge dayId 1 3)
  generalize Social.answer social (.contributeDailyChallenge dayId 1 3) = answered
    at kept stepped ⊢
  cases stepped with
  | refused refusal => exact ⟨⟨sociable, .inl rfl, rfl, rfl⟩, rfl⟩
  | restored asked => contradiction
  | accepted asked happens =>
    cases asked
    cases happens with
    | contributed day chosen forward agreed =>
      have same := congrArg Kitsu.Lib.RingBuffer.newestFirst
        (Social.beginDay_sessions social.state dayId)
      exact ⟨⟨kept, .inl same, (beginDay_counts _ _).1, (beginDay_counts _ _).2⟩, same⟩

/-! ## Steps -/

variable {start world : World} {tick : Tick}

/-- What the social part leaves, and when it is applied. -/
structure SocialPart (session : Session) (start world : World) (tick : Tick)
    (answer : Bool × World) : Prop where
  frame : answer.2 = { world with
    social := answer.2.social, signal := answer.2.signal, attempts := answer.2.attempts }
  sociable : Sociable answer.2.social
  usable : Usable answer.2.signal
  known : Known session start answer.2.social answer.2.attempts world.rewarded
  refused : answer.1 = false → answer.2.signal = world.signal
  applied : world.socialProgressionReady = false ∨ tick.socialStored = true ∨
    world.attempts ≠ 0 ∨ session.rareEncounter = 0 ∧ session.mode ≠ .sharedTrail →
      answer.1 = true

theorem Entered.counted {after : SocialProgression} {attempts depth : Nat}
    (begins : Begins session start) (pending : Pending session start social attempts)
    (entered : Entered session social after) (deep : 2 ≤ depth) :
    Counted session start after
      (if session.rareEncounter = 0 then attempts else attempts + 1) depth := by
  rcases pending.counts with ⟨rare, shared, rfl⟩
  have deeper {nonce : UInt32} (member : nonce ∈ (recent after).take 2) :
      nonce ∈ (recent after).take depth :=
    List.take_subset_take_left _ deep member
  constructor
  · intro wanted
    have next : Kitsu.Lib.saturatingAdd32 start.rare 1 = start.rare + 1 := by
      have below : start.rare.toNat ≠ 2 ^ 32 - 1 := by
        intro full
        exact begins.below (UInt32.toNat_inj.mp full)
      have bounded := start.rare.toNat_lt
      rw [← UInt32.toNat_inj, Kitsu.Lib.toNat_saturatingAdd32, UInt32.toNat_add]
      show min (start.rare.toNat + 1) (2 ^ 32 - 1) = (start.rare.toNat + 1) % 2 ^ 32
      omega
    rw [if_neg wanted]
    refine ⟨deeper (entered.rare wanted).1, ?_, rfl⟩
    rw [(entered.rare wanted).2, rare, next]
  · intro ordinary
    rw [if_pos ordinary]
    exact ⟨(entered.ordinary ordinary).trans rare, rfl⟩
  · intro trail
    refine ⟨deeper (entered.shared trail).1, ?_⟩
    rw [(entered.shared trail).2, shared]
  · intro alone
    exact (entered.alone alone).trans shared

theorem socialPart (begins : Begins session start) (sociable : Sociable world.social)
    (usable : Usable world.signal)
    (known : Known session start world.social world.attempts world.rewarded) :
    SocialPart session start world tick (applySocialPart session world tick) := by
  have bounded : ¬ session.outcomeValue.toUInt8 > 20 := by
    have value := begins.value
    rw [gt_iff_lt, UInt8.not_lt, UInt8.le_iff_toNat_le, UInt16.toNat_toUInt8]
    exact (Nat.mod_le _ _).trans value
  have apart : rareNonce session ≠ sharedNonce session := by
    have distinct := begins.distinct
    simp only [List.nodup_cons, List.mem_cons, not_or] at distinct
    exact distinct.1.1
  have unchanged : SocialPart session start world tick (true, world) :=
    ⟨rfl, sociable, usable, known, nofun, fun _ => rfl⟩
  unfold applySocialPart
  split
  · exact unchanged
  rename_i ready
  have old : recordSessions session world.social = some (false, world.social) →
      SocialPart session start world tick
        (settleSessions session world tick (recordSessions session world.social)) := by
    intro recorded
    rw [recorded]
    exact unchanged
  rcases known with pending | counted
  · rcases recordSessions_pending sociable begins.nonce bounded apart pending.rare
      pending.shared with ⟨_, _, recorded⟩ | ⟨wanted, after, recorded, entered⟩
    · exact old recorded
    · rw [recorded, settleSessions]
      have accepted : Social.validateSocialState after.state = true := entered.sociable.valid
      rcases stored : tick.socialStored
      · -- The ledger is put back as it was before the sessions.
        simp only [accepted, Bool.and_false, Bool.not_false, Bool.and_true, if_true,
          sociable.restore]
        refine ⟨rfl, sociable, usable, .inl pending, fun _ => rfl, ?_⟩
        rintro (unready | written | attempted | ⟨ordinary, alone⟩)
        · exact absurd unready (by simpa using ready)
        · exact absurd (written.symm.trans stored) nofun
        · exact absurd pending.counts.2.2 attempted
        · rcases wanted with rare | shared
          · exact absurd ordinary rare
          · exact absurd shared alone
      · have counted : Counted session start after
            (if session.rareEncounter = 0 then world.attempts else world.attempts + 1)
            (if world.rewarded then 8 else 7) :=
          entered.counted begins pending (by split <;> decide)
        simp only [accepted, Bool.and_true, Bool.not_true, Bool.and_false]
        by_cases ordinary : session.rareEncounter = 0
        · rw [if_pos ordinary] at counted
          simp only [ordinary, bne_self_eq_false, Bool.and_false]
          exact ⟨rfl, entered.sociable, usable, .inr counted, nofun, fun _ => rfl⟩
        · rw [if_neg ordinary] at counted
          have rare : (session.rareEncounter != 0) = true := bne_iff_ne.mpr ordinary
          rw [rare]
          exact ⟨rfl, entered.sociable, trigger_usable usable _, .inr counted, nofun,
            fun _ => rfl⟩
  · exact old (recordSessions_counted sociable begins.nonce bounded counted)

/-- The live trail and the ledger together. -/
structure OutcomePart (session : Session) (start world : World) (tick : Tick)
    (answer : Bool × World) : Prop where
  frame : answer.2 = { world with
    social := answer.2.social, signal := answer.2.signal, attempts := answer.2.attempts,
    raises := answer.2.raises }
  sociable : Sociable answer.2.social
  usable : Usable answer.2.signal
  known : Known session start answer.2.social answer.2.attempts world.rewarded
  raised : answer.2.raises = 0 ∨ session.mode = .sharedTrail ∧ answer.2.raises = 1 ∧
    (answer.1 = false → session.outcomeValue.toUInt8 ≤ answer.2.missCount)
  applied : (session.mode = .sharedTrail → tick.signalWrite = .written ∧
      world.signal.storageReady = true ∧ world.signal.signalEncounterStateReady = true) →
    (world.socialProgressionReady = false ∨ tick.socialStored = true ∨
      world.attempts ≠ 0 ∨ session.rareEncounter = 0 ∧ session.mode ≠ .sharedTrail) →
    answer.1 = true

theorem outcomePart (begins : Begins session start) (sociable : Sociable world.social)
    (usable : Usable world.signal)
    (known : Known session start world.social world.attempts world.rewarded)
    (raised : world.raises = 0 ∨ session.mode = .sharedTrail ∧ world.raises = 1 ∧
      session.outcomeValue.toUInt8 ≤ world.missCount) :
    OutcomePart session start world tick (applyModePartySocialOutcome session world tick) := by
  unfold applyModePartySocialOutcome
  split
  · rename_i shared
    rcases merged : mergeSharedTrail world.signal session.outcomeValue tick.signalWrite with
      ⟨applied, signal⟩
    have merge := merge_usable usable begins.value tick.signalWrite
    rw [merged] at merge
    rcases merge with ⟨kept, moved, written⟩
    dsimp only at kept moved written ⊢
    generalize count : (if world.signal.trail.state.missCount < signal.trail.state.missCount
      then world.raises + 1 else world.raises) = raises
    have once : raises = 0 ∨ raises = 1 ∧
        session.outcomeValue.toUInt8 ≤ signal.trail.state.missCount := by
      rcases moved with same | ⟨below, reached⟩
      · rw [same, if_neg (UInt8.lt_irrefl _)] at count
        rw [same, ← count]
        exact raised.imp id And.right
      · rw [reached, if_pos below] at count
        rcases raised with zero | ⟨_, _, above⟩
        · rw [zero] at count
          exact .inr ⟨count.symm, reached ▸ UInt8.le_refl _⟩
        · exact absurd below (UInt8.not_lt.mpr above)
    split
    · rename_i failed
      refine ⟨rfl, sociable, kept, known, once.imp id fun one => ⟨shared, one.1, fun _ => one.2⟩,
        fun allowed _ => ?_⟩
      rcases allowed shared with ⟨write, powered, ready⟩
      rw [written write powered ready] at failed
      contradiction
    · have part : SocialPart session start { world with signal, raises } tick
          (applySocialPart session { world with signal, raises } tick) :=
        socialPart begins sociable kept known
      have same : (applySocialPart session { world with signal, raises } tick).2.raises =
          raises := by
        rw [part.frame]
      refine ⟨part.frame.trans ?_, part.sociable, part.usable, part.known, ?_,
        fun _ allowed => part.applied allowed⟩
      · rw [same]
      · rw [same]
        refine once.imp id fun one => ⟨shared, one.1, fun refused => ?_⟩
        rw [World.missCount, part.refused refused]
        exact one.2
  · rename_i other
    have part : SocialPart session start world tick (applySocialPart session world tick) :=
      socialPart begins sociable usable known
    have same : (applySocialPart session world tick).2.raises = world.raises := by
      rw [part.frame]
    refine ⟨part.frame.trans ?_, part.sociable, part.usable, part.known, ?_,
      fun _ allowed => part.applied allowed⟩
    · rw [same]
    · rw [same]
      exact raised.imp id fun one => absurd one.1 other

/-- A story that was resolved is not there any more, and its vote was applied. -/
structure StoryPart (session : Session) (world : World) (tick : Tick)
    (answer : Bool × World) : Prop where
  frame : answer.2 = { world with
    stories := answer.2.stories, choices := answer.2.choices }
  told : answer.2.choices = world.choices ∧
      answer.2.stories.activeStory = world.stories.activeStory ∨
    answer.2.choices = world.choices + 1 ∧ session.mode = .storyVote ∧ Tells world tick ∧
      answer.1 = true
  applied : (session.mode = .storyVote → world.dialogueStateReady = true ∧
      world.stories.activeStory.isSome = true ∧ tick.advanceStored = true) →
    answer.1 = true

theorem storyPart (begins : Begins session start) :
    StoryPart session world tick
      (if session.mode = .storyVote then applyModePartyStoryVote session world tick
        else (true, world)) := by
  split
  · rename_i vote
    unfold applyModePartyStoryVote
    split
    · rename_i refused
      refine ⟨rfl, .inl ⟨rfl, rfl⟩, fun allowed => ?_⟩
      have chosen : ¬ session.storyChoice ≥ 3 := UInt8.not_le.mpr begins.choice
      simp [(allowed vote).1, chosen] at refused
    rename_i ready
    have dialogue : world.dialogueStateReady = true := by
      by_contra unready
      simp [unready] at ready
    split
    · rename_i absent
      refine ⟨rfl, .inl ⟨rfl, rfl⟩, fun allowed => ?_⟩
      have present := (allowed vote).2.1
      rw [absent] at present
      contradiction
    split
    · rename_i stuck
      refine ⟨rfl, .inl ⟨rfl, rfl⟩, fun allowed => ?_⟩
      simp [(allowed vote).2.2] at stuck
    rename_i moved
    split
    · rename_i written
      rw [Bool.and_eq_true] at written
      refine ⟨rfl, .inr ⟨rfl, vote, ⟨dialogue, written.1, written.2, ?_⟩, rfl⟩, fun _ => rfl⟩
      rcases awaits : world.stories.awaitsChoice
      · simpa [awaits] using moved
      · exact .inl rfl
    · exact ⟨rfl, .inl ⟨rfl, rfl⟩, fun _ => rfl⟩
  · exact ⟨rfl, .inl ⟨rfl, rfl⟩, fun _ => rfl⟩

/-! ## Runs -/

/-- What is true of the session between its ticks. -/
structure Kept (session : Session) (start world : World) : Prop where
  usable : Usable world.signal
  sociable : Sociable world.social
  known : Known session start world.social world.attempts world.rewarded
  raised : world.raises = 0 ∨ session.mode = .sharedTrail ∧ world.raises = 1 ∧
    (world.handled = false → session.outcomeValue.toUInt8 ≤ world.missCount)
  told : world.choices ≤ 1
  begun : world.handled = true → world.celebrated = true
  waiting : world.handled = false → world.choices = 0 ∧
    (session.mode = .storyVote → world.celebrated = true →
      world.stories.activeStory.isSome = true)

theorem Begins.kept (begins : Begins session start) : Kept session start start := by
  rcases begins.blank with ⟨celebrated, _, handled, raises, attempts, choices⟩
  constructor
  · exact begins.usable
  · exact ⟨begins.social.1, begins.social.2⟩
  · refine .inl ⟨fun member => ?_, fun member => ?_, rfl, rfl, attempts⟩
    · exact absurd (begins.unheard _ member) nofun
    · exact absurd (begins.unheard _ member) nofun
  · exact .inl raises
  · rw [choices]
    exact Nat.zero_le 1
  · intro done
    rw [handled] at done
    contradiction
  · intro _
    refine ⟨choices, fun _ shown => ?_⟩
    rw [celebrated] at shown
    contradiction

theorem Kept.trigger (kept : Kept session start world) {trigger : Trigger}
    (fits : Fits session world (.trigger trigger)) :
    Kept session start (step session world (.trigger trigger)) where
  usable := trigger_usable kept.usable trigger
  sociable := kept.sociable
  known := kept.known
  raised := by
    refine kept.raised.imp id fun raised => ⟨raised.1, raised.2.1, fun waiting => ?_⟩
    exact fits waiting (by
      rw [raised.2.1]
      exact Nat.one_ne_zero)
  told := kept.told
  begun := kept.begun
  waiting := kept.waiting

theorem Kept.celebration (kept : Kept session start world)
    (fits : Fits session world (.tick tick)) :
    Kept session start (showPartyCompletion world tick) := by
  unfold showPartyCompletion
  split
  · exact kept
  · rename_i waits
    have uncelebrated : world.celebrated = false := Bool.eq_false_iff.mpr waits
    refine { kept with
      begun := fun _ => rfl, waiting := fun waiting => ⟨(kept.waiting waiting).1, ?_⟩ }
    intro vote _
    dsimp only
    split
    · rfl
    · rename_i kind
      rcases (fits waiting vote).1 uncelebrated with active | ⟨ready, stored⟩
      · exact active
      · by_contra absent
        simp [ready, stored, Option.not_isSome_iff_eq_none.mp absent] at kind

theorem Known.rewarded {after : SocialProgression} {attempts : Nat}
    (begins : Begins session start) (known : Known session start social attempts false)
    (rewarded : Rewarded session social after) : Known session start after attempts true := by
  have distinct := begins.distinct
  simp only [List.nodup_cons, List.mem_cons, not_or] at distinct
  have unheard {nonce : UInt32} (apart : nonce ≠ socialNonce session.rawNonce)
      (absent : nonce ∉ recent social) : nonce ∉ recent after := by
    rcases rewarded.recent with same | pushed
    · rwa [same]
    · rw [pushed]
      intro member
      rcases List.mem_cons.mp (List.mem_of_mem_take member) with same | member
      · exact apart same
      · exact absent member
  have deeper {nonce : UInt32} (member : nonce ∈ (recent social).take 7) :
      nonce ∈ (recent after).take 8 := by
    rcases rewarded.recent with same | pushed
    · rw [same]
      exact List.take_subset_take_left _ (by decide) member
    · rw [pushed, List.take_take]
      exact List.mem_cons_of_mem _ member
  refine known.imp (fun pending => ?_) fun counted => ?_
  · refine ⟨unheard distinct.1.2.1 pending.rare, unheard distinct.2.1.1 pending.shared, ?_⟩
    rw [rewarded.rare, rewarded.shared]
    exact pending.counts
  · constructor
    · intro wanted
      rw [rewarded.rare]
      exact ⟨deeper (counted.rare wanted).1, (counted.rare wanted).2⟩
    · intro ordinary
      rw [rewarded.rare]
      exact counted.ordinary ordinary
    · intro trail
      rw [rewarded.shared]
      exact ⟨deeper (counted.shared trail).1, (counted.shared trail).2⟩
    · intro alone
      rw [rewarded.shared]
      exact counted.alone alone

/-- The reward of the party touches the ledger, and none of the counters of its outcome. -/
structure RewardPart (session : Session) (start world after : World) : Prop where
  frame : after = { world with social := after.social, rewarded := after.rewarded }
  sociable : Sociable after.social
  known : Known session start after.social world.attempts after.rewarded
  counts : after.rare = world.rare ∧ after.shared = world.shared

theorem rewardPart (begins : Begins session start) (sociable : Sociable world.social)
    (known : Known session start world.social world.attempts world.rewarded)
    (reward : Option Reward) :
    RewardPart session start world (recordPartyReward session world reward) := by
  have unchanged : RewardPart session start world world := ⟨rfl, sociable, known, rfl, rfl⟩
  unfold recordPartyReward
  split
  · exact unchanged
  rename_i reward
  split
  · exact unchanged
  rename_i first
  rw [Bool.eq_false_iff.mpr first] at known
  split
  · exact ⟨rfl, sociable, known.rewarded begins ⟨sociable, .inl rfl, rfl, rfl⟩, rfl, rfl⟩
  · dsimp only
    let request := { reward.request with sessionNonce := socialNonce session.rawNonce }
    have paid : Rewarded session world.social
        (Social.answer world.social (.recordPartyRewards request)).progression :=
      answer_rewarded sociable rfl
    have shared := @answer_contributed session _ paid.sociable reward.request.dayId
    have both : Rewarded session world.social (Social.answer (Social.answer world.social
        (.recordPartyRewards request)).progression
        (.contributeDailyChallenge reward.request.dayId 1 3)).progression := by
      refine ⟨shared.1.sociable, ?_, shared.1.rare.trans paid.rare,
        shared.1.shared.trans paid.shared⟩
      rw [shared.2]
      exact paid.recent
    split
    · rw [sociable.restore]
      exact ⟨rfl, sociable, known.rewarded begins ⟨sociable, .inl rfl, rfl, rfl⟩, rfl, rfl⟩
    · exact ⟨rfl, both.sociable, known.rewarded begins both, both.rare, both.shared⟩

/-- The session is looked at from here on when it is not yet handled. -/
def opened (session : Session) (world : World) (tick : Tick) : World :=
  recordPartyReward session (showPartyCompletion world tick) tick.reward

theorem showPartyCompletion_frame :
    showPartyCompletion world tick = { world with
      celebrated := true, stories := (showPartyCompletion world tick).stories } := by
  unfold showPartyCompletion
  split
  · rename_i celebrated
    rcases world with ⟨_, _, _, _, _, _⟩
    cases celebrated
    rfl
  · rfl

theorem opened_frame (begins : Begins session start) (kept : Kept session start world)
    (fits : Fits session world (.tick tick)) :
    opened session world tick = { world with
      celebrated := true, stories := (showPartyCompletion world tick).stories
      social := (opened session world tick).social
      rewarded := (opened session world tick).rewarded } := by
  have celebration := kept.celebration fits
  have part := rewardPart begins celebration.sociable celebration.known tick.reward
  rw [opened]
  generalize recordPartyReward session (showPartyCompletion world tick) tick.reward = after
    at part ⊢
  exact part.frame.trans (congrArg (fun shown : World => { shown with
    social := after.social, rewarded := after.rewarded }) showPartyCompletion_frame)

theorem Kept.opening (begins : Begins session start) (kept : Kept session start world)
    (fits : Fits session world (.tick tick)) :
    Kept session start (opened session world tick) := by
  have celebration := kept.celebration fits
  have part := rewardPart begins celebration.sociable celebration.known tick.reward
  have frame := part.frame
  rw [opened, frame]
  exact { celebration with sociable := part.sociable, known := part.known }

theorem Tells.before (tells : Tells (opened session world tick) tick)
    (dialogue : (opened session world tick).dialogueStateReady = world.dialogueStateReady)
    (stories : (opened session world tick).stories = (showPartyCompletion world tick).stories) :
    Tells world tick := by
  rcases tells with ⟨ready, care, story, moved⟩
  refine ⟨dialogue ▸ ready, care, story, moved.imp (fun awaits => ?_) id⟩
  rw [stories, showPartyCompletion] at awaits
  split at awaits
  · exact awaits
  · dsimp only at awaits
    split at awaits
    · exact absurd awaits nofun
    · exact awaits

theorem finish_handled (nonzero : session.rawNonce ≠ 0)
    (done : (opened session world tick).handled = true) :
    finishModePartyIfComplete session world tick = opened session world tick :=
  (if_neg nonzero).trans (if_pos done)

theorem finish_waiting (nonzero : session.rawNonce ≠ 0)
    (waits : ¬ (opened session world tick).handled = true) :
    finishModePartyIfComplete session world tick =
      let outcome := applyModePartySocialOutcome session (opened session world tick) tick
      let story := if session.mode = .storyVote then
          applyModePartyStoryVote session outcome.2 tick
        else (true, outcome.2)
      { story.2 with handled := outcome.1 && story.1 } :=
  (if_neg nonzero).trans (if_neg waits)

/-- A tick of a session that is not yet handled, up to its two answers. -/
structure Worked (session : Session) (start world : World) (tick : Tick)
    (outcome story : Bool × World) : Prop where
  after : finishModePartyIfComplete session world tick =
    { story.2 with handled := outcome.1 && story.1 }
  outcomePart : OutcomePart session start (opened session world tick) tick outcome
  storyPart : StoryPart session outcome.2 tick story

theorem Kept.worked (begins : Begins session start) (kept : Kept session start world)
    (fits : Fits session world (.tick tick)) (waits : world.handled = false) :
    ∃ outcome story, Worked session start world tick outcome story := by
  have frame := opened_frame begins kept fits
  have waiting : (opened session world tick).handled = false := by
    rw [frame]
    exact waits
  have opening := kept.opening begins fits
  exact ⟨_, _, finish_waiting begins.nonce (Bool.eq_false_iff.mp waiting),
    outcomePart begins opening.sociable opening.usable opening.known
      (opening.raised.imp id fun raised => ⟨raised.1, raised.2.1, raised.2.2 waiting⟩),
    storyPart begins⟩

theorem Worked.applied {outcome story : Bool × World} (begins : Begins session start)
    (kept : Kept session start world) (fits : Fits session world (.tick tick))
    (worked : Worked session start world tick outcome story)
    (trail : session.mode = .sharedTrail → tick.signalWrite = .written ∧
      world.signal.storageReady = true ∧ world.signal.signalEncounterStateReady = true)
    (ledger : world.socialProgressionReady = false ∨ tick.socialStored = true ∨
      world.attempts ≠ 0 ∨ session.rareEncounter = 0 ∧ session.mode ≠ .sharedTrail) :
    outcome.1 = true := by
  have frame := opened_frame begins kept fits
  apply worked.outcomePart.applied
  · rw [frame]
    exact trail
  · rw [frame]
    exact ledger

/-- The story that the vote finds is the one that the session opened with. -/
theorem Worked.stories {outcome story : Bool × World}
    (worked : Worked session start world tick outcome story) :
    outcome.2.stories = (opened session world tick).stories ∧
      outcome.2.dialogueStateReady = (opened session world tick).dialogueStateReady ∧
      outcome.2.choices = (opened session world tick).choices := by
  have frame := worked.outcomePart.frame
  refine ⟨?_, ?_, ?_⟩
  all_goals rw [frame]

theorem Worked.handled {outcome story : Bool × World} (begins : Begins session start)
    (kept : Kept session start world) (fits : Fits session world (.tick tick))
    (waits : world.handled = false)
    (worked : Worked session start world tick outcome story)
    (told : session.mode = .storyVote ∧ Tells outcome.2 tick ∧ story.1 = true) :
    (outcome.1 && story.1) = true := by
  have frame := opened_frame begins kept fits
  rcases worked.stories with ⟨stories, dialogue, _⟩
  have tells : Tells (opened session world tick) tick := by
    rw [Tells, ← stories, ← dialogue]
    exact told.2.1
  have before : Tells world tick := by
    apply tells.before
    · rw [frame]
    · rw [frame]
  have other : session.mode ≠ .sharedTrail := by
    rw [told.1]
    nofun
  have applied := worked.applied begins kept fits (fun shared => absurd shared other) (by
    rcases (fits waits told.1).2 before with ordinary | unready | attempted | written
    · exact .inr (.inr (.inr ⟨ordinary, other⟩))
    · exact .inl unready
    · exact .inr (.inr (.inl attempted))
    · exact .inr (.inl written))
  rw [applied, told.2.2]
  rfl

theorem Kept.finish (begins : Begins session start) (kept : Kept session start world)
    (fits : Fits session world (.tick tick)) :
    Kept session start (finishModePartyIfComplete session world tick) := by
  have opening := kept.opening begins fits
  have frame := opened_frame begins kept fits
  rcases waits : world.handled
  · rcases kept.worked begins fits waits with ⟨outcome, story, worked⟩
    have waiting : (opened session world tick).handled = false := by
      rw [frame]
      exact waits
    have shown : (opened session world tick).celebrated = true := by
      rw [frame]
    have signal : story.2.signal = outcome.2.signal := by rw [worked.storyPart.frame]
    have social : story.2.social = outcome.2.social := by rw [worked.storyPart.frame]
    have attempts : story.2.attempts = outcome.2.attempts := by rw [worked.storyPart.frame]
    have raises : story.2.raises = outcome.2.raises := by rw [worked.storyPart.frame]
    have rewarded : story.2.rewarded =
        (opened session world tick).rewarded := by
      rw [worked.storyPart.frame, worked.outcomePart.frame]
    have celebrated : story.2.celebrated = true := by
      rw [worked.storyPart.frame, worked.outcomePart.frame]
      exact shown
    rcases worked.stories with ⟨stories, _, choices⟩
    rcases opening.waiting waiting with ⟨untold, active⟩
    rw [worked.after]
    constructor
    · exact signal ▸ worked.outcomePart.usable
    · exact social ▸ worked.outcomePart.sociable
    · show Known session start story.2.social story.2.attempts story.2.rewarded
      rw [social, attempts, rewarded]
      exact worked.outcomePart.known
    · show story.2.raises = 0 ∨ session.mode = .sharedTrail ∧ story.2.raises = 1 ∧
        ((outcome.1 && story.1) = false →
          session.outcomeValue.toUInt8 ≤ story.2.signal.trail.state.missCount)
      rw [raises, signal]
      refine worked.outcomePart.raised.imp id fun raised =>
        ⟨raised.1, raised.2.1, fun unhandled => raised.2.2 ?_⟩
      have applied := worked.storyPart.applied fun vote => by
        rw [raised.1] at vote
        contradiction
      rwa [applied, Bool.and_true] at unhandled
    · show story.2.choices ≤ 1
      rcases worked.storyPart.told with told | told
      · rw [told.1, choices, untold]
        exact Nat.zero_le 1
      · rw [told.1, choices, untold]
    · exact fun _ => celebrated
    · intro unhandled
      rcases worked.storyPart.told with told | told
      · refine ⟨told.1.trans (choices.trans untold), fun vote _ => ?_⟩
        rw [told.2, stories]
        exact active vote shown
      · have handled := worked.handled begins kept fits waits told.2
        rw [handled] at unhandled
        contradiction
  · rw [finish_handled begins.nonce]
    · exact opening
    · rw [frame]
      exact waits

/-- A tick whose writes are all made is one that fits. -/
theorem AllWritten.fits (all : AllWritten world tick) : Fits session world (.tick tick) := by
  intro _ _
  exact ⟨fun _ => .inr ⟨all.dialogue, all.start⟩, fun _ => .inr (.inr (.inr all.social))⟩

theorem Kept.finishes (begins : Begins session start) (kept : Kept session start world)
    (all : AllWritten world tick) :
    (finishModePartyIfComplete session world tick).handled = true := by
  have fits : Fits session world (.tick tick) := all.fits
  have frame := opened_frame begins kept fits
  rcases waits : world.handled
  · rcases kept.worked begins fits waits with ⟨outcome, story, worked⟩
    have applied := worked.applied begins kept fits
      (fun _ => ⟨all.signalWrite, all.storage, all.signal⟩) (.inr (.inl all.social))
    have told := worked.storyPart.applied fun vote => by
      rcases worked.stories with ⟨stories, dialogue, _⟩
      have shown : (opened session world tick).celebrated = true := by
        rw [frame]
      have waiting : (opened session world tick).handled = false := by
        rw [frame]
        exact waits
      refine ⟨?_, ?_, all.advance⟩
      · rw [dialogue, frame]
        exact all.dialogue
      · rw [stories]
        exact ((kept.opening begins fits).waiting waiting).2 vote shown
    rw [worked.after]
    rw [applied, told]
    rfl
  · have done : (opened session world tick).handled = true := by
      rw [frame]
      exact waits
    rw [finish_handled begins.nonce done]
    exact done

theorem Kept.once (begins : Begins session start) (kept : Kept session start world) :
    Once session start world where
  raises := by
    rcases kept.raised with zero | ⟨_, one, _⟩
    · rw [zero]
      exact Nat.zero_le 1
    · exact one.le
  choices := kept.told
  attempts := by
    rcases kept.known with pending | counted
    · exact .inl ⟨pending.counts.1, pending.counts.2.2⟩
    · by_cases ordinary : session.rareEncounter = 0
      · exact .inl (counted.ordinary ordinary)
      · exact .inr (counted.rare ordinary).2
  shared := by
    rcases kept.known with pending | counted
    · exact .inl pending.counts.2.1
    · by_cases trail : session.mode = .sharedTrail
      · exact .inr (counted.shared trail).2
      · exact .inl (counted.alone trail)
  handled := by
    intro done tick
    have fits : Fits session world (.tick tick) := fun waits => by
      rw [done] at waits
      contradiction
    have frame := opened_frame begins kept fits
    have finished : finishModePartyIfComplete session world tick =
        opened session world tick := by
      apply finish_handled begins.nonce
      rw [frame]
      exact done
    have shown : showPartyCompletion world tick = world := if_pos (kept.begun done)
    have part := rewardPart begins kept.sociable kept.known tick.reward
    rw [finished, opened, shown]
    exact ⟨part.frame, part.counts⟩
  finishes := fun _ all => kept.finishes begins all

/-- Whatever fails on which ticks, and with triggers in between. -/
theorem outcome_once (session : Session) (start : World) (begins : Begins session start)
    (calls : List Call) (fits : Throughout (step session) start (Fits session) calls) :
    Once session start (exec (step session) start calls) := by
  have kept : Kept session start (exec (step session) start calls) := by
    apply exec_throughout begins.kept
    · intro world call kept fits
      cases call with
      | tick tick => exact kept.finish begins fits
      | trigger trigger => exact kept.trigger fits
    · exact fits
  exact kept.once begins

/-! ## Two parties -/

/-- A device that has done nothing yet. -/
def fresh : World where
  signal := boot true {} .written
  social := Social.reset
  socialProgressionReady := true
  stories := {}
  dialogueStateReady := true

/-- Another companion was met. -/
def metKitsu : Trigger where
  kind := .nearbyKitsuMet
  entropy := 0
  waiting := false
  catalogued := true
  prepared := true
  outcome := .written

/-- A shared trail of the highest count. -/
def wholeTrail : Session where
  mode := .sharedTrail
  outcomeValue := 20
  rareEncounter := 0
  storyChoice := 0
  rawNonce := 1

/-- A vote with a rare encounter. -/
def rareVote : Session where
  mode := .storyVote
  outcomeValue := 1
  rareEncounter := 1
  storyChoice := 0
  rawNonce := 1

/-- The story of the vote is told, and the ledger is not written. -/
def unwritten : World :=
  exec (step rareVote) fresh [.tick { attempt := metKitsu, socialStored := false }]

theorem fresh_begins (named : session.rawNonce = 1) (value : session.outcomeValue ≤ 20)
    (choice : session.storyChoice < 3) : Begins session fresh where
  nonce := by
    rw [named]
    decide
  value
  choice
  usable := ⟨by decide, Trail.validateSignalTrailState_iff.mp (by decide)⟩
  social := ⟨Social.restorable_reset, rfl⟩
  below := by decide
  distinct := by
    rw [named]
    decide
  unheard := by
    intro purpose member
    contradiction
  blank := ⟨rfl, rfl, rfl, rfl, rfl, rfl⟩

theorem outcome_once_retried :
    Once wholeTrail fresh (exec (step wholeTrail) fresh
      [.tick { attempt := metKitsu, socialStored := false },
        .trigger { metKitsu with waiting := true }, .tick { attempt := metKitsu }]) := by
  apply outcome_once wholeTrail fresh (fresh_begins rfl (by decide) (by decide))
  apply Throughout.cons
  · exact fun _ vote => absurd vote nofun
  apply Throughout.cons
  · exact fun _ _ => by decide +kernel
  apply Throughout.cons
  · exact fun _ vote => absurd vote nofun
  · exact Throughout.nil

/-- The trail is raised again after an encounter, and a story that is told has no vote. -/
theorem outcome_twice_or_never :
    (Begins wholeTrail fresh ∧
      (exec (step wholeTrail) fresh [.tick { attempt := metKitsu, socialStored := false },
        .trigger metKitsu, .tick { attempt := metKitsu }]).raises = 2) ∧
    Begins rareVote fresh ∧ AllWritten unwritten { attempt := metKitsu } ∧
      (finishModePartyIfComplete rareVote unwritten { attempt := metKitsu }).handled = false := by
  constructor
  · constructor
    · exact fresh_begins rfl (by decide) (by decide)
    · decide +kernel
  · constructor
    · exact fresh_begins rfl (by decide) (by decide)
    · have powered : unwritten.signal.storageReady = true ∧
          unwritten.signal.signalEncounterStateReady = true ∧
          unwritten.dialogueStateReady = true ∧
          (finishModePartyIfComplete rareVote unwritten { attempt := metKitsu }).handled =
            false := by
        decide +kernel
      rcases powered with ⟨storage, signal, dialogue, unhandled⟩
      exact ⟨⟨storage, signal, rfl, rfl, dialogue, rfl, rfl, rfl, rfl⟩, unhandled⟩

end Kitsu.PartyModes.SpecialOutcome
