import Mathlib.Algebra.GroupWithZero.Nat
import Kitsu.Presentation.Preview

/-!
# Consistent preview transfers

A preview is watched with the session that was opened last and the chunks that were read
since.  While the session is open the preview holds the frame that was captured at its
beginning and its digest, whatever is offered meanwhile; a chunk is a piece of that
frame, so chunks without a gap are the frame.
-/

namespace Kitsu.Presentation

open Kitsu.Lib.ByteString

/-! ## Digests -/

theorem xor_eq_zero {left right : UInt8} : left ^^^ right = 0 ↔ left = right := by
  constructor
  · intro same
    have cancelled := congrArg (· ^^^ right) same
    simpa [UInt8.xor_assoc] using cancelled
  · rintro rfl
    exact UInt8.xor_self

/-- Differences are collected: nothing is left out of what was found so far. -/
theorem collected_zero (left right : Bytes) (found : UInt8)
    (same : left.length = right.length) :
    (left.zip right).foldl
        (fun difference codes => difference ||| (codes.1 ^^^ codes.2)) found = 0 ↔
      found = 0 ∧ left = right := by
  induction left generalizing right found with
  | nil =>
    rw [List.length_nil, eq_comm, List.length_eq_zero_iff] at same
    rw [same]
    simp
  | cons code left next =>
    cases right with
    | nil => exact absurd same nofun
    | cons other right =>
      rw [List.zip_cons_cons, List.foldl_cons, next right _ (Nat.succ.inj same),
        UInt8.or_eq_zero_iff, xor_eq_zero, List.cons.injEq, and_assoc]

theorem sameDigest_iff (left right : ByteVec kFrameDigestBytes) :
    sameDigest left right = true ↔ left = right := by
  rw [sameDigest, beq_iff_eq, collected_zero _ _ _ (left.length_eq.trans right.length_eq.symm),
    ByteVec.ext_iff]
  exact ⟨And.right, fun same => ⟨rfl, same⟩⟩

/-! ## Captured frames -/

theorem length_read (memory : Memory) (count : Nat) : (memory.read count).length = count := by
  rw [Memory.read, List.length_map, List.length_range]

/-- A frame that is offered has the size of its format. -/
theorem validCapture_frame {capture : Capture} {frame : Memory}
    (valid : validCapture capture = true) (offered : capture.frameData = some frame) :
    capture.frameBytes ≠ 0 ∧ capture.frameBytes ≤ kMaximumFrameBytes := by
  have sizes : expectedFrameBytes capture ≤ kMaximumFrameBytes := by
    rw [expectedFrameBytes]
    split
    · decide
    · split
      · decide
      · decide
  simp only [validCapture, offered] at valid
  split at valid
  · exact absurd valid nofun
  · split at valid
    · simp [absentCaptureValid, offered] at valid
    · split at valid
      · exact absurd valid nofun
      · split at valid
        · exact absurd valid nofun
        · next missing =>
            split at valid
            · exact absurd valid nofun
            · next sized =>
                have some : capture.frameBytes ≠ 0 := by simpa using missing
                have exactly : capture.frameBytes = expectedFrameBytes capture := by
                  simpa using sized
                exact ⟨some, exactly ▸ sizes⟩

section Captured

variable {capture : Capture} {frame : Memory} (valid : validCapture capture = true)
  (offered : capture.frameData = some frame)

include valid offered

theorem makeState_frame (sessionId : UInt32) :
    (makeState sessionId capture).frameAvailable = true ∧
      (makeState sessionId capture).frameBytes.toNat = capture.frameBytes ∧
      (makeState sessionId capture).frameSha256.bytes =
        Lib.SecureHash.digest (frame.read capture.frameBytes) := by
  have size := validCapture_frame valid offered
  have small : (frame.read capture.frameBytes).length < 2 ^ 61 := by
    rw [length_read]
    exact Nat.lt_of_le_of_lt size.2 (by decide)
  have hashed : frameSha256 frame capture.frameBytes =
      some (frameHash (frame.read capture.frameBytes)) := by
    rw [frameSha256, if_neg]
    simp only [Bool.or_eq_true, beq_iff_eq, decide_eq_true_eq, not_or, Nat.not_lt, gt_iff_lt]
    exact size
  rw [makeState, offered]
  refine ⟨?_, ?_, ?_⟩
  · show capture.frameData.isSome = true
    rw [offered]
    rfl
  · show capture.frameBytes.toUInt16.toNat = capture.frameBytes
    rw [Nat.toUInt16, UInt16.toNat_ofNat', Nat.mod_eq_of_lt]
    exact Nat.lt_of_le_of_lt size.2 (by decide)
  · show ((frameSha256 frame capture.frameBytes).getD _).bytes = _
    rw [hashed]
    exact frameHash_standard small

/-- The buffer begins with the frame. -/
theorem heldFrame_take :
    (Preview.heldFrame capture).bytes.take capture.frameBytes =
      frame.read capture.frameBytes := by
  have size := validCapture_frame valid offered
  rw [Preview.heldFrame, offered]
  simp only [ByteVec.overwrite]
  rw [List.take_take, Nat.min_eq_left size.2]
  exact List.take_left' (length_read _ _)

end Captured

theorem makeState_blank {capture : Capture} (blank : capture.frameData = none)
    (sessionId : UInt32) : (makeState sessionId capture).frameAvailable = false := by
  rw [makeState, blank]
  show capture.frameData.isSome = false
  rw [blank]
  rfl

theorem makeState_id (sessionId : UInt32) (capture : Capture) :
    (makeState sessionId capture).sessionId = sessionId := by
  rw [makeState]
  split
  · rfl
  · rfl

/-! ## Calls -/

/-- One call of the preview. -/
inductive Call where
  | openSession (sessionId : UInt32) (capture : Capture)
  | describe (sessionId : UInt32)
  | readChunk (request : ChunkRequest) (destination : Bool) (destinationCapacity : Nat)
  | close (sessionId : UInt32)

/-- What a caller gets back: a state, or a chunk. -/
structure Reply where
  status : Status
  state : PresentationState := {}
  bytes : Bytes := []
  result : ChunkResult := {}
deriving DecidableEq

/-- A call by its name. -/
def Preview.call (preview : Preview) : Call → Reply × Preview
  | .openSession sessionId capture =>
    let (status, state, after) := preview.openSession sessionId capture
    ({ status, state }, after)
  | .describe sessionId =>
    let (status, state) := preview.describe sessionId
    ({ status, state }, preview)
  | .readChunk request destination destinationCapacity =>
    let (status, bytes, result) :=
      preview.readChunk request destination destinationCapacity
    ({ status, bytes, result }, preview)
  | .close sessionId =>
    let (status, after) := preview.close sessionId
    ({ status }, after)

/-! ## Watched previews -/

/-- A session and the capture it was opened with. -/
structure Session where
  id : UInt32
  capture : Capture

/-- A chunk with the request that it answers. -/
structure Chunk where
  request : ChunkRequest
  bytes : Bytes
  result : ChunkResult
deriving DecidableEq

/-- A preview with the session that was opened last, and the chunks read since. -/
structure Watched where
  preview : Preview := .reset
  opened : Option Session := none
  closed : Bool := true
  chunks : List Chunk := []

/-- What an accepted call changes of what is watched. -/
def Watched.follow (watched : Watched) (reply : Reply) : Call → Watched
  | .openSession id capture =>
    { watched with opened := some ⟨id, capture⟩, closed := false, chunks := [] }
  | .describe _ => watched
  | .readChunk request _ _ =>
    { watched with chunks := ⟨request, reply.bytes, reply.result⟩ :: watched.chunks }
  | .close _ => { watched with closed := true }

/-- A call, and the session that it opened or closed. -/
def Watched.step (watched : Watched) (call : Call) : Watched :=
  let (reply, preview) := watched.preview.call call
  { (if reply.status = .ok then watched.follow reply call else watched) with preview }

/-- A preview after some calls, from its construction on. -/
def watch (calls : List Call) : Watched :=
  calls.foldl Watched.step {}

theorem watch_cons (call : Call) (later : List Call) :
    watch (call :: later) = later.foldl Watched.step (watch [call]) :=
  rfl

/-- A chunk of the frame of a session. -/
structure ChunkOf (session : Session) (chunk : Chunk) (frame : Memory) : Prop where
  offered : session.capture.frameData = some frame
  id : chunk.request.sessionId = session.id
  digest : chunk.request.expectedFrameSha256.bytes =
    Lib.SecureHash.digest (frame.read session.capture.frameBytes)
  echoed : chunk.result.offset = chunk.request.offset ∧
    chunk.result.bytes = chunk.request.bytes
  inside : chunk.result.offset.toNat + chunk.result.bytes.toNat ≤
    session.capture.frameBytes
  bytes : chunk.bytes = ((frame.read session.capture.frameBytes).drop
    chunk.result.offset.toNat).take chunk.result.bytes.toNat
  next : chunk.result.nextOffset.toNat =
    chunk.result.offset.toNat + chunk.result.bytes.toNat
  complete : chunk.result.complete = true ↔
    chunk.result.nextOffset.toNat = session.capture.frameBytes

/-- The preview of a session that is open. -/
def openPreview (session : Session) : Preview where
  state := makeState session.id session.capture
  frame := Preview.heldFrame session.capture
  lastSessionId := session.id
  active := true

/-- The preview after a session was closed, or before the first one. -/
def restingPreview (opened : Option Session) : Preview :=
  { Preview.reset with lastSessionId := (opened.map Session.id).getD 0 }

/-- What holds of a watched preview. -/
structure Kept (watched : Watched) : Prop where
  valid : ∀ session, watched.opened = some session →
    session.id ≠ 0 ∧ validCapture session.capture = true
  resting : watched.closed = true → watched.preview = restingPreview watched.opened
  held : watched.closed = false → ∃ session, watched.opened = some session ∧
    watched.preview = openPreview session
  chunks : ∀ session, watched.opened = some session → ∀ chunk ∈ watched.chunks,
    ∃ frame, ChunkOf session chunk frame

/-! ## One call -/

variable {preview : Preview} {sessionId : UInt32}

section Call

variable {session : Session} {request : ChunkRequest} {destination : Bool}
  {destinationCapacity : Nat}

/-- What a request has passed that is answered with a chunk. -/
theorem readChunk_ok
    (ok : (preview.readChunk request destination destinationCapacity).1 = .ok) :
    preview.active = true ∧ request.sessionId = preview.state.sessionId ∧
      request.expectedFrameSha256 = preview.state.frameSha256 ∧
      preview.state.frameAvailable = true ∧
      request.offset.toUInt32 + request.bytes.toUInt32 ≤
        preview.state.frameBytes.toUInt32 ∧
      (preview.readChunk request destination destinationCapacity).2 =
        ((preview.frame.bytes.drop request.offset.toNat).take request.bytes.toNat,
          { offset := request.offset
            bytes := request.bytes
            nextOffset := (request.offset.toUInt32 + request.bytes.toUInt32).toUInt16
            complete := request.offset.toUInt32 + request.bytes.toUInt32 ==
              preview.state.frameBytes.toUInt32 }) := by
  simp only [Preview.readChunk] at ok ⊢
  split at ok
  · exact absurd ok nofun
  · next active =>
      split at ok
      · exact absurd ok nofun
      · next named =>
          split at ok
          · exact absurd ok nofun
          · next bound =>
              split at ok
              · exact absurd ok nofun
              · next available =>
                  split at ok
                  · exact absurd ok nofun
                  · next sized =>
                      split at ok
                      · exact absurd ok nofun
                      · next inside =>
                          split at ok
                          · exact absurd ok nofun
                          · next room =>
                              rw [if_neg active, if_neg named, if_neg bound,
                                if_neg available, if_neg sized, if_neg inside, if_neg room]
                              simp only [Bool.not_eq_true', Bool.not_eq_false,
                                Bool.or_eq_true, not_or, bne_iff_ne, not_not,
                                sameDigest_iff, decide_eq_true_eq, gt_iff_lt,
                                UInt32.not_lt] at active named bound available inside
                              exact ⟨active, named.2, bound, available, inside.2, rfl⟩

/-- A request that is not answered gets no bytes. -/
theorem readChunk_bytes
    (some : (preview.readChunk request destination destinationCapacity).2.1 ≠ []) :
    (preview.readChunk request destination destinationCapacity).1 = .ok := by
  by_contra refused
  apply some
  simp only [Preview.readChunk] at refused ⊢
  split
  · rfl
  · next active =>
      rw [if_neg active] at refused
      split
      · rfl
      · next named =>
          rw [if_neg named] at refused
          split
          · rfl
          · next bound =>
              rw [if_neg bound] at refused
              split
              · rfl
              · next available =>
                  rw [if_neg available] at refused
                  split
                  · rfl
                  · next sized =>
                      rw [if_neg sized] at refused
                      split
                      · rfl
                      · next inside =>
                          rw [if_neg inside] at refused
                          split
                          · rfl
                          · next room =>
                              rw [if_neg room] at refused
                              exact absurd rfl refused

/-- A chunk of an open session is a piece of its frame. -/
theorem chunkOf_ok (valid : validCapture session.capture = true)
    (ok : ((openPreview session).readChunk request destination destinationCapacity).1 =
      .ok) :
    ∃ frame, ChunkOf session
      ⟨request, ((openPreview session).readChunk request destination
          destinationCapacity).2.1,
        ((openPreview session).readChunk request destination destinationCapacity).2.2⟩
      frame := by
  rcases readChunk_ok ok with ⟨-, named, bound, available, inside, chunk⟩
  rw [chunk]
  cases offered : session.capture.frameData with
  | none =>
    have blank := makeState_blank offered session.id
    exact absurd (blank.symm.trans available) nofun
  | some frame =>
    have made := makeState_frame valid offered session.id
    have size := validCapture_frame valid offered
    have sum : (request.offset.toUInt32 + request.bytes.toUInt32).toNat =
        request.offset.toNat + request.bytes.toNat := by
      have offset := request.offset.toNat_lt
      have bytes := request.bytes.toNat_lt
      rw [UInt32.toNat_add, UInt16.toNat_toUInt32, UInt16.toNat_toUInt32]
      omega
    have whole : (openPreview session).state.frameBytes.toUInt32.toNat =
        session.capture.frameBytes := by
      exact made.2.1
    have within : request.offset.toNat + request.bytes.toNat ≤
        session.capture.frameBytes := by
      rw [UInt32.le_iff_toNat_le, sum, whole] at inside
      exact inside
    have nextOffset : (request.offset.toUInt32 + request.bytes.toUInt32).toUInt16.toNat =
        request.offset.toNat + request.bytes.toNat := by
      have most : session.capture.frameBytes ≤ 640 := size.2
      rw [UInt32.toNat_toUInt16, sum]
      omega
    refine ⟨frame, offered, ?_, ?_, ⟨rfl, rfl⟩, within, ?_, nextOffset, ?_⟩
    · exact named.trans (makeState_id _ _)
    · rw [show request.expectedFrameSha256 = _ from bound]
      exact made.2.2
    · show ((Preview.heldFrame session.capture).bytes.drop _).take _ = _
      rw [← heldFrame_take valid offered, List.drop_take, List.take_take, Nat.min_eq_left]
      exact Nat.le_sub_of_add_le' within
    · show (_ == _) = true ↔ _
      rw [beq_iff_eq, ← UInt32.toNat_inj, sum, whole, nextOffset]

/-- A session that begins, and that it does so only when none is open. -/
theorem openSession_ok {capture : Capture}
    (ok : (preview.openSession sessionId capture).1 = .ok) :
    preview.active = false ∧ sessionId ≠ 0 ∧ validCapture capture = true ∧
      (preview.openSession sessionId capture).2 =
        (makeState sessionId capture, openPreview ⟨sessionId, capture⟩) := by
  rw [Preview.openSession] at ok ⊢
  split at ok
  · exact absurd ok nofun
  · next named =>
      split at ok
      · split at ok
        · exact absurd ok nofun
        · exact absurd ok nofun
      · next resting =>
          split at ok
          · exact absurd ok nofun
          · next fresh =>
              split at ok
              · exact absurd ok nofun
              · next valid =>
                  rw [if_neg named, if_neg resting, if_neg fresh, if_neg valid]
                  simp only [beq_iff_eq, Bool.not_eq_true, Bool.not_eq_true',
                    Bool.not_eq_false] at named resting valid
                  exact ⟨resting, named, valid, rfl⟩

theorem openSession_refused {capture : Capture}
    (refused : (preview.openSession sessionId capture).1 ≠ .ok) :
    (preview.openSession sessionId capture).2.2 = preview := by
  rw [Preview.openSession] at refused ⊢
  split
  · rfl
  · next named =>
      rw [if_neg named] at refused
      split
      · split
        · rfl
        · rfl
      · next resting =>
          rw [if_neg resting] at refused
          split
          · rfl
          · next fresh =>
              rw [if_neg fresh] at refused
              split
              · rfl
              · next valid =>
                  rw [if_neg valid] at refused
                  exact absurd rfl refused

theorem close_cases (preview : Preview) (sessionId : UInt32) :
    ((preview.close sessionId).1 ≠ .ok ∧ (preview.close sessionId).2 = preview) ∨
      ((preview.close sessionId).1 = .ok ∧ preview.active = true ∧
        (preview.close sessionId).2 =
          { preview with state := {}, frame := .zero _, active := false }) := by
  rw [Preview.close]
  split
  · refine Or.inl ⟨?_, rfl⟩
    split
    · nofun
    · nofun
  · next active =>
      split
      · exact Or.inl ⟨nofun, rfl⟩
      · refine Or.inr ⟨rfl, ?_, rfl⟩
        simpa using active

end Call

/-! ## Every call -/

section Steps

variable {watched : Watched}

theorem Kept.open_of_active (kept : Kept watched)
    (active : watched.preview.active = true) :
    watched.closed = false ∧ ∃ session, watched.opened = some session ∧
      watched.preview = openPreview session ∧ validCapture session.capture = true := by
  have isOpen : watched.closed = false := by
    by_contra closed
    have resting := kept.resting (Bool.not_eq_false _ ▸ closed)
    rw [resting] at active
    exact absurd active nofun
  rcases kept.held isOpen with ⟨session, opened, held⟩
  exact ⟨isOpen, session, opened, held, (kept.valid session opened).2⟩

/-- A description changes nothing. -/
theorem describe_step (watched : Watched) (sessionId : UInt32) :
    watched.step (.describe sessionId) = watched := by
  by_cases ok : (watched.preview.describe sessionId).1 = .ok
  · simp only [Watched.step, Preview.call, ok, if_true, Watched.follow]
  · simp only [Watched.step, Preview.call, ok, if_false]

theorem Kept.step (kept : Kept watched) (call : Call) : Kept (watched.step call) := by
  cases call with
  | openSession sessionId capture =>
    by_cases ok : (watched.preview.openSession sessionId capture).1 = .ok
    · rcases openSession_ok ok with ⟨-, named, valid, after⟩
      have stepped : watched.step (.openSession sessionId capture) =
          ⟨openPreview ⟨sessionId, capture⟩, some ⟨sessionId, capture⟩, false, []⟩ := by
        simp only [Watched.step, Preview.call, ok, after, if_true, Watched.follow]
      rw [stepped]
      refine ⟨?_, nofun, fun _ => ⟨_, rfl, rfl⟩, ?_⟩
      · intro session opened
        rw [← Option.some.inj opened]
        exact ⟨named, valid⟩
      · intro _ _ chunk read
        exact absurd read List.not_mem_nil
    · have stepped : watched.step (.openSession sessionId capture) = watched := by
        simp only [Watched.step, Preview.call, ok, if_false, openSession_refused ok]
      rw [stepped]
      exact kept
  | describe sessionId =>
    rw [describe_step]
    exact kept
  | readChunk request destination destinationCapacity =>
    by_cases ok : (watched.preview.readChunk request destination
        destinationCapacity).1 = .ok
    · rcases kept.open_of_active (readChunk_ok ok).1 with ⟨isOpen, session, opened, held,
        valid⟩
      have stepped : watched.step (.readChunk request destination destinationCapacity) =
          { watched with chunks := ⟨request,
            (watched.preview.readChunk request destination destinationCapacity).2.1,
            (watched.preview.readChunk request destination destinationCapacity).2.2⟩ ::
              watched.chunks } := by
        simp only [Watched.step, Preview.call, ok, if_true, Watched.follow]
      rw [stepped]
      refine ⟨kept.valid, kept.resting, kept.held, ?_⟩
      intro other isOther chunk read
      rcases List.mem_cons.mp read with rfl | before
      · rw [← Option.some.inj (opened.symm.trans isOther), held]
        rw [held] at ok
        exact chunkOf_ok valid ok
      · exact kept.chunks other isOther chunk before
    · have stepped : watched.step
          (.readChunk request destination destinationCapacity) = watched := by
        simp only [Watched.step, Preview.call, ok, if_false]
      rw [stepped]
      exact kept
  | close sessionId =>
    rcases close_cases watched.preview sessionId with ⟨refused, same⟩ | ⟨ok, active, after⟩
    · have stepped : watched.step (.close sessionId) = watched := by
        simp only [Watched.step, Preview.call, refused, if_false, same]
      rw [stepped]
      exact kept
    · rcases kept.open_of_active active with ⟨isOpen, session, opened, held, valid⟩
      have stepped : watched.step (.close sessionId) =
          { watched with preview := restingPreview (some session), closed := true } := by
        simp only [Watched.step, Preview.call, ok, if_true, Watched.follow, after]
        rw [held]
        rfl
      rw [stepped]
      refine ⟨kept.valid, ?_, nofun, kept.chunks⟩
      intro _
      rw [show (Watched.opened _) = some session from opened]

theorem watch_kept (calls : List Call) : Kept (watch calls) := by
  have general : ∀ (calls : List Call) (watched : Watched), Kept watched →
      Kept (calls.foldl Watched.step watched) := by
    intro calls
    induction calls with
    | nil => exact fun _ kept => kept
    | cons call calls next => exact fun _ kept => next _ (kept.step call)
  apply general
  refine ⟨nofun, fun _ => rfl, nofun, ?_⟩
  intro _ _ chunk read
  exact absurd read List.not_mem_nil

end Steps

/-! ## Readers -/

/-- Chunks without a gap from an offset on. -/
def Contiguous : Nat → List Chunk → Prop
  | _, [] => True
  | offset, chunk :: chunks =>
    chunk.result.offset.toNat = offset ∧ Contiguous (offset + chunk.bytes.length) chunks

/-- The last chunk says that the frame is complete. -/
def Complete (chunks : List Chunk) : Prop :=
  ∃ chunk, chunks.getLast? = some chunk ∧ chunk.result.complete = true

/-- A chunk has as many bytes as it says. -/
theorem ChunkOf.length {session : Session} {chunk : Chunk} {frame : Memory}
    (piece : ChunkOf session chunk frame) :
    chunk.bytes.length = chunk.result.bytes.toNat := by
  have inside := piece.inside
  rw [piece.bytes, List.length_take, List.length_drop, length_read]
  omega

/-- A contiguous reader that has been told so has the rest of the frame. -/
theorem contiguous_rest {session : Session} {frame : Memory} {chunks : List Chunk}
    {offset : Nat} (pieces : ∀ chunk ∈ chunks, ChunkOf session chunk frame)
    (contiguous : Contiguous offset chunks) (complete : Complete chunks) :
    chunks.flatMap Chunk.bytes =
      (frame.read session.capture.frameBytes).drop offset := by
  induction chunks generalizing offset with
  | nil =>
    rcases complete with ⟨chunk, last, -⟩
    exact absurd last nofun
  | cons chunk chunks next =>
    have piece := pieces chunk List.mem_cons_self
    rcases contiguous with ⟨starts, contiguous⟩
    have bytes := piece.bytes
    rw [starts, ← piece.length] at bytes
    rw [List.flatMap_cons]
    cases chunks with
    | nil =>
      rcases complete with ⟨last, isLast, told⟩
      rw [List.getLast?_singleton, Option.some.injEq] at isLast
      rw [← isLast] at told
      have reached := piece.complete.mp told
      rw [piece.next, starts, ← piece.length] at reached
      rw [List.flatMap_nil, List.append_nil, bytes, List.take_of_length_le]
      rw [List.length_drop, length_read]
      omega
    | cons second chunks =>
      rcases complete with ⟨last, isLast, told⟩
      have others := next (fun other member =>
        pieces other (List.mem_cons_of_mem _ member)) contiguous
        ⟨last, (List.getLast?_cons_cons ..).symm.trans isLast, told⟩
      rw [others, ← List.drop_drop]
      conv => lhs; lhs; rw [bytes]
      exact List.take_append_drop _ _

/-- A state with a frame is that of the session that begins, or of the one under way. -/
theorem openSession_announced {capture : Capture}
    (announced : (preview.openSession sessionId capture).2.1.frameAvailable = true) :
    (preview.openSession sessionId capture).1 = .ok ∨
      (preview.openSession sessionId capture).1 ≠ .ok ∧ preview.active = true ∧
        (preview.openSession sessionId capture).2.1 = preview.state := by
  rw [Preview.openSession] at announced ⊢
  split
  · next named =>
      rw [if_pos named] at announced
      exact absurd announced nofun
  · next named =>
      rw [if_neg named] at announced
      split
      · next active =>
          rw [if_pos active] at announced
          split
          · next other =>
              rw [if_pos other] at announced
              exact absurd announced nofun
          · exact Or.inr ⟨nofun, active, rfl⟩
      · next resting =>
          rw [if_neg resting] at announced
          split
          · next stale =>
              rw [if_pos stale] at announced
              exact absurd announced nofun
          · next fresh =>
              rw [if_neg fresh] at announced
              split
              · next bad =>
                  rw [if_pos bad] at announced
                  exact absurd announced nofun
              · exact Or.inl rfl

theorem describe_announced
    (announced : (preview.describe sessionId).2.frameAvailable = true) :
    preview.active = true ∧ (preview.describe sessionId).2 = preview.state := by
  rw [Preview.describe] at announced ⊢
  split
  · next resting =>
      rw [if_pos resting] at announced
      exact absurd announced nofun
  · next active =>
      rw [if_neg active] at announced
      simp only [Bool.not_eq_true', Bool.not_eq_false] at active
      split
      · next other =>
          rw [if_pos other] at announced
          exact absurd announced nofun
      · exact ⟨active, rfl⟩

/-- Whatever is announced is about the session that is open. -/
theorem announced_cases {watched : Watched} (kept : Kept watched) (call : Call)
    (announced : (watched.preview.call call).1.state.frameAvailable = true) :
    ∃ session, (watched.step call).opened = some session ∧
      (watched.step call).closed = false ∧ validCapture session.capture = true ∧
      (watched.preview.call call).1.state = makeState session.id session.capture := by
  cases call with
  | openSession sessionId capture =>
    rcases openSession_announced announced with ok | ⟨refused, active, same⟩
    · rcases openSession_ok ok with ⟨-, -, valid, after⟩
      refine ⟨⟨sessionId, capture⟩, ?_, ?_, valid, congrArg Prod.fst after⟩
      · simp only [Watched.step, Preview.call, ok, if_true, Watched.follow]
      · simp only [Watched.step, Preview.call, ok, if_true, Watched.follow]
    · rcases kept.open_of_active active with ⟨isOpen, session, opened, held, valid⟩
      refine ⟨session, ?_, ?_, valid, ?_⟩
      · simp only [Watched.step, Preview.call, refused, if_false, opened]
      · simp only [Watched.step, Preview.call, refused, if_false, isOpen]
      · exact same.trans (congrArg Preview.state held)
  | describe sessionId =>
    rcases describe_announced announced with ⟨active, same⟩
    rcases kept.open_of_active active with ⟨isOpen, session, opened, held, valid⟩
    rw [describe_step]
    exact ⟨session, opened, isOpen, valid, same.trans (congrArg Preview.state held)⟩
  | readChunk _ _ _ => exact absurd announced nofun
  | close _ => exact absurd announced nofun

/-! ## Requests that are answered -/

section Answered

variable {session : Session} {frame : Memory}
  (valid : validCapture session.capture = true)
  (offered : session.capture.frameData = some frame)

include valid offered

/-- A request of the open session that stays inside its frame gets its chunk. -/
theorem readChunk_answered (named : session.id ≠ 0) {request : ChunkRequest}
    (asked : request.sessionId = session.id)
    (digest : request.expectedFrameSha256.bytes =
      Lib.SecureHash.digest (frame.read session.capture.frameBytes))
    (some : request.bytes ≠ 0) (few : request.bytes ≤ kMaximumChunkBytes)
    (inside : request.offset.toNat + request.bytes.toNat ≤ session.capture.frameBytes)
    {capacity : Nat} (room : request.bytes.toNat ≤ capacity) :
    ((openPreview session).readChunk request true capacity).1 = .ok := by
  have made := makeState_frame valid offered session.id
  have here : request.sessionId = (openPreview session).state.sessionId :=
    asked.trans (makeState_id _ _).symm
  have bound : sameDigest request.expectedFrameSha256
      (openPreview session).state.frameSha256 = true :=
    (sameDigest_iff _ _).mpr (ByteVec.ext_iff.mpr (digest.trans made.2.2.symm))
  have available : (openPreview session).state.frameAvailable = true := made.1
  have most : request.bytes.toNat ≠ 0 := fun none => some (UInt16.toNat_inj.mp none)
  have begins : ¬ (openPreview session).state.frameBytes ≤ request.offset := by
    rw [UInt16.le_iff_toNat_le, show (openPreview session).state.frameBytes.toNat = _ from
      made.2.1]
    omega
  have ends : ¬ (openPreview session).state.frameBytes.toUInt32 <
      request.offset.toUInt32 + request.bytes.toUInt32 := by
    rw [UInt32.lt_iff_toNat_lt, UInt32.toNat_add, UInt16.toNat_toUInt32,
      UInt16.toNat_toUInt32, UInt16.toNat_toUInt32,
      show (openPreview session).state.frameBytes.toNat = _ from made.2.1]
    omega
  have active : (openPreview session).active = true := rfl
  have known : (openPreview session).state.sessionId ≠ 0 := by
    rw [← here, asked]
    exact named
  have short : ¬ kMaximumChunkBytes < request.bytes := UInt16.not_lt.mpr few
  have held : ¬ capacity < request.bytes.toNat := Nat.not_lt.mpr room
  simp [Preview.readChunk, active, here, known, bound, available, some, short, begins, ends,
    held]

end Answered

/-- The request of a reader that stands at an offset. -/
def readRequest (sessionId : UInt32) (digest : ByteVec kFrameDigestBytes) (offset : Nat)
    (size : UInt16) : ChunkRequest where
  sessionId
  offset := offset.toUInt16
  bytes := size
  expectedFrameSha256 := digest

/-- The reads of a reader that goes on from an offset, in chunks of the given sizes. -/
def reads (sessionId : UInt32) (digest : ByteVec kFrameDigestBytes) :
    Nat → List UInt16 → List Call
  | _, [] => []
  | offset, size :: sizes =>
    .readChunk (readRequest sessionId digest offset size) true size.toNat ::
      reads sessionId digest (offset + size.toNat) sizes

/-- A chunk size that a request may ask for. -/
def AllowedSize (size : UInt16) : Prop :=
  size ≠ 0 ∧ size ≤ kMaximumChunkBytes

section Reader

variable {session : Session} {frame : Memory}
  (valid : validCapture session.capture = true)
  (offered : session.capture.frameData = some frame) (named : session.id ≠ 0)
  {digest : ByteVec kFrameDigestBytes}
  (announced : digest.bytes =
    Lib.SecureHash.digest (frame.read session.capture.frameBytes))

include valid offered named announced

/-- One read of a reader: a chunk of the size it asks for, from where it stands. -/
theorem read_step {watched : Watched} (held : watched.preview = openPreview session)
    (offset : Nat) {size : UInt16} (allowed : AllowedSize size)
    (inside : offset + size.toNat ≤ session.capture.frameBytes) :
    ∃ chunk, watched.step
          (.readChunk (readRequest session.id digest offset size) true size.toNat) =
        { watched with chunks := chunk :: watched.chunks } ∧
      ChunkOf session chunk frame ∧ chunk.result.offset.toNat = offset ∧
      chunk.bytes.length = size.toNat ∧
      chunk.result.nextOffset.toNat = offset + size.toNat := by
  have most := (validCapture_frame valid offered).2
  have start : offset.toUInt16.toNat = offset := by
    rw [Nat.toUInt16, UInt16.toNat_ofNat', Nat.mod_eq_of_lt]
    have : kMaximumFrameBytes < 2 ^ 16 := by decide
    omega
  have ok : ((openPreview session).readChunk (readRequest session.id digest offset size)
      true size.toNat).1 = .ok := by
    refine readChunk_answered valid offered named rfl announced allowed.1 allowed.2 ?_
      (Nat.le_refl _)
    show offset.toUInt16.toNat + size.toNat ≤ _
    rw [start]
    exact inside
  rcases chunkOf_ok valid ok with ⟨other, piece⟩
  rw [Option.some.inj (piece.offered.symm.trans offered)] at piece
  refine ⟨_, ?_, piece, ?_, ?_, ?_⟩
  · rw [← held] at ok ⊢
    simp only [Watched.step, Preview.call, ok, if_true, Watched.follow]
  · rw [piece.echoed.1]
    exact start
  · rw [piece.length, piece.echoed.2]
    rfl
  · rw [piece.next, piece.echoed.1, piece.echoed.2]
    show offset.toUInt16.toNat + size.toNat = _
    rw [start]

/-- A reader gets chunks without a gap from where it stands on. -/
theorem reads_run {watched : Watched} (held : watched.preview = openPreview session)
    {sizes : List UInt16} (allowed : ∀ size ∈ sizes, AllowedSize size) {offset : Nat}
    (inside : offset + (sizes.map UInt16.toNat).sum ≤ session.capture.frameBytes) :
    ∃ chunks : List Chunk, (reads session.id digest offset sizes).foldl Watched.step watched =
        { watched with chunks := chunks.reverse ++ watched.chunks } ∧
      chunks.length = sizes.length ∧ Contiguous offset chunks ∧
      (∀ chunk ∈ chunks, ChunkOf session chunk frame) ∧
      ∀ last, chunks.getLast? = some last →
        last.result.nextOffset.toNat = offset + (sizes.map UInt16.toNat).sum := by
  induction sizes generalizing watched offset with
  | nil => exact ⟨[], rfl, rfl, trivial, nofun, nofun⟩
  | cons size sizes next =>
    rw [List.map_cons, List.sum_cons] at inside ⊢
    have first := allowed size List.mem_cons_self
    have others := fun size member => allowed size (List.mem_cons_of_mem _ member)
    rcases read_step valid offered named announced held offset first (by omega) with
      ⟨chunk, stepped, piece, starts, length, reached⟩
    have fits : offset + size.toNat + (sizes.map UInt16.toNat).sum ≤
        session.capture.frameBytes := by
      omega
    rcases @next { watched with chunks := chunk :: watched.chunks } held others _ fits with
      ⟨chunks, run, count, contiguous, pieces, ended⟩
    refine ⟨chunk :: chunks, ?_, ?_, ?_, ?_, ?_⟩
    · rw [reads, List.foldl_cons, stepped, run]
      simp
    · rw [List.length_cons, count, List.length_cons]
    · exact ⟨starts, length ▸ contiguous⟩
    · intro other member
      rcases List.mem_cons.mp member with rfl | later
      · exact piece
      · exact pieces other later
    · intro last isLast
      cases chunks with
      | nil =>
        have none : sizes = [] := List.length_eq_zero_iff.mp count.symm
        rw [List.getLast?_singleton, Option.some.injEq] at isLast
        rw [← isLast, reached, none]
        rfl
      | cons second rest =>
        rw [ended last isLast, Nat.add_assoc]

end Reader

/-! ## Consistent previews -/

/-- What is promised of a preview, whatever was called before. -/
structure Consistent (watched : Watched) : Prop where
  /-- A chunk is given only of the session that is open, under its id and the standard
  digest of its frame. -/
  given : ∀ request destination destinationCapacity,
    ((watched.preview.readChunk request destination destinationCapacity).1 = .ok ∨
      (watched.preview.readChunk request destination destinationCapacity).2.1 ≠ []) →
    watched.closed = false ∧ ∃ session frame,
      watched.opened = some session ∧ session.capture.frameData = some frame ∧
      request.sessionId = session.id ∧ request.expectedFrameSha256.bytes =
        Lib.SecureHash.digest (frame.read session.capture.frameBytes)
  /-- What is announced of a frame is that digest. -/
  announced : ∀ call, (watched.preview.call call).1.state.frameAvailable = true →
    ∃ session frame, (watched.step call).opened = some session ∧
      (watched.step call).closed = false ∧
      session.capture.frameData = some frame ∧
      (watched.preview.call call).1.state.sessionId = session.id ∧
      (watched.preview.call call).1.state.frameSha256.bytes =
        Lib.SecureHash.digest (frame.read session.capture.frameBytes)
  /-- Chunks without a gap from the first byte until the last are the frame that was
  captured when the session was opened. -/
  whole : ∀ session, watched.opened = some session → ∀ chunks : List Chunk,
    (∀ chunk ∈ chunks, chunk ∈ watched.chunks) → Contiguous 0 chunks →
    Complete chunks → ∃ frame, session.capture.frameData = some frame ∧
      chunks.flatMap Chunk.bytes = frame.read session.capture.frameBytes ∧
      ∀ chunk ∈ chunks, chunk.request.expectedFrameSha256.bytes =
        Lib.SecureHash.digest (chunks.flatMap Chunk.bytes)
  /-- Once a session is closed its id is stale and nothing of its frame is left. -/
  cleared : watched.closed = true →
    watched.preview.frame = .zero _ ∧ watched.preview.state = {} ∧
    ∀ session, watched.opened = some session → ∀ capture,
      watched.preview.openSession session.id capture =
        (.staleSession, {}, watched.preview)
  /-- A session with another id opens after that. -/
  opens : watched.closed = true → ∀ id capture, id ≠ 0 →
    (∀ session, watched.opened = some session → id ≠ session.id) →
    validCapture capture = true → (watched.preview.openSession id capture).1 = .ok
  /-- The session that is open is described, and can be closed. -/
  closes : watched.closed = false → ∀ session, watched.opened = some session →
    watched.preview.describe session.id =
        (.ok, makeState session.id session.capture) ∧
      (watched.preview.close session.id).1 = .ok ∧
      (watched.step (.close session.id)).closed = true
  /-- A request of the open session that stays inside its frame gets its chunk. -/
  answered : watched.closed = false → ∀ session, watched.opened = some session →
    ∀ frame, session.capture.frameData = some frame → ∀ request : ChunkRequest,
      request.sessionId = session.id → request.expectedFrameSha256.bytes =
        Lib.SecureHash.digest (frame.read session.capture.frameBytes) →
      AllowedSize request.bytes → request.offset.toNat + request.bytes.toNat ≤
        session.capture.frameBytes →
      ∀ capacity, request.bytes.toNat ≤ capacity →
        (watched.preview.readChunk request true capacity).1 = .ok ∧
        (watched.preview.readChunk request true capacity).2.1 =
          ((frame.read session.capture.frameBytes).drop request.offset.toNat).take
            request.bytes.toNat
  /-- A reader that asks for chunks of any sizes, one behind the other up to the end of the
  frame, gets the frame. -/
  completed : watched.closed = false → ∀ session, watched.opened = some session →
    ∀ frame, session.capture.frameData = some frame →
    ∀ digest : ByteVec kFrameDigestBytes, digest.bytes =
      Lib.SecureHash.digest (frame.read session.capture.frameBytes) →
    ∀ sizes : List UInt16, (∀ size ∈ sizes, AllowedSize size) →
      (sizes.map UInt16.toNat).sum = session.capture.frameBytes →
      ∃ chunks : List Chunk,
        ((reads session.id digest 0 sizes).foldl Watched.step watched).chunks =
          chunks.reverse ++ watched.chunks ∧
        chunks.length = sizes.length ∧ Contiguous 0 chunks ∧ Complete chunks ∧
        chunks.flatMap Chunk.bytes = frame.read session.capture.frameBytes

section Kept

variable {watched : Watched} (kept : Kept watched)

include kept

theorem Kept.whole {session : Session} (opened : watched.opened = some session)
    {chunks : List Chunk} (read : ∀ chunk ∈ chunks, chunk ∈ watched.chunks)
    (contiguous : Contiguous 0 chunks) (complete : Complete chunks) :
    ∃ frame, session.capture.frameData = some frame ∧
      chunks.flatMap Chunk.bytes = frame.read session.capture.frameBytes ∧
      ∀ chunk ∈ chunks, chunk.request.expectedFrameSha256.bytes =
        Lib.SecureHash.digest (chunks.flatMap Chunk.bytes) := by
  have pieces := kept.chunks session opened
  rcases complete with ⟨last, isLast, told⟩
  rcases pieces last (read last (List.mem_of_getLast? isLast)) with ⟨frame, lastPiece⟩
  have all : ∀ chunk ∈ chunks, ChunkOf session chunk frame := by
    intro chunk member
    rcases pieces chunk (read chunk member) with ⟨other, piece⟩
    rw [Option.some.inj (lastPiece.offered.symm.trans piece.offered)]
    exact piece
  have whole := contiguous_rest all contiguous ⟨last, isLast, told⟩
  refine ⟨frame, lastPiece.offered, whole, ?_⟩
  intro chunk member
  rw [whole]
  exact (all chunk member).digest

theorem Kept.stale (closed : watched.closed = true) {session : Session}
    (opened : watched.opened = some session) (capture : Capture) :
    watched.preview.openSession session.id capture =
      (.staleSession, {}, watched.preview) := by
  have named := (kept.valid session opened).1
  rw [kept.resting closed, opened, Preview.openSession, if_neg, if_neg, if_pos]
  · exact beq_self_eq_true session.id
  · nofun
  · rw [beq_iff_eq]
    exact named

theorem Kept.opens (closed : watched.closed = true) {id : UInt32} {capture : Capture}
    (named : id ≠ 0) (fresh : ∀ session, watched.opened = some session → id ≠ session.id)
    (valid : validCapture capture = true) :
    (watched.preview.openSession id capture).1 = .ok := by
  have last : id ≠ (restingPreview watched.opened).lastSessionId := by
    cases opened : watched.opened with
    | none => exact named
    | some session => exact fresh session opened
  have resting : (restingPreview watched.opened).active = false := rfl
  rw [kept.resting closed]
  simp [Preview.openSession, named, last, resting, valid]

theorem Kept.closes (isOpen : watched.closed = false) {session : Session}
    (opened : watched.opened = some session) :
    watched.preview.describe session.id = (.ok, makeState session.id session.capture) ∧
      (watched.preview.close session.id).1 = .ok ∧
      (watched.step (.close session.id)).closed = true := by
  have named := (kept.valid session opened).1
  rcases kept.held isOpen with ⟨other, isOther, held⟩
  rw [← Option.some.inj (opened.symm.trans isOther)] at held
  have here : (openPreview session).state.sessionId = session.id := makeState_id _ _
  have active : (openPreview session).active = true := rfl
  have ok : (watched.preview.close session.id).1 = .ok := by
    rw [held]
    simp [Preview.close, active, here, named]
  refine ⟨?_, ok, ?_⟩
  · rw [held]
    simp [Preview.describe, active, here, named]
    rfl
  · simp only [Watched.step, Preview.call, ok, if_true, Watched.follow]

theorem Kept.completed (isOpen : watched.closed = false) {session : Session}
    (opened : watched.opened = some session) {frame : Memory}
    (offered : session.capture.frameData = some frame)
    {digest : ByteVec kFrameDigestBytes} (announced : digest.bytes =
      Lib.SecureHash.digest (frame.read session.capture.frameBytes))
    {sizes : List UInt16} (allowed : ∀ size ∈ sizes, AllowedSize size)
    (total : (sizes.map UInt16.toNat).sum = session.capture.frameBytes) :
    ∃ chunks : List Chunk,
      ((reads session.id digest 0 sizes).foldl Watched.step watched).chunks =
        chunks.reverse ++ watched.chunks ∧
      chunks.length = sizes.length ∧ Contiguous 0 chunks ∧ Complete chunks ∧
      chunks.flatMap Chunk.bytes = frame.read session.capture.frameBytes := by
  rcases kept.valid session opened with ⟨named, valid⟩
  rcases kept.held isOpen with ⟨other, isOther, held⟩
  rw [← Option.some.inj (opened.symm.trans isOther)] at held
  rcases @reads_run _ _ valid offered named _ announced _ held sizes allowed 0
    (by rw [total, Nat.zero_add]) with ⟨chunks, run, count, contiguous, pieces, ended⟩
  have complete : Complete chunks := by
    cases isLast : chunks.getLast? with
    | none =>
      rw [List.getLast?_eq_none_iff] at isLast
      rw [isLast] at count
      have none : sizes = [] := List.length_eq_zero_iff.mp count.symm
      rw [none] at total
      exact absurd total.symm (validCapture_frame valid offered).1
    | some last =>
      refine ⟨last, isLast, ?_⟩
      rw [(pieces last (List.mem_of_getLast? isLast)).complete, ended last isLast, total,
        Nat.zero_add]
  have whole := contiguous_rest pieces contiguous complete
  exact ⟨chunks, by rw [run], count, contiguous, complete, whole⟩

end Kept

/-- Whatever was called before, the preview is consistent. -/
theorem preview_consistent (calls : List Call) : Consistent (watch calls) := by
  have kept := watch_kept calls
  constructor
  · intro request destination destinationCapacity given
    have ok := given.elim id readChunk_bytes
    rcases kept.open_of_active (readChunk_ok ok).1 with ⟨isOpen, session, opened, held, valid⟩
    rw [held] at ok
    rcases chunkOf_ok valid ok with ⟨frame, piece⟩
    exact ⟨isOpen, session, frame, opened, piece.offered, piece.id, piece.digest⟩
  · intro call announced
    rcases announced_cases kept call announced with ⟨session, opened, isOpen, valid, state⟩
    rw [state] at announced ⊢
    cases offered : session.capture.frameData with
    | none =>
      exact absurd ((makeState_blank offered _).symm.trans announced) nofun
    | some frame =>
      exact ⟨session, frame, opened, isOpen, offered, makeState_id _ _,
        (makeState_frame valid offered _).2.2⟩
  · intro session opened chunks read contiguous complete
    exact kept.whole opened read contiguous complete
  · intro closed
    refine ⟨?_, ?_, fun session opened capture => kept.stale closed opened capture⟩
    · rw [kept.resting closed]
      rfl
    · rw [kept.resting closed]
      rfl
  · intro closed id capture named fresh valid
    exact kept.opens closed named fresh valid
  · intro isOpen session opened
    exact kept.closes isOpen opened
  · intro isOpen session opened frame offered request asked digest allowed inside capacity room
    rcases kept.valid session opened with ⟨named, valid⟩
    rcases kept.held isOpen with ⟨other, isOther, held⟩
    rw [← Option.some.inj (opened.symm.trans isOther)] at held
    have ok := readChunk_answered valid offered named asked digest allowed.1 allowed.2 inside
      room
    rcases chunkOf_ok valid ok with ⟨other, piece⟩
    rw [Option.some.inj (piece.offered.symm.trans offered)] at piece
    rw [held]
    refine ⟨ok, ?_⟩
    have bytes := piece.bytes
    rw [piece.echoed.1, piece.echoed.2] at bytes
    exact bytes
  · intro isOpen session opened frame offered digest announced sizes allowed total
    exact kept.completed isOpen opened offered announced allowed total

/-- A frame on the display, of a pack with the name "A". -/
def shownCapture : Capture where
  surface := 0
  displayAwake := true
  frameVisible := true
  packValid := true
  packName := some fun place => if place = 0 then 0x41 else 0
  packId := 1
  packRevision := 1
  packTotalBytes := 576
  packFormatVersion := kPackV1Format
  frameWidth := kPackFrameWidth
  frameHeight := kPackV1FrameHeight
  frameCount := 1
  animationActive := true
  requestedRole := 0
  resolvedRole := 0
  playback := 0
  animationToken := 1
  frameData := some fun place => place.toUInt8
  frameBytes := kPackV1FrameBytes

/-- A reader of three chunks has the frame. -/
theorem shown_frame_read :
    ∃ chunks : List Chunk,
      (watch (.openSession 1 shownCapture ::
        reads 1 (makeState 1 shownCapture).frameSha256 0 [192, 192, 128])).chunks =
          chunks.reverse ∧
      chunks.length = 3 ∧ Contiguous 0 chunks ∧ Complete chunks ∧
      chunks.flatMap Chunk.bytes =
        Memory.read (fun place => place.toUInt8) kPackV1FrameBytes := by
  have valid : validCapture shownCapture = true := by decide
  have isOpen : (watch [.openSession 1 shownCapture]).closed = false := by decide +kernel
  have made := @makeState_frame shownCapture _ valid rfl 1
  have allowed : ∀ size ∈ ([192, 192, 128] : List UInt16), AllowedSize size := by
    intro size inside
    simp only [List.mem_cons, List.not_mem_nil, or_false] at inside
    rcases inside with rfl | rfl | rfl
    all_goals exact ⟨by decide, by decide⟩
  have unread : (watch [.openSession 1 shownCapture]).chunks = [] := by decide +kernel
  have read := (preview_consistent [.openSession 1 shownCapture]).completed isOpen
    ⟨1, shownCapture⟩ rfl _ rfl _ made.2.2 _ allowed rfl
  rcases read with ⟨chunks, run, rest⟩
  refine ⟨chunks, ?_, rest⟩
  rw [watch_cons, run, unread, List.append_nil]

end Kitsu.Presentation
