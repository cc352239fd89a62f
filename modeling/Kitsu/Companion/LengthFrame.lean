import Kitsu.Lib.ByteString
import Kitsu.Lib.Run

/-!
# Frames behind their length

`LengthFrameParser` and `encodeLengthFrame` of `kitsu_companion_protocol.cpp`.
The parser stores into a buffer of its caller; a store that would pass the end of
it has no result, so that a run has one exactly when no store did.

What the parser answers depends on the bytes fed since the frame began, and not
on how they were cut: the answer is the verdict on their concatenation.
-/

namespace Kitsu.Companion.LengthFrame

open Kitsu.Lib.ByteString
open Kitsu.Lib.Run

def kFrameHeaderBytes : Nat := 4

def kMaximumFrameBytes : Nat := 16 * 1024

/-- What the parser answers. -/
inductive FrameResult where
  | needMore
  | ready
  | invalidArgument
  | emptyFrame
  | oversize
  | timedOut
  | pipelinedFrame
  | outputTooSmall
deriving DecidableEq

/-- The results that give the frame up. -/
def FrameResult.isError : FrameResult → Bool
  | .needMore => false
  | .ready => false
  | _ => true

/-- More than the time allowed has passed. -/
def deadlineExpired (now started timeout : UInt32) : Bool :=
  timeout < now - started

/-- The number most significant byte first. -/
def getU32Be (input : Bytes) : Nat :=
  ofLittleEndian (input.take 4).reverse

/-- The answer of `encodeLengthFrame` and what it has written. -/
def encodeLengthFrame (payload : Bytes) (outputCapacity : Nat) :
    FrameResult × Bytes :=
  if payload.length = 0 then (.emptyFrame, [])
  else if kMaximumFrameBytes < payload.length then (.oversize, [])
  else if outputCapacity < kFrameHeaderBytes + payload.length then
    (.outputTooSmall, [])
  else (.ready, bigEndian 4 payload.length ++ payload)

/-! ## The parser -/

/-- `header` holds the `headerBytes_` bytes of the header that have arrived. -/
structure LengthFrameParser where
  storage : Option Bytes := none
  storageBytes : Nat := 0
  maximumFrameBytes : Nat := 0
  timeoutMs : UInt32 := 0
  startedAt : UInt32 := 0
  header : Bytes := []
  expectedBytes : Nat := 0
  receivedBytes : Nat := 0
  started : Bool := false
  ready : Bool := false
deriving DecidableEq

/-- Overwrite the bytes at `offset`, unless they pass the end of the buffer. -/
def memcpy (buffer : Bytes) (offset : Nat) (input : Bytes) : Option Bytes :=
  if offset + input.length ≤ buffer.length then
    some (buffer.take offset ++ input ++ buffer.drop (offset + input.length))
  else none

/-- Fill the header from the front of the input, which is left behind. -/
def fillHeader : Bytes → Bytes → Bytes × Bytes
  | header, [] => (header, [])
  | header, byte :: input =>
    if header.length < kFrameHeaderBytes then
      fillHeader (header ++ [byte]) input
    else (header, byte :: input)

namespace LengthFrameParser

/-- Forget the frame that was begun. -/
def reset (parser : LengthFrameParser) : LengthFrameParser :=
  { parser with
    startedAt := 0, header := [], expectedBytes := 0, receivedBytes := 0,
    started := false, ready := false }

/-- `begin`, with the storage its pointer refers to. -/
def begin_ (parser : LengthFrameParser) (storage : Option Bytes)
    (maximumFrameBytes : Nat) (timeoutMs : UInt32) :
    Bool × LengthFrameParser :=
  let storageBytes := (storage.map List.length).getD 0
  if storage = none ∨ storageBytes = 0 ∨ maximumFrameBytes = 0 ∨
      storageBytes < maximumFrameBytes ∨
      kMaximumFrameBytes < maximumFrameBytes ∨ timeoutMs = 0 then
    (false, { parser.reset with storage := none })
  else
    (true, { parser.reset with
      storage, storageBytes, maximumFrameBytes, timeoutMs })

/-- Ask for a frame; one that takes too long is dropped. -/
def poll (parser : LengthFrameParser) (nowMillis : UInt32) :
    FrameResult × LengthFrameParser :=
  if parser.ready then (.ready, parser)
  else if parser.started ∧
      deadlineExpired nowMillis parser.startedAt parser.timeoutMs = true then
    (.timedOut, parser.reset)
  else (.needMore, parser)

/-- The part of `feed` behind the header. -/
def storeBody (parser : LengthFrameParser) (buffer input : Bytes) :
    Option (FrameResult × LengthFrameParser) :=
  let remaining := parser.expectedBytes - parser.receivedBytes
  let copyBytes := if input.length < remaining then input.length else remaining
  let stored :=
    if copyBytes ≠ 0 then
      memcpy buffer parser.receivedBytes (input.take copyBytes)
    else some buffer
  stored.map fun buffer =>
    let parser := { parser with
      storage := some buffer
      receivedBytes := parser.receivedBytes + copyBytes }
    if copyBytes ≠ input.length then (.pipelinedFrame, parser.reset)
    else if parser.receivedBytes = parser.expectedBytes then
      (.ready, { parser with ready := true })
    else (.needMore, parser)

/-- The part of `feed` behind its deadline. -/
def assemble (parser : LengthFrameParser) (buffer input : Bytes) :
    Option (FrameResult × LengthFrameParser) :=
  let filled := fillHeader parser.header input
  let parser := { parser with header := filled.1 }
  if parser.header.length = kFrameHeaderBytes ∧ parser.expectedBytes = 0 then
    let parser := { parser with expectedBytes := getU32Be parser.header }
    if parser.expectedBytes = 0 then some (.emptyFrame, parser.reset)
    else if parser.maximumFrameBytes < parser.expectedBytes ∨
        parser.storageBytes < parser.expectedBytes then
      some (.oversize, parser.reset)
    else parser.storeBody buffer filled.2
  else if parser.header.length < kFrameHeaderBytes then
    some (.needMore, parser)
  else parser.storeBody buffer filled.2

/-- `feed`; without a result it has stored past the end of its buffer. -/
def feed (parser : LengthFrameParser) (input : Bytes) (nowMillis : UInt32) :
    Option (FrameResult × LengthFrameParser) :=
  match parser.storage with
  | none => some (.invalidArgument, parser)
  | some buffer =>
    if input.length = 0 then some (parser.poll nowMillis)
    else if parser.ready then some (.pipelinedFrame, parser.reset)
    else if parser.started = false then
      { parser with started := true, startedAt := nowMillis }.assemble
        buffer input
    else if deadlineExpired nowMillis parser.startedAt
        parser.timeoutMs then
      some (.timedOut, parser.reset)
    else parser.assemble buffer input

/-- The frame that is ready to be read. -/
def frame (parser : LengthFrameParser) : Option Bytes :=
  if parser.ready then
    parser.storage.map (List.take parser.receivedBytes)
  else none

/-- The frame was taken; the next one may begin. -/
def consume (parser : LengthFrameParser) : LengthFrameParser :=
  parser.reset

/-- Feed the chunks in turn, each at its own time. -/
def feedAll (parser : LengthFrameParser) :
    List (Bytes × UInt32) → Option (List FrameResult × LengthFrameParser)
  | [] => some ([], parser)
  | (input, nowMillis) :: later =>
    match parser.feed input nowMillis with
    | none => none
    | some (result, parser) =>
      (parser.feedAll later).map fun rest =>
        (result :: rest.1, rest.2)

end LengthFrameParser

/-- What the owner of a parser may do with it. -/
inductive Operation where
  | begin_ (storage : Option Bytes) (maximumFrameBytes : Nat)
      (timeoutMs : UInt32)
  | feed (input : Bytes) (nowMillis : UInt32)
  | poll (nowMillis : UInt32)
  | consume
  | reset

/-- A call of the parser; none where a null storage would be written to. -/
def operate (parser : LengthFrameParser) :
    Operation → Option LengthFrameParser
  | .begin_ storage maximumFrameBytes timeoutMs =>
    some (parser.begin_ storage maximumFrameBytes timeoutMs).2
  | .feed input nowMillis => (parser.feed input nowMillis).map Prod.snd
  | .poll nowMillis => some (parser.poll nowMillis).2
  | .consume => some parser.consume
  | .reset => some parser.reset

/-- A parser after some operations, if none has stored past its buffer. -/
def afterwards (operations : List Operation) : Option LengthFrameParser :=
  exec (fun parser operation => parser.bind (operate · operation)) (some {})
    operations

/-! ## The verdict on the bytes of a frame -/

/-- The length the header declares. -/
def declared (received : Bytes) : Nat :=
  getU32Be (received.take kFrameHeaderBytes)

/-- The answer to the bytes received since the frame began. -/
def verdict (maximumFrameBytes : Nat) (received : Bytes) : FrameResult :=
  if received.length < kFrameHeaderBytes then .needMore
  else if declared received = 0 then .emptyFrame
  else if maximumFrameBytes < declared received then .oversize
  else if received.length < kFrameHeaderBytes + declared received then
    .needMore
  else if received.length = kFrameHeaderBytes + declared received then .ready
  else .pipelinedFrame

/-- The parser owns a buffer and knows how long it is. -/
structure Configured (parser : LengthFrameParser) (buffer : Bytes) :
    Prop where
  storage : parser.storage = some buffer
  storageBytes : buffer.length = parser.storageBytes
  fits : parser.maximumFrameBytes ≤ parser.storageBytes
  bounded : parser.maximumFrameBytes ≤ kMaximumFrameBytes

/-- No byte of a frame has arrived. -/
def Initial (parser : LengthFrameParser) : Prop :=
  parser.reset = parser

/-- The bytes received of a frame that is not complete. -/
structure Assembling (parser : LengthFrameParser) (received : Bytes) :
    Prop where
  header : parser.header = received.take kFrameHeaderBytes
  expected : parser.expectedBytes =
    if received.length < kFrameHeaderBytes then 0 else declared received
  body : parser.receivedBytes = received.length - kFrameHeaderBytes
  notReady : parser.ready = false
  stored : ∃ buffer, Configured parser buffer ∧
    buffer.take parser.receivedBytes = received.drop kFrameHeaderBytes
  open_ : verdict parser.maximumFrameBytes received = .needMore

/-- The frame that was received is stored. -/
structure Complete (parser : LengthFrameParser) (frame : Bytes) :
    Prop where
  ready : parser.ready = true
  body : parser.receivedBytes = frame.length
  bounded : frame.length ≤ parser.maximumFrameBytes
  stored : ∃ buffer, Configured parser buffer ∧
    buffer.take parser.receivedBytes = frame

theorem Complete.frame {parser : LengthFrameParser} {frame : Bytes}
    (complete : Complete parser frame) : parser.frame = some frame := by
  obtain ⟨buffer, configured, stored⟩ := complete.stored
  rw [LengthFrameParser.frame, complete.ready, configured.storage]
  simp only [if_true, Option.map_some, stored]

/-! ### One chunk -/

theorem fillHeader_eq (header input : Bytes)
    (short : header.length ≤ kFrameHeaderBytes) :
    fillHeader header input =
      ((header ++ input).take kFrameHeaderBytes,
        input.drop (kFrameHeaderBytes - header.length)) := by
  induction input generalizing header with
  | nil => simp [fillHeader, List.take_of_length_le short]
  | cons byte input induction =>
    rw [fillHeader]
    split
    · rename_i room
      rw [induction _ (by
        rw [List.length_append, List.length_singleton]
        exact room)]
      have one : kFrameHeaderBytes - header.length =
          (kFrameHeaderBytes - (header.length + 1)) + 1 := by omega
      rw [List.length_append, List.length_singleton, one]
      simp
    · rename_i full
      have same : header.length = kFrameHeaderBytes := by omega
      rw [← same]
      simp

variable {buffer : Bytes}

theorem memcpy_inside {input : Bytes} {offset : Nat}
    (inside : offset + input.length ≤ buffer.length) :
    ∃ written, memcpy buffer offset input = some written ∧
      written.length = buffer.length ∧
      written.take (offset + input.length) = buffer.take offset ++ input := by
  refine ⟨_, if_pos inside, ?_, ?_⟩
  · simp only [List.length_append, List.length_take, List.length_drop]
    omega
  · have front : (buffer.take offset ++ input).length =
        offset + input.length := by
      simp only [List.length_append, List.length_take]
      omega
    rw [← front, List.take_left]

/-- The owner's settings are as before. -/
def SameSettings (parser next : LengthFrameParser) : Prop :=
  next.maximumFrameBytes = parser.maximumFrameBytes ∧
    next.timeoutMs = parser.timeoutMs

/-- The clock of the frame is as before. -/
def SameClock (parser next : LengthFrameParser) : Prop :=
  next.started = parser.started ∧ next.startedAt = parser.startedAt

/-- What one call answers to the bytes received, and what it leaves. -/
def Answers (parser : LengthFrameParser) (received : Bytes)
    (answer : FrameResult × LengthFrameParser) : Prop :=
  SameSettings parser answer.2 ∧
    answer.1 = verdict parser.maximumFrameBytes received ∧
      match answer.1 with
      | .needMore => Assembling answer.2 received ∧ SameClock parser answer.2
      | .ready => Complete answer.2 (received.drop kFrameHeaderBytes)
      | _ => Initial answer.2 ∧ ∃ buffer, Configured answer.2 buffer

/-- A parser that has read the header and is told the body so far. -/
structure Headed (parser : LengthFrameParser) (buffer received : Bytes) :
    Prop where
  configured : Configured parser buffer
  long : kFrameHeaderBytes ≤ received.length
  header : parser.header = received.take kFrameHeaderBytes
  expected : parser.expectedBytes = declared received
  positive : declared received ≠ 0
  bounded : declared received ≤ parser.maximumFrameBytes

theorem Initial.reset (parser : LengthFrameParser) : Initial parser.reset :=
  rfl

variable {parser : LengthFrameParser} {received : Bytes}

theorem storeBody_answers {input : Bytes}
    (headed : Headed parser buffer (received ++ input))
    (before : parser.receivedBytes = received.length - kFrameHeaderBytes)
    (room : received.length ≤ kFrameHeaderBytes + declared (received ++ input))
    (stored : buffer.take parser.receivedBytes =
      received.drop kFrameHeaderBytes) (notReady : parser.ready = false) :
    ∃ answer, parser.storeBody buffer
        (input.drop (kFrameHeaderBytes - received.length)) = some answer ∧
      Answers parser (received ++ input) answer := by
  obtain ⟨configured, long, header, expected, positive, bounded⟩ := headed
  have behind : (received ++ input).drop kFrameHeaderBytes =
      buffer.take parser.receivedBytes ++
        input.drop (kFrameHeaderBytes - received.length) := by
    rw [List.drop_append, stored]
  generalize body_eq : input.drop (kFrameHeaderBytes - received.length) = body
    at behind ⊢
  have total : (received ++ input).length =
      kFrameHeaderBytes + (parser.receivedBytes + body.length) := by
    rw [← body_eq, List.length_drop, before]
    rw [List.length_append] at long ⊢
    omega
  have capacity := configured.storageBytes
  have fits := configured.fits
  have judged : verdict parser.maximumFrameBytes (received ++ input) =
      if parser.receivedBytes + body.length < parser.expectedBytes then
        .needMore
      else if parser.receivedBytes + body.length = parser.expectedBytes then
        .ready
      else .pipelinedFrame := by
    rw [verdict, if_neg (by omega), if_neg positive, if_neg (by omega),
      total, ← expected]
    simp only [Nat.add_lt_add_iff_left, Nat.add_left_cancel_iff]
  rw [LengthFrameParser.storeBody]
  generalize copy_eq : (if body.length < parser.expectedBytes -
    parser.receivedBytes then body.length else parser.expectedBytes -
      parser.receivedBytes) = copyBytes
  have copied : copyBytes ≤ body.length ∧
      parser.receivedBytes + copyBytes ≤ parser.expectedBytes ∧
        (copyBytes = body.length ∨
          parser.receivedBytes + copyBytes = parser.expectedBytes) := by
    rw [← copy_eq]
    split
    · omega
    · omega
  obtain ⟨written, store, same, front⟩ : ∃ written,
      (if copyBytes ≠ 0 then
        memcpy buffer parser.receivedBytes (body.take copyBytes)
      else some buffer) = some written ∧ written.length = buffer.length ∧
        written.take (parser.receivedBytes + copyBytes) =
          buffer.take parser.receivedBytes ++ body.take copyBytes := by
    by_cases nothing : copyBytes = 0
    · subst nothing
      exact ⟨buffer, by simp, rfl, by simp⟩
    · have length_eq : (body.take copyBytes).length = copyBytes := by
        rw [List.length_take]
        omega
      obtain ⟨written, store, same, front⟩ := @memcpy_inside buffer
        (body.take copyBytes) parser.receivedBytes (by omega)
      rw [length_eq] at front
      exact ⟨written, by rw [if_pos nothing, store], same, front⟩
  simp only [store, Option.map_some, Option.some.injEq, exists_eq_left']
  have settled : ∀ flag, Configured { parser with
      storage := some written
      receivedBytes := parser.receivedBytes + copyBytes
      ready := flag } written := fun flag =>
    ⟨rfl, same.trans capacity, fits, configured.bounded⟩
  by_cases whole : copyBytes = body.length
  · subst whole
    rw [List.take_length, ← behind] at front
    rw [if_neg (by simp)]
    by_cases last : parser.receivedBytes + body.length = parser.expectedBytes
    · rw [if_pos last]
      refine ⟨⟨rfl, rfl⟩, ?_, ?_⟩
      · rw [judged, if_neg (by omega), if_pos last]
      · refine ⟨rfl, ?_, ?_, written, settled true, front⟩
        · rw [List.length_drop, total, Nat.add_sub_cancel_left]
        · rw [List.length_drop, total, Nat.add_sub_cancel_left, last, expected]
          exact bounded
    · rw [if_neg last]
      have open_ : verdict parser.maximumFrameBytes (received ++ input) =
          .needMore := by
        rw [judged, if_pos (by omega)]
      refine ⟨⟨rfl, rfl⟩, open_.symm, ⟨header, ?_, ?_, notReady,
        ⟨written, settled parser.ready, front⟩, open_⟩, rfl, rfl⟩
      · rw [if_neg (by omega)]
        exact expected
      · change parser.receivedBytes + body.length = _
        omega
  · rw [if_pos whole]
    refine ⟨⟨rfl, rfl⟩, ?_, .reset _, written, rfl, same.trans capacity, fits,
      configured.bounded⟩
    rw [judged, if_neg (by omega), if_neg (by omega)]

/-- The verdict on bytes that are not a whole header. -/
theorem verdict_short {maximumFrameBytes : Nat}
    (short : received.length < kFrameHeaderBytes) :
    verdict maximumFrameBytes received = .needMore :=
  if_pos short

/-- The header that has arrived is not replaced by later bytes. -/
theorem declared_append (long : kFrameHeaderBytes ≤ received.length)
    (input : Bytes) : declared (received ++ input) = declared received := by
  rw [declared, declared, List.take_append_of_le_length long]

/-- A chunk is answered by the verdict on all bytes of the frame. -/
theorem assemble_answers (assembling : Assembling parser received)
    (input : Bytes) (storage : parser.storage = some buffer) :
    ∃ answer, parser.assemble buffer input = some answer ∧
      Answers parser (received ++ input) answer := by
  obtain ⟨header, expected, body, notReady, ⟨_, configured, stored⟩, open_⟩ :=
    assembling
  cases storage.symm.trans configured.storage
  have headerLength : parser.header.length =
      min kFrameHeaderBytes received.length := by
    rw [header, List.length_take]
  have filled : fillHeader parser.header input =
      ((received ++ input).take kFrameHeaderBytes,
        input.drop (kFrameHeaderBytes - received.length)) := by
    rw [fillHeader_eq _ _ (by omega), headerLength, header]
    rcases Nat.le_total received.length kFrameHeaderBytes with short | long
    · rw [List.take_of_length_le short, Nat.min_eq_right short]
    · rw [Nat.min_eq_left long, List.take_append_of_le_length long,
        List.take_append_of_le_length (by rw [List.length_take]; omega),
        List.take_take, Nat.min_self, Nat.sub_self,
        Nat.sub_eq_zero_of_le long]
  have headLength : ((received ++ input).take kFrameHeaderBytes).length =
      min kFrameHeaderBytes (received ++ input).length :=
    List.length_take
  rw [LengthFrameParser.assemble, filled]
  simp only [headLength]
  by_cases short : (received ++ input).length < kFrameHeaderBytes
  · have before : received.length < kFrameHeaderBytes := by
      rw [List.length_append] at short
      omega
    rw [if_neg (by omega), if_pos (by omega)]
    refine ⟨_, rfl, ⟨rfl, rfl⟩, (verdict_short short).symm,
      ⟨rfl, ?_, ?_, notReady, ⟨buffer, ⟨storage, configured.storageBytes,
        configured.fits, configured.bounded⟩, ?_⟩, verdict_short short⟩, rfl, rfl⟩
    · rw [if_pos short]
      rw [if_pos before] at expected
      exact expected
    · change parser.receivedBytes = _
      omega
    · rw [List.drop_eq_nil_of_le (by omega)] at stored ⊢
      exact stored
  have full : min kFrameHeaderBytes (received ++ input).length =
      kFrameHeaderBytes := by omega
  simp only [full, true_and, Nat.lt_irrefl, if_false]
  by_cases before : received.length < kFrameHeaderBytes
  · rw [if_pos before] at expected
    have same : getU32Be ((received ++ input).take kFrameHeaderBytes) =
        declared (received ++ input) := rfl
    simp only [expected, if_true, same]
    have fits := configured.fits
    by_cases empty : declared (received ++ input) = 0
    · rw [if_pos empty]
      refine ⟨_, rfl, ⟨rfl, rfl⟩, ?_, .reset _, buffer, storage,
        configured.storageBytes, fits, configured.bounded⟩
      rw [verdict, if_neg short, if_pos empty]
    rw [if_neg empty]
    by_cases long : parser.maximumFrameBytes < declared (received ++ input)
    · rw [if_pos (.inl long)]
      refine ⟨_, rfl, ⟨rfl, rfl⟩, ?_, .reset _, buffer, storage,
        configured.storageBytes, fits, configured.bounded⟩
      rw [verdict, if_neg short, if_neg empty, if_pos long]
    rw [if_neg (by omega)]
    refine storeBody_answers ⟨⟨storage, configured.storageBytes, fits,
      configured.bounded⟩, by omega, rfl, rfl, empty, by
        exact Nat.le_of_not_lt long⟩ body ?_ stored notReady
    omega
  · rw [if_neg before] at expected
    rw [verdict, if_neg before] at open_
    have same := declared_append (Nat.le_of_not_lt before) input
    by_cases empty : declared received = 0
    · rw [if_pos empty] at open_
      cases open_
    rw [if_neg empty] at open_
    by_cases long : parser.maximumFrameBytes < declared received
    · rw [if_pos long] at open_
      cases open_
    rw [if_neg long] at open_
    have room : received.length < kFrameHeaderBytes + declared received := by
      by_contra past
      rw [if_neg past] at open_
      split at open_
      · cases open_
      · cases open_
    rw [if_neg (by rw [expected]; exact empty)]
    refine storeBody_answers ⟨⟨storage, configured.storageBytes,
      configured.fits, configured.bounded⟩, by omega, rfl, ?_, ?_, ?_⟩
      body ?_ stored notReady
    · rw [same]
      exact expected
    · rw [same]
      exact empty
    · rw [same]
      exact Nat.le_of_not_lt long
    · rw [same]
      omega

/-! ### Runs -/

theorem Assembling.begun (assembling : Assembling parser received)
    (nowMillis : UInt32) :
    Assembling { parser with started := true, startedAt := nowMillis }
      received := by
  obtain ⟨header, expected, body, notReady, ⟨buffer, configured, stored⟩,
    open_⟩ := assembling
  exact ⟨header, expected, body, notReady, ⟨buffer, ⟨configured.storage,
    configured.storageBytes, configured.fits, configured.bounded⟩, stored⟩, open_⟩

theorem Initial.assembling (initial : Initial parser)
    (configured : Configured parser buffer) : Assembling parser [] := by
  rw [← initial] at configured ⊢
  exact ⟨rfl, rfl, rfl, rfl, ⟨buffer, configured, rfl⟩, rfl⟩

/-- The parser that a chunk meets, with the clock it starts. -/
def clocked (parser : LengthFrameParser) (nowMillis : UInt32) :
    LengthFrameParser :=
  if parser.started then parser
  else { parser with started := true, startedAt := nowMillis }

/-- A chunk within the deadline is answered by the verdict on the frame. -/
theorem feed_answers {input : Bytes} (assembling : Assembling parser received)
    (nonempty : input ≠ []) {nowMillis : UInt32} (inTime : parser.started = true →
      deadlineExpired nowMillis parser.startedAt parser.timeoutMs = false) :
    ∃ answer, parser.feed input nowMillis = some answer ∧
      Answers (clocked parser nowMillis) (received ++ input) answer := by
  obtain ⟨buffer, configured, _⟩ := assembling.stored
  have length_ne : ¬input.length = 0 := by
    rw [List.length_eq_zero_iff]
    exact nonempty
  rw [LengthFrameParser.feed, configured.storage]
  simp only [if_neg length_ne, assembling.notReady, Bool.false_eq_true, if_false]
  cases started : parser.started with
  | false =>
    rw [clocked, started, if_pos rfl, if_neg (by decide)]
    have answers := assemble_answers (assembling.begun nowMillis) input
      configured.storage
    simpa only [configured.storage, assembling.notReady] using answers
  | true =>
    rw [clocked, started, if_neg (by decide), inTime started,
      if_neg (by decide), if_pos rfl]
    exact assemble_answers assembling input configured.storage

/-- What a parser is in between two operations. -/
inductive Sound (parser : LengthFrameParser) : Prop where
  | closed (storage : parser.storage = none) (initial : Initial parser)
  | assembling (received : Bytes) (state : Assembling parser received)
  | complete (frame : Bytes) (state : Complete parser frame)

theorem Sound.reset {parser : LengthFrameParser} (sound : Sound parser) :
    Sound parser.reset := by
  -- the settings survive, and with them the buffer
  have again : ∀ {buffer : Bytes}, Configured parser buffer →
      Configured parser.reset buffer := fun configured =>
    ⟨configured.storage, configured.storageBytes, configured.fits,
      configured.bounded⟩
  cases sound with
  | closed storage initial => exact .closed storage (.reset _)
  | assembling received state =>
    obtain ⟨buffer, configured, _⟩ := state.stored
    exact .assembling [] ((Initial.reset _).assembling (again configured))
  | complete frame state =>
    obtain ⟨buffer, configured, _⟩ := state.stored
    exact .assembling [] ((Initial.reset _).assembling (again configured))

/-- The parser is sound, and after an error it is in its initial state. -/
def Settled (answer : FrameResult × LengthFrameParser) : Prop :=
  Sound answer.2 ∧ (answer.1.isError = true → Initial answer.2)

theorem Sound.poll {parser : LengthFrameParser} (sound : Sound parser)
    (nowMillis : UInt32) : Settled (parser.poll nowMillis) := by
  rw [LengthFrameParser.poll]
  split
  · exact ⟨sound, nofun⟩
  · split
    · exact ⟨sound.reset, fun _ => .reset _⟩
    · exact ⟨sound, nofun⟩

theorem Answers.settled {answer : FrameResult × LengthFrameParser}
    (answers : Answers parser received answer) : Settled answer := by
  obtain ⟨_, _, state⟩ := answers
  obtain ⟨result, next⟩ := answer
  have error : (Initial next ∧ ∃ buffer, Configured next buffer) →
      Settled (result, next) := by
    rintro ⟨initial, buffer, configured⟩
    exact ⟨.assembling [] (initial.assembling configured), fun _ => initial⟩
  cases result with
  | needMore => exact ⟨.assembling received state.1, nofun⟩
  | ready => exact ⟨.complete _ state, nofun⟩
  | _ => exact error state

theorem Sound.feed {parser : LengthFrameParser} (sound : Sound parser)
    (input : Bytes) (nowMillis : UInt32) :
    ∃ answer, parser.feed input nowMillis = some answer ∧
      Settled answer := by
  have polled := sound.poll nowMillis
  have reset := sound.reset
  by_cases nonempty : input = []
  · subst nonempty
    rw [LengthFrameParser.feed]
    split
    · rename_i storage
      cases sound with
      | closed storage initial =>
        exact ⟨_, rfl, .closed storage initial, fun _ => initial⟩
      | assembling received state =>
        obtain ⟨buffer, configured, _⟩ := state.stored
        cases storage.symm.trans configured.storage
      | complete frame state =>
        obtain ⟨buffer, configured, _⟩ := state.stored
        cases storage.symm.trans configured.storage
    · exact ⟨_, rfl, polled⟩
  cases sound with
  | closed storage initial =>
    rw [LengthFrameParser.feed, storage]
    exact ⟨_, rfl, .closed storage initial, fun _ => initial⟩
  | assembling received state =>
    by_cases late : parser.started = true ∧
        deadlineExpired nowMillis parser.startedAt parser.timeoutMs = true
    · obtain ⟨buffer, configured, _⟩ := state.stored
      rw [LengthFrameParser.feed, configured.storage]
      simp only [List.length_eq_zero_iff, if_neg nonempty, state.notReady,
        late, Bool.false_eq_true, Bool.true_eq_false, if_false, if_true]
      exact ⟨_, rfl, reset, fun _ => .reset _⟩
    · have inTime : parser.started = true →
          deadlineExpired nowMillis parser.startedAt parser.timeoutMs =
            false := by
        intro started
        exact Bool.eq_false_iff.mpr fun expired => late ⟨started, expired⟩
      obtain ⟨answer, fed, answers⟩ := feed_answers state nonempty inTime
      exact ⟨answer, fed, answers.settled⟩
  | complete frame state =>
    obtain ⟨buffer, configured, _⟩ := state.stored
    rw [LengthFrameParser.feed, configured.storage]
    simp only [List.length_eq_zero_iff, if_neg nonempty, state.ready, if_true]
    exact ⟨_, rfl, reset, fun _ => .reset _⟩

theorem begin_sound (parser : LengthFrameParser) (storage : Option Bytes)
    (maximumFrameBytes : Nat) (timeoutMs : UInt32) :
    Sound (parser.begin_ storage maximumFrameBytes timeoutMs).2 := by
  rw [LengthFrameParser.begin_]
  split
  · exact .closed rfl rfl
  · rename_i accepted
    simp only [not_or] at accepted
    obtain ⟨pointer, _, _, fits, bounded, _⟩ := accepted
    obtain ⟨buffer, rfl⟩ := Option.ne_none_iff_exists'.mp pointer
    have configured : Configured
        ({ parser.reset with
          storage := some buffer, storageBytes := buffer.length,
          maximumFrameBytes, timeoutMs }) buffer :=
      ⟨rfl, rfl, Nat.le_of_not_lt fits, Nat.le_of_not_lt bounded⟩
    exact .assembling [] (Initial.assembling rfl configured)

theorem operate_sound (sound : Sound parser) (operation : Operation) :
    ∃ next, operate parser operation = some next ∧ Sound next := by
  cases operation with
  | begin_ storage maximumFrameBytes timeoutMs =>
    exact ⟨_, rfl, begin_sound parser storage maximumFrameBytes timeoutMs⟩
  | feed input nowMillis =>
    obtain ⟨answer, fed, settled⟩ := sound.feed input nowMillis
    exact ⟨answer.2, by rw [operate, fed]; rfl, settled.1⟩
  | poll nowMillis => exact ⟨_, rfl, (sound.poll nowMillis).1⟩
  | consume => exact ⟨_, rfl, sound.reset⟩
  | reset => exact ⟨_, rfl, sound.reset⟩

/-- No operation stores past the buffer, and the parser stays sound. -/
theorem afterwards_sound (operations : List Operation) :
    ∃ parser, afterwards operations = some parser ∧ Sound parser := by
  apply @exec_invariant _ _ _ _
    (fun state => ∃ parser, state = some parser ∧ Sound parser)
  · exact ⟨{}, rfl, .closed rfl rfl⟩
  · rintro _ operation ⟨parser, rfl, sound⟩
    exact operate_sound sound operation

/-! ## Reassembly -/

theorem getU32Be_bigEndian (value : Nat) (rest : Bytes) :
    getU32Be (bigEndian 4 value ++ rest) = value % 256 ^ 4 := by
  have length_eq : (bigEndian 4 value).length = 4 := by
    rw [bigEndian, List.length_reverse, length_littleEndian]
  rw [getU32Be, List.take_left' length_eq, bigEndian, List.reverse_reverse,
    ofLittleEndian_littleEndian]

section Frames

variable {payload : Bytes} {maximumFrameBytes : Nat}
  (fits : payload.length ≤ maximumFrameBytes)
  (bounded : maximumFrameBytes ≤ kMaximumFrameBytes)

include fits bounded

theorem declared_front {part rest : Bytes}
    (split : part ++ rest = bigEndian 4 payload.length ++ payload)
    (long : kFrameHeaderBytes ≤ part.length) : declared part = payload.length := by
  have small : payload.length < 256 ^ 4 := by
    have limit : kMaximumFrameBytes < 256 ^ 4 := by decide
    omega
  have four : 4 ≤ part.length := long
  have header : getU32Be (part.take kFrameHeaderBytes) =
      getU32Be (part ++ rest) := by
    rw [getU32Be, getU32Be, List.take_take, kFrameHeaderBytes,
      Nat.min_self, List.take_append_of_le_length four]
  rw [declared, header, split, getU32Be_bigEndian, Nat.mod_eq_of_lt small]

theorem verdict_front (nonzero : 1 ≤ payload.length) {part rest : Bytes}
    (split : part ++ rest = bigEndian 4 payload.length ++ payload) :
    verdict maximumFrameBytes part =
      if rest = [] then .ready else .needMore := by
  have total := congrArg List.length split
  rw [List.length_append, List.length_append, bigEndian,
    List.length_reverse, length_littleEndian] at total
  have header : kFrameHeaderBytes = 4 := rfl
  rw [verdict]
  by_cases short : part.length < kFrameHeaderBytes
  · have open_ : rest ≠ [] := by
      rintro rfl
      simp only [List.length_nil] at total
      omega
    rw [if_pos short, if_neg open_]
  · rw [declared_front fits bounded split (Nat.le_of_not_lt short),
      if_neg short, if_neg (by omega), if_neg (by omega)]
    by_cases last : rest = []
    · subst last
      simp only [List.length_nil] at total
      rw [if_neg (by omega), if_pos (by omega), if_pos rfl]
    · have positive := List.length_pos_iff.mpr last
      rw [if_pos (by omega), if_neg last]

end Frames

/-- The frame in chunks that all arrive in time, by a clock that does not wrap. -/
structure Cut (frame : Bytes) (timeoutMs : UInt32)
    (chunks : List (Bytes × Nat)) : Prop where
  whole : (chunks.map Prod.fst).flatten = frame
  nonempty : ∀ chunk ∈ chunks, chunk.1 ≠ []
  inTime : ∀ first ∈ chunks.head?, ∀ chunk ∈ chunks,
    first.2 ≤ chunk.2 ∧ chunk.2 ≤ first.2 + timeoutMs.toNat

/-- The chunks as the parser is fed them, by the clock of the device. -/
def arrivals (chunks : List (Bytes × Nat)) : List (Bytes × UInt32) :=
  chunks.map fun chunk => (chunk.1, chunk.2.toUInt32)

theorem deadline_open {start now : Nat} {timeoutMs : UInt32}
    (after : start ≤ now) (inTime : now ≤ start + timeoutMs.toNat) :
    deadlineExpired now.toUInt32 start.toUInt32 timeoutMs = false := by
  simp only [deadlineExpired, decide_eq_false_iff_not,
    UInt32.lt_iff_toNat_lt, UInt32.toNat_sub, Nat.toUInt32,
    UInt32.toNat_ofNat']
  omega

/-- The rest of a frame reaches the parser that has received its front. -/
theorem feedAll_rest {payload : Bytes} (start : Nat) (nonzero : 1 ≤ payload.length)
    (fits : payload.length ≤ parser.maximumFrameBytes)
    (bounded : parser.maximumFrameBytes ≤ kMaximumFrameBytes)
    (assembling : Assembling parser received) {chunks : List (Bytes × Nat)}
    (clock : parser.started = true → parser.startedAt = start.toUInt32)
    (begins : parser.started = false →
      ∀ first ∈ chunks.head?, first.2 = start) (last : chunks ≠ [])
    (whole : received ++ (chunks.map Prod.fst).flatten =
      bigEndian 4 payload.length ++ payload)
    (nonempty : ∀ chunk ∈ chunks, chunk.1 ≠ []) (inTime : ∀ chunk ∈ chunks,
      start ≤ chunk.2 ∧ chunk.2 ≤ start + parser.timeoutMs.toNat) :
    ∃ next, parser.feedAll (arrivals chunks) =
      some (List.replicate (chunks.length - 1) .needMore ++ [.ready], next) ∧
        next.frame = some payload := by
  induction chunks generalizing parser received with
  | nil => exact absurd rfl last
  | cons chunk later induction =>
    obtain ⟨input, now⟩ := chunk
    obtain ⟨after, before⟩ := inTime _ List.mem_cons_self
    have due : parser.started = true → deadlineExpired now.toUInt32
        parser.startedAt parser.timeoutMs = false := by
      intro started
      rw [clock started]
      exact deadline_open after before
    obtain ⟨⟨result, next⟩, fed, settings, judged, state⟩ :=
      feed_answers assembling (nonempty _ List.mem_cons_self) due
    have started : (clocked parser now.toUInt32).started = true ∧
        (clocked parser now.toUInt32).startedAt = start.toUInt32 := by
      rw [clocked]
      split
      · rename_i started
        exact ⟨started, clock started⟩
      · rename_i fresh
        have same := begins (Bool.eq_false_iff.mpr fresh) _ rfl
        exact ⟨rfl, congrArg Nat.toUInt32 same⟩
    have same : (clocked parser now.toUInt32).maximumFrameBytes =
          parser.maximumFrameBytes ∧
        (clocked parser now.toUInt32).timeoutMs = parser.timeoutMs := by
      rw [clocked]
      split
      · exact ⟨rfl, rfl⟩
      · exact ⟨rfl, rfl⟩
    rw [SameSettings, same.1, same.2] at settings
    rw [List.map_cons, List.flatten_cons, ← List.append_assoc] at whole
    rw [same.1, verdict_front fits bounded nonzero whole] at judged
    rw [arrivals, List.map_cons, LengthFrameParser.feedAll]
    simp only [fed]
    change ∃ final, (next.feedAll (arrivals later)).map _ = _ ∧ _
    cases later with
    | nil =>
      simp only [List.map_nil, List.flatten_nil, List.append_nil,
        if_true] at judged whole
      subst judged
      refine ⟨next, rfl, ?_⟩
      rw [Complete.frame state, whole, List.drop_left']
      rfl
    | cons second others =>
      have more : ((second :: others).map Prod.fst).flatten ≠ [] := by
        have some := nonempty second (by simp)
        simp [some]
      rw [if_neg more] at judged
      subst judged
      obtain ⟨assembling, sameStarted, sameStart⟩ := state
      rw [← settings.1] at fits bounded
      rw [← settings.2] at inTime
      obtain ⟨final, rest, frame⟩ := induction fits bounded assembling
        (fun _ => sameStart.trans started.2)
        (fun fresh => by
          rw [sameStarted, started.1] at fresh
          cases fresh)
        (List.cons_ne_nil _ _) whole
        (fun chunk member => nonempty chunk (List.mem_cons_of_mem _ member))
        (fun chunk member => inTime chunk (List.mem_cons_of_mem _ member))
      refine ⟨final, ?_, frame⟩
      rw [rest]
      rfl

/--
A frame the encoder has built reaches the reader of a parser in its initial
state, however it was cut.
-/
def Reassembles (parser : LengthFrameParser) : Prop :=
  ∀ payload capacity, 1 ≤ payload.length →
    payload.length ≤ parser.maximumFrameBytes →
    kFrameHeaderBytes + payload.length ≤ capacity →
    ∃ frame, encodeLengthFrame payload capacity = (.ready, frame) ∧
      ∀ chunks, Cut frame parser.timeoutMs chunks →
        ∃ next, parser.feedAll (arrivals chunks) =
          some (List.replicate (chunks.length - 1) .needMore ++ [.ready],
            next) ∧ next.frame = some payload

/--
Whatever arrives is stored inside of the buffer, no frame is longer than the
limit, and after an error the parser is in its initial state.
-/
structure Guarded (parser : LengthFrameParser) : Prop where
  feed : ∀ input nowMillis, ∃ result next,
    parser.feed input nowMillis = some (result, next) ∧
      (result.isError = true → Initial next)
  poll : ∀ nowMillis, (parser.poll nowMillis).1.isError = true →
    Initial (parser.poll nowMillis).2
  frame : ∀ frame, parser.frame = some frame →
    frame.length ≤ parser.maximumFrameBytes

theorem Initial.reassembles (initial : Initial parser)
    (configured : Configured parser buffer) : Reassembles parser := by
  intro payload capacity nonzero fits room
  have bounded := configured.bounded
  refine ⟨bigEndian 4 payload.length ++ payload, ?_, ?_⟩
  · rw [encodeLengthFrame, if_neg (by omega), if_neg (by omega),
      if_neg (by omega)]
  · intro chunks cut
    have fresh : parser.started = false := by
      rw [← initial]
      rfl
    have some : chunks ≠ [] := by
      rintro rfl
      have whole := congrArg List.length cut.whole
      simp only [List.map_nil, List.flatten_nil, List.length_nil,
        List.length_append] at whole
      omega
    cases chunks with
    | nil => exact absurd rfl some
    | cons first later =>
      apply feedAll_rest first.2 nonzero fits bounded
        (initial.assembling configured)
      · intro started
        rw [fresh] at started
        cases started
      · rintro _ _ ⟨⟩
        rfl
      · exact some
      · exact cut.whole
      · exact cut.nonempty
      · exact cut.inTime first rfl

theorem Sound.guarded (sound : Sound parser) : Guarded parser := by
  constructor
  · intro input nowMillis
    obtain ⟨answer, fed, settled⟩ := sound.feed input nowMillis
    exact ⟨answer.1, answer.2, fed, settled.2⟩
  · intro nowMillis
    exact (sound.poll nowMillis).2
  · intro frame ready
    cases sound with
    | closed storage initial =>
      rw [← initial] at ready
      cases ready
    | assembling received state =>
      rw [LengthFrameParser.frame, state.notReady] at ready
      cases ready
    | complete stored state =>
      rw [state.frame] at ready
      cases ready
      exact state.bounded

/--
After any operations no store has passed the buffer and the parser is guarded;
where it owns a buffer and is in its initial state it reassembles every frame.
-/
theorem frames_reassembled (operations : List Operation) :
    ∃ parser, afterwards operations = some parser ∧ Guarded parser ∧
      (parser.storage.isSome = true → Initial parser → Reassembles parser) := by
  obtain ⟨parser, run, sound⟩ := afterwards_sound operations
  refine ⟨parser, run, sound.guarded, ?_⟩
  intro storage initial
  cases sound with
  | closed none _ =>
    rw [none] at storage
    cases storage
  | assembling received state =>
    obtain ⟨buffer, configured, _⟩ := state.stored
    exact initial.reassembles configured
  | complete frame state =>
    obtain ⟨buffer, configured, _⟩ := state.stored
    exact initial.reassembles configured

end Kitsu.Companion.LengthFrame
