import Kitsu.Ble.ActionText
import Kitsu.Ble.ReplayCache
import Mathlib.Data.Option.Basic

/-!
# Decoded actions and the ledger

A command that `decodeBleActionCommand` returns is one that `validReplayCommand`
accepts, so that the ledger can always bind it: the two functions check a
command separately, and what the second asks for the first has established.
-/

namespace Kitsu.Ble.ActionSound

open Kitsu.Lib.ByteString
open Kitsu.Ble.Action
open Kitsu.Ble.ActionText
open Kitsu.Ble.ReplayCache
open Kitsu.Companion.Base64Url
open Kitsu.Companion.Json
open Kitsu.Companion.JsonGrammar

/-! ## The identifier -/

/-- The two lower-case digits of a byte. -/
def hexPair (value : UInt8) : Bytes :=
  [lowerHex (value.toNat / 16), lowerHex (value.toNat % 16)]

/-- The text of a UUID from the byte with this index on. -/
def uuidText : Nat → Bytes → Bytes
  | _, [] => []
  | index, value :: rest =>
    (if index = 4 ∨ index = 6 ∨ index = 8 ∨ index = 10 then
      [byte '-']
    else []) ++ hexPair value ++ uuidText (index + 1) rest

/-- The position of a byte in the text, in front of the hyphen before it. -/
def position (index : Nat) : Nat :=
  2 * index + (if 4 < index then 1 else 0) + (if 6 < index then 1 else 0) +
    (if 8 < index then 1 else 0) + (if 10 < index then 1 else 0)

/-- The bytes of an identifier that a hyphen stands before. -/
def hyphenated (index : Nat) : Prop :=
  index = 4 ∨ index = 6 ∨ index = 8 ∨ index = 10

instance (index : Nat) : Decidable (hyphenated index) :=
  inferInstanceAs (Decidable (_ ∨ _))

theorem hexNibble_lt {character : UInt8} {value : Nat}
    (nibble : hexNibble character = some value) : value < 16 := by
  rw [hexNibble] at nibble
  split at nibble
  · rename_i hex
    cases nibble
    exact hexValue_lt ((isHex_iff character).mp hex)
  · cases nibble

theorem hexPair_nibbles {high low : Nat} (one : high < 16) (two : low < 16) :
    hexPair (high * 16 + low).toUInt8 = [lowerHex high, lowerHex low] := by
  have value : ((high * 16 + low).toUInt8).toNat = high * 16 + low := by
    rw [Nat.toUInt8, UInt8.toNat_ofNat']
    omega
  have top : (high * 16 + low) / 16 = high := by omega
  have bottom : (high * 16 + low) % 16 = low := by omega
  rw [hexPair, value, top, bottom]

variable {index : Nat}

theorem position_hyphen (short : index ≤ 16) :
    (position index = 8 ∨ position index = 13 ∨ position index = 18 ∨
      position index = 23) ↔ hyphenated index := by
  revert index
  decide

theorem position_succ (short : index ≤ 16) :
    position (index + 1) =
      position index + 2 + if hyphenated index then 1 else 0 := by
  revert index
  decide

/-- Behind a hyphen stands none. -/
theorem position_behind (short : index ≤ 16) (hyphen : hyphenated index) :
    ¬(position index + 1 = 8 ∨ position index + 1 = 13 ∨
      position index + 1 = 18 ∨ position index + 1 = 23) := by
  revert index
  decide

theorem uuidText_cons (index : Nat) (value : UInt8) (rest : Bytes) :
    uuidText index (value :: rest) =
      (if hyphenated index then [byte '-'] else []) ++
        (hexPair value ++ uuidText (index + 1) rest) := by
  rw [uuidText, List.append_assoc]
  rfl

variable {text : Bytes}

variable {input : Bytes}

/--
The parser writes the canonical text of the bytes it writes, as long as sixteen
bytes come out; behind a hyphen it has written that one already.
-/
theorem uuidBytes_text {source : Nat} {bytes : Bytes}
    (parsed : uuidBytes source input = some (bytes, text)) (index : Nat)
    (total : index + bytes.length = 16) :
    (source = position index → text = uuidText index bytes) ∧
      (hyphenated index → source = position index + 1 →
        byte '-' :: text = uuidText index bytes) := by
  fun_induction uuidBytes source input generalizing bytes text index with
  | case1 source =>
    cases parsed
    constructor
    · intro _
      rfl
    · intro hyphen
      simp only [hyphenated, List.length_nil] at hyphen total
      omega
  | case2 => cases parsed
  | case3 source character rest hyphen same induction =>
    obtain ⟨⟨laterBytes, laterText⟩, found, pushed⟩ :=
      Option.map_eq_some_iff.mp parsed
    cases pushed
    cases not_not.mp same
    constructor
    · rintro rfl
      have hyphenated := (position_hyphen (by omega)).mp hyphen
      exact (induction found index total).2 hyphenated rfl
    · intro hyphenated behind
      rw [behind] at hyphen
      exact absurd hyphen (position_behind (by omega) hyphenated)
  | case4 => cases parsed
  | case5 source character plain next rest high low two one induction =>
    obtain ⟨⟨laterBytes, laterText⟩, found, pushed⟩ :=
      Option.map_eq_some_iff.mp parsed
    cases pushed
    have later : index + 1 + laterBytes.length = 16 := by
      simp only [List.length_cons] at total
      omega
    have pair := hexPair_nibbles (hexNibble_lt one) (hexNibble_lt two)
    have behind := (induction found (index + 1) later).1
    have next_eq := @position_succ index (by omega)
    rw [uuidText_cons, pair]
    constructor
    · rintro rfl
      have plainIndex : ¬hyphenated index := fun hyphen =>
        plain ((position_hyphen (by omega)).mpr hyphen)
      rw [if_neg plainIndex] at next_eq ⊢
      rw [← behind next_eq.symm]
      rfl
    · intro hyphen same
      rw [if_pos hyphen] at next_eq ⊢
      rw [← behind (by omega)]
      rfl
  | case6 => cases parsed

theorem parseUuid_text {field : Field} {actionId : ByteVec 16}
    (parsed : parseUuid field = some (actionId, text)) :
    text = uuidText 0 actionId.bytes := by
  rw [parseUuid] at parsed
  split at parsed
  · cases parsed
  obtain ⟨⟨bytes, written⟩, found, parsed⟩ := Option.bind_eq_some_iff.mp parsed
  obtain ⟨array, whole, parsed⟩ := Option.bind_eq_some_iff.mp parsed
  cases parsed
  rw [ByteVec.ofBytes?] at whole
  split at whole
  · rename_i length_eq
    cases whole
    exact (uuidBytes_text found 0 (by simpa using length_eq)).1 rfl
  · cases whole

/-! ## Strings of an object -/

/-- A string value was read by the scanner of strings. -/
def FromString (field : Field) : Prop :=
  field.kind = .string → ∃ input behind,
    scanString input = some (field.value, behind)

theorem scanValue_string {behind : Bytes} {key value : Span} {kind : ValueKind}
    (scanned : scanValue input = some (value, kind, behind)) :
    FromString ⟨key, value, kind⟩ := by
  intro string
  subst string
  cases input with
  | nil => cases scanned
  | cons first rest =>
    simp only [scanValue] at scanned
    split at scanned
    · rename_i quote
      obtain ⟨⟨span, end_⟩, parsed, same⟩ :=
        Option.map_eq_some_iff.mp scanned
      obtain ⟨rfl, rfl⟩ := same
      rw [parseString, if_pos quote] at parsed
      exact ⟨rest, _, parsed⟩
    split at scanned
    · obtain ⟨_, _, same⟩ := Option.map_eq_some_iff.mp scanned
      cases same
    · obtain ⟨_, _, same⟩ := Option.map_eq_some_iff.mp scanned
      cases same

variable {fields : List Field}

variable {capacity : Nat}

theorem parseFields_strings {fuel : Nat} {result : List Field} {behind : Bytes}
    (parsed : parseFields capacity fuel fields input = .ok (result, behind))
    (before : ∀ field ∈ fields, FromString field) :
    ∀ field ∈ result, FromString field := by
  -- one more field behind the others
  have added : ∀ {fields : List Field} {source rest : Bytes}
      {key value : Span} {kind : ValueKind},
      (∀ field ∈ fields, FromString field) →
      scanValue source = some (value, kind, rest) →
      ∀ field ∈ fields ++ [⟨key, value, kind⟩], FromString field := by
    intro fields source rest key value kind before scanned field member
    rcases List.mem_append.mp member with earlier | last
    · exact before field earlier
    · cases List.mem_singleton.mp last
      exact scanValue_string scanned
  fun_induction parseFields capacity fuel fields input with
  | case1 =>
    cases parsed
    exact before
  | case2 =>
    cases parsed
    exact before
  | case11 =>
    rename_i scanned _ _ _
    rw [← (Prod.mk.inj (Except.ok.inj parsed)).1]
    exact added before scanned
  | case13 =>
    rename_i scanned _ _ _ _ _ _ induction
    exact induction parsed (added before scanned)
  | _ => cases parsed

theorem parseObject_strings {json : Bytes}
    (parsed : parseObject json capacity = .ok fields) :
    ∀ field ∈ fields, FromString field := by
  rw [parseObject] at parsed
  split at parsed
  · cases parsed
  split at parsed
  · cases parsed
  split at parsed
  · cases parsed
  simp only at parsed
  split at parsed
  · cases parsed
  rename_i found
  split at parsed
  · cases parsed
  cases parsed
  split at found
  · cases found
    nofun
  · exact parseFields_strings found nofun

theorem findField_mem {name : String} {field : Field}
    (found : findField fields name = some field) : field ∈ fields :=
  List.mem_of_find?_eq_some found

/-! ## Texts -/

theorem validUtf8_nonzero (utf8 : validUtf8 text = true) : 0 ∉ text := by
  induction size : text.length using Nat.strong_induction_on
    generalizing text with
  | _ count induction =>
    subst size
    cases text with
    | nil => exact List.not_mem_nil
    | cons first rest =>
      by_cases low : first ≤ 0x7f
      · have behind := validUtf8_ascii low utf8
        rw [validUtf8.eq_def] at utf8
        simp only [low, if_true, Bool.and_eq_true, bne_iff_ne] at utf8
        rw [List.mem_cons, not_or]
        exact ⟨fun same => utf8.1 same.symm,
          induction _ (by simp) behind rfl⟩
      · obtain ⟨character, high, later, split, valid⟩ :=
          validUtf8_character low utf8
        rw [split, List.mem_append, not_or]
        constructor
        · intro member
          exact absurd (utf8EncodeChar_high high 0 member) (by decide)
        · have positive := List.length_pos_iff.mpr
            (@String.utf8EncodeChar_ne_nil character)
          exact induction later.length (by
            rw [split, List.length_append]
            omega) valid rfl

/-- What the writer of strings returns. -/
theorem decodeString_some {value : Span}
    (decoded : decodeString value capacity = some text) :
    decodeText value.bytes = some text ∧ text.length < capacity ∧
      validUtf8 text = true := by
  rw [decodeString] at decoded
  split at decoded
  · cases decoded
  rename_i found
  split at decoded
  · cases decoded
  split at decoded
  · cases decoded
  rename_i utf8
  cases decoded
  exact ⟨found, by omega, by simpa using utf8⟩

/-- Text of the base64url alphabet is copied. -/
theorem base64_plain
    (alphabet : ∀ character ∈ text, (base64Value character).isSome = true) :
    byte '\\' ∉ text ∧ 0 ∉ text := by
  constructor
  · intro member
    exact absurd (alphabet _ member) (by decide)
  · intro member
    exact absurd (alphabet _ member) (by decide)

theorem direct_target {target : Span} (valid : validDirectTarget target = true) :
    target.escaped = false ∧ target.bytes.length = 43 ∧
      (∀ character ∈ target.bytes, (base64Value character).isSome = true) ∧
      ∃ key, decodeArray 32 target.bytes = some key ∧
        encodeGroups key.bytes = target.bytes := by
  simp only [validDirectTarget, Bool.and_eq_true, Bool.not_eq_true',
    beq_iff_eq, List.all_eq_true, kBleActionMessageTargetBytes] at valid
  obtain ⟨⟨⟨plain, length_eq⟩, alphabet⟩, canonical⟩ := valid
  refine ⟨plain, length_eq, alphabet, ?_⟩
  split at canonical
  · cases canonical
  · rename_i key decoded
    exact ⟨key, decoded, by simpa using canonical⟩

theorem channel_target {target : Span} (valid : validChannelTarget target = true) :
    target.escaped = false ∧ target.bytes.length = 1 ∧
      ∀ character ∈ target.bytes,
        byte '0' ≤ character ∧ character ≤ byte '3' := by
  simp only [validChannelTarget, Bool.and_eq_true, Bool.not_eq_true',
    beq_iff_eq, List.all_eq_true, decide_eq_true_eq] at valid
  exact ⟨valid.1.1, valid.1.2, valid.2⟩

theorem decodeText_copied (plain : byte '\\' ∉ text) :
    decodeText text = some text := by
  have copied := decodeText_plain [] plain
  rw [List.append_nil] at copied
  rw [copied]
  simp [decodeText]

/-! ## Parameters -/

/-- The target of a route that is not absent. -/
def ValidTarget (route : BleMessageRoute) (target : Span) : Prop :=
  match route with
  | .none => False
  | .direct => validDirectTarget target = true
  | .channel => validChannelTarget target = true

/-- What the decoder of messages has checked. -/
structure Message (fields : List Field) (command decoded : BleActionCommand)
    (target text : Field) : Prop where
  targetField : findField fields "target_id" = some target
  textField : findField fields "text" = some text
  textKind : text.kind = .string
  measured : ∃ textBytes, decodedStringBytes text.value.bytes =
    some textBytes ∧ textBytes ≠ 0 ∧ textBytes ≤ kBleActionMessageTextBytes
  targetValid : ValidTarget decoded.messageRoute target.value
  targetText : decodeString target.value (kBleActionMessageTargetBytes + 1) =
    some decoded.messageTarget
  messageText : decodeString text.value (kBleActionMessageTextBytes + 1) =
    some decoded.messageText
  others : decoded = { command with
    messageRoute := decoded.messageRoute
    messageTarget := decoded.messageTarget
    messageText := decoded.messageText }

variable {command decoded : BleActionCommand}

theorem decodeMessage_some (found : decodeMessage fields command = some decoded) :
    ∃ target text, Message fields command decoded target text := by
  simp only [decodeMessage, Option.bind_eq_bind, Option.bind_eq_some_iff,
    Option.guard_eq_some', Option.pure_def, Option.some.injEq] at found
  obtain ⟨_, _, route, _, target, targetField, text, textField, _, kinds, _,
    _, textBytes, measured, _, bounds, _, valid, messageTarget, targetText,
    messageText, written, _, _, rfl⟩ := found
  refine ⟨target, text, targetField, textField, kinds.2.2,
    ⟨textBytes, measured, bounds⟩, ?_, targetText, written, rfl⟩
  cases direct : route.value.equals "direct" with
  | true => simpa [ValidTarget, direct] using valid
  | false => simpa [ValidTarget, direct] using valid

variable {target : Field}

/-- The target is copied, and valid where it is recorded. -/
theorem Message.target_copied {text : Field}
    (message : Message fields command decoded target text) :
    decoded.messageTarget = target.value.bytes ∧
      ValidTarget decoded.messageRoute ⟨decoded.messageTarget, false⟩ ∧
        decoded.messageTarget ≠ [] ∧ 0 ∉ decoded.messageTarget ∧
          decoded.messageTarget.length ≤ kBleActionMessageTargetBytes := by
  obtain ⟨written, fits, utf8⟩ := decodeString_some message.targetText
  have valid := message.targetValid
  have copied : ∀ {length : Nat}, target.value.escaped = false →
      target.value.bytes.length = length → length ≠ 0 →
      byte '\\' ∉ target.value.bytes →
      decoded.messageTarget = target.value.bytes ∧
        ValidTarget decoded.messageRoute ⟨decoded.messageTarget, false⟩ ∧
          decoded.messageTarget ≠ [] ∧ 0 ∉ decoded.messageTarget ∧
            decoded.messageTarget.length ≤ kBleActionMessageTargetBytes := by
    intro length plain length_eq positive other
    have same := Option.some.inj (written.symm.trans (decodeText_copied other))
    have span : target.value = ⟨decoded.messageTarget, false⟩ := by
      rw [same, ← plain]
    refine ⟨same, span ▸ valid, ?_, validUtf8_nonzero utf8, by omega⟩
    intro empty
    rw [← same, empty] at length_eq
    exact positive length_eq.symm
  cases route : decoded.messageRoute with
  | none =>
    rw [route] at valid
    cases valid
  | direct =>
    rw [route] at valid
    obtain ⟨plain, length_eq, alphabet, _⟩ := direct_target valid
    rw [← route]
    exact copied plain length_eq (by decide) (base64_plain alphabet).1
  | channel =>
    rw [route] at valid
    obtain ⟨plain, length_eq, range⟩ := channel_target valid
    rw [← route]
    refine copied plain length_eq (by decide) ?_
    intro member
    exact absurd (range _ member).2 (by decide)

/-- A message that was decoded can be recorded. -/
theorem Message.valid {text : Field}
    (message : Message fields command decoded target text)
    (kind : decoded.kind = .sendMessage) : validMessage decoded = true := by
  obtain ⟨_, targetValid, some, nonzero, fits⟩ := message.target_copied
  obtain ⟨written, textFits, utf8⟩ := decodeString_some message.messageText
  obtain ⟨textBytes, measured, positive, _⟩ := message.measured
  have length_eq := Option.some.inj
    (measured.symm.trans (decodedStringBytes_eq written))
  have text : decoded.messageText ≠ [] := by
    intro empty
    rw [empty] at length_eq
    exact positive length_eq
  have zero := validUtf8_nonzero utf8
  rw [validMessage, if_neg (by simp [kind]), if_neg]
  · rw [utf8]
    cases route : decoded.messageRoute with
    | none =>
      rw [route] at targetValid
      cases targetValid
    | direct =>
      rw [route] at targetValid
      exact targetValid
    | channel =>
      rw [route] at targetValid
      exact targetValid
  · rintro (empty | long | empty | long | member | member)
    · exact text empty
    · omega
    · exact some empty
    · omega
    · exact nonzero member
    · exact zero member

/-- A command in front of its parameters. -/
structure Heading (command : BleActionCommand) : Prop where
  identifier : ∃ field, parseUuid field =
    some (command.actionId, command.actionIdText)
  expires : kBleActionMinimumTrustedEpoch ≤ command.expiresAtEpoch ∧
    command.expiresAtEpoch ≤ kBleActionMaximumTrustedEpoch
  defaults : command.durationMs = 0 ∧ command.advertScope = .none ∧
    command.messageRoute = .none ∧ command.messageTarget = [] ∧
      command.messageText = []
  actionIdValid : command.actionIdValid = true

theorem decodeBleActionCommand_heading {json : Bytes}
    (ok : decodeBleActionCommand json = .ok decoded) :
    ∃ outer params command, parseObject json kMaximumOuterFields = .ok outer ∧
      findField outer "params" = some params ∧ Heading command ∧
        decodeParams params command = .ok decoded := by
  rw [decodeBleActionCommand] at ok
  split at ok
  · cases ok
  split at ok
  · cases ok
  split at ok
  · cases ok
  · cases ok
  rename_i outer parsed
  split at ok
  · cases ok
  split at ok
  · cases ok
  rename_i actionId actionIdText identified
  split at ok
  · cases ok
  split at ok
  · cases ok
  split at ok
  · cases ok
  rename_i bounds
  split at ok
  · cases ok
  rename_i params found
  obtain ⟨field, _, uuid⟩ := Option.bind_eq_some_iff.mp identified
  refine ⟨outer, params, _, parsed, found, ⟨⟨field, uuid⟩, ?_,
    ⟨rfl, rfl, rfl, rfl, rfl⟩, rfl⟩, ok⟩
  constructor
  · exact Nat.le_of_not_lt fun early => bounds (.inl early)
  · exact Nat.le_of_not_lt fun late => bounds (.inr late)

/-- What the parameters add to a command of this kind. -/
inductive Parameters (fields : List Field) (command : BleActionCommand) :
    BleActionCommand → Prop where
  | care (kind : command.kind = .pet ∨ command.kind = .feed ∨
        command.kind = .play) : Parameters fields command command
  | listen {duration : Nat} (kind : command.kind = .listenOnce)
      (bounds : kBleActionMinimumListenMs ≤ duration ∧
        duration ≤ kBleActionMaximumListenMs) :
      Parameters fields command { command with durationMs := duration }
  | advertise {scope : BleAdvertScope} (kind : command.kind = .advertiseOnce)
      (known : scope = .nearby ∨ scope = .mesh) :
      Parameters fields command { command with advertScope := scope }
  | message {decoded : BleActionCommand} {target text : Field}
      (kind : command.kind = .sendMessage)
      (message : Message fields command decoded target text) :
      Parameters fields command decoded

theorem decodeParams_parameters {params : Field}
    (ok : decodeParams params command = .ok decoded) :
    ∃ fields, parseObject params.value.bytes kMaximumParamFields =
      .ok fields ∧ Parameters fields command decoded := by
  rw [decodeParams] at ok
  split at ok
  · cases ok
  split at ok
  · cases ok
  · cases ok
  rename_i fields parsed
  refine ⟨fields, parsed, ?_⟩
  simp only at ok
  split at ok
  · cases ok
  rename_i result found
  cases ok
  cases kind : command.kind with
  | listenOnce =>
    rw [kind] at found
    simp only [decodeListen, Option.bind_eq_bind, Option.bind_eq_some_iff,
      Option.guard_eq_some', Option.pure_def, Option.some.injEq] at found
    obtain ⟨_, _, duration, _, _, bounds, rfl⟩ := found
    exact .listen kind bounds
  | advertiseOnce =>
    rw [kind] at found
    simp only [decodeAdvertise, Option.bind_eq_bind,
      Option.bind_eq_some_iff, Option.guard_eq_some', Option.pure_def]
      at found
    obtain ⟨_, _, scope, _, _, _, found⟩ := found
    split at found
    · cases found
      exact .advertise kind (.inl rfl)
    · split at found
      · cases found
        exact .advertise kind (.inr rfl)
      · cases found
  | sendMessage =>
    rw [kind] at found
    obtain ⟨target, text, message⟩ := decodeMessage_some found
    exact .message kind message
  | pet =>
    rw [kind] at found
    simp only at found
    split at found
    · cases found
      exact .care (.inl kind)
    · cases found
  | feed =>
    rw [kind] at found
    simp only at found
    split at found
    · cases found
      exact .care (.inr (.inl kind))
    · cases found
  | play =>
    rw [kind] at found
    simp only at found
    split at found
    · cases found
      exact .care (.inr (.inr kind))
    · cases found

/-- Parameters leave the heading of a command as it is. -/
theorem Parameters.heading (parameters : Parameters fields command decoded) :
    decoded.kind = command.kind ∧ decoded.actionId = command.actionId ∧
      decoded.actionIdText = command.actionIdText ∧
      decoded.expiresAtEpoch = command.expiresAtEpoch ∧
      decoded.actionIdValid = command.actionIdValid := by
  cases parameters with
  | care => exact ⟨rfl, rfl, rfl, rfl, rfl⟩
  | listen => exact ⟨rfl, rfl, rfl, rfl, rfl⟩
  | advertise => exact ⟨rfl, rfl, rfl, rfl, rfl⟩
  | message kind message =>
    rw [message.others]
    exact ⟨rfl, rfl, rfl, rfl, rfl⟩

/-- The decoder's checks are the checks of the ledger. -/
theorem Parameters.valid {fields : List Field}
    {command decoded : BleActionCommand} (heading : Heading command)
    (parameters : Parameters fields command decoded) :
    validReplayCommand decoded = true := by
  obtain ⟨_, expires, ⟨duration, scope, route, target, text⟩,
    identified⟩ := heading
  obtain ⟨_, _, _, epoch, valid⟩ := parameters.heading
  have checks : validDuration decoded = true ∧ validScope decoded = true ∧
      validMessage decoded = true := by
    cases parameters with
    | care kind =>
      rcases kind with kind | kind | kind
      · simp [validDuration, validScope, validMessage, kind, duration, scope,
          route, target, text]
      · simp [validDuration, validScope, validMessage, kind, duration, scope,
          route, target, text]
      · simp [validDuration, validScope, validMessage, kind, duration, scope,
          route, target, text]
    | listen kind bounds =>
      simp [validDuration, validScope, validMessage, kind, bounds, scope,
        route, target, text]
    | advertise kind known =>
      simp [validDuration, validScope, validMessage, kind, known, duration,
        route, target, text]
    | message kind message =>
      have recorded : decoded.kind = .sendMessage := by
        rw [message.others]
        exact kind
      have absent : decoded.durationMs = 0 ∧
          decoded.advertScope = .none := by
        rw [message.others]
        exact ⟨duration, scope⟩
      refine ⟨?_, ?_, message.valid recorded⟩
      · simp [validDuration, recorded, absent]
      · simp [validScope, recorded, absent]
  simp only [validReplayCommand, valid, identified, epoch, expires.1,
    expires.2, checks.1, checks.2.1, checks.2.2, decide_true, Bool.and_true]

/-! ## Decoded actions -/

/-- The text and the target of a message that was decoded. -/
structure SoundMessage (params : List Field) (command : BleActionCommand) :
    Prop where
  text : ∃ field characters, findField params "text" = some field ∧
    Unescapes field.value.bytes characters ∧
      command.messageText = utf8Encode characters ∧
        decodedStringBytes field.value.bytes = some command.messageText.length
  bounds : 1 ≤ command.messageText.length ∧
    command.messageText.length ≤ kBleActionMessageTextBytes
  target : command.messageRoute = .direct → ∃ key : ByteVec 32,
    command.messageTarget = encodeGroups key.bytes ∧
      decodeArray 32 command.messageTarget = some key ∧
        ∀ other, validDirectTarget ⟨other, false⟩ = true →
          decodeArray 32 other = some key → other = command.messageTarget

theorem Message.sound {text : Field}
    (message : Message fields command decoded target text)
    (strings : ∀ field ∈ fields, FromString field) :
    SoundMessage fields decoded := by
  obtain ⟨written, fits, utf8⟩ := decodeString_some message.messageText
  obtain ⟨input, behind, scanned⟩ := strings text
    (findField_mem message.textField) message.textKind
  obtain ⟨characters, unescapes, same⟩ :=
    unescapes_of_decodeText scanned written utf8
  have length_eq := decodedStringBytes_eq written
  obtain ⟨textBytes, measured, positive, _⟩ := message.measured
  have counted := Option.some.inj (measured.symm.trans length_eq)
  constructor
  · exact ⟨text, characters, message.textField, unescapes, same, length_eq⟩
  · constructor
    · omega
    · omega
  · intro direct
    obtain ⟨_, valid, _⟩ := message.target_copied
    rw [direct] at valid
    obtain ⟨_, _, _, key, decodes, canonical⟩ := direct_target valid
    refine ⟨key, canonical.symm, decodes, ?_⟩
    intro other accepted decodesOther
    obtain ⟨_, _, _, again, decodesAgain, canonicalOther⟩ :=
      direct_target accepted
    cases decodesOther.symm.trans decodesAgain
    exact canonicalOther.symm.trans canonical

/--
What a decoded action guarantees to the ledger: its digest is the hash of its
bytes, so that a conflict is reported for an unexpired record of the same action
with another digest only, or where the hash has failed.
-/
structure Sound (json : Bytes) (command : BleActionCommand) : Prop where
  replayable : validReplayCommand command = true
  digest : ∀ sha256 : Bytes → Option (ByteVec 32),
    commandDigest sha256 command = sha256 (commandPreimage command)
  conflict : ∀ (sha256 : Bytes → Option (ByteVec 32)) (blob : Blob) now,
    blob.inspect sha256 command now = .conflict →
      sha256 (commandPreimage command) = none ∨
        ∃ record ∈ blob.occupied, record.actionId = command.actionId ∧
          sha256 (commandPreimage command) ≠ some record.commandDigest ∧
            now < record.expiresAtEpoch.toNat
  identifier : command.actionIdText = uuidText 0 command.actionId.bytes
  message : command.kind = .sendMessage → ∃ outer object params,
    parseObject json kMaximumOuterFields = .ok outer ∧
      findField outer "params" = some object ∧
      parseObject object.value.bytes kMaximumParamFields = .ok params ∧
      SoundMessage params command

theorem inspect_conflict {sha256 : Bytes → Option (ByteVec 32)} {blob : Blob}
    {now : Nat} (conflict : blob.inspect sha256 command now = .conflict) :
    commandDigest sha256 command = none ∨
      ∃ record ∈ blob.occupied, record.actionId = command.actionId ∧
        commandDigest sha256 command ≠ some record.commandDigest ∧
          now < record.expiresAtEpoch.toNat := by
  rw [Blob.inspect] at conflict
  split at conflict
  · rename_i failed
    exact .inl failed
  rename_i digest computed
  split at conflict
  · cases conflict
  split at conflict
  · cases conflict
  split at conflict
  · cases conflict
  split at conflict
  · cases conflict
  rename_i record found
  split at conflict
  · split at conflict
    · cases conflict
    · cases conflict
  rename_i other
  split at conflict
  · cases conflict
  refine .inr ⟨record, List.mem_of_find?_eq_some found, ?_, ?_, by omega⟩
  · have matched := List.find?_some found
    exact beq_iff_eq.mp matched
  · intro same
    rw [computed] at same
    exact other (Option.some.inj same).symm

/-- Every command the decoder returns is sound for the ledger. -/
theorem decoded_action_sound (json : Bytes) (command : BleActionCommand)
    (ok : decodeBleActionCommand json = .ok command) : Sound json command := by
  obtain ⟨outer, object, base, parsed, found, heading, params⟩ :=
    decodeBleActionCommand_heading ok
  obtain ⟨fields, inner, parameters⟩ := decodeParams_parameters params
  have valid := parameters.valid heading
  have digest : ∀ sha256 : Bytes → Option (ByteVec 32),
      commandDigest sha256 command = sha256 (commandPreimage command) := by
    intro sha256
    rw [commandDigest, valid]
    rfl
  constructor
  · exact valid
  · exact digest
  · intro sha256 blob now conflict
    rw [← digest sha256]
    exact inspect_conflict conflict
  · obtain ⟨field, uuid⟩ := heading.identifier
    obtain ⟨_, actionId, actionIdText, _⟩ := parameters.heading
    rw [actionId, actionIdText]
    exact parseUuid_text uuid
  · intro kind
    refine ⟨outer, object, fields, parsed, found, inner, ?_⟩
    cases parameters with
    | care known =>
      rcases known with known | known | known
      · cases known.symm.trans kind
      · cases known.symm.trans kind
      · cases known.symm.trans kind
    | listen known => cases known.symm.trans kind
    | advertise known => cases known.symm.trans kind
    | message known message =>
      exact message.sound (parseObject_strings inner)

/-- A message to a channel whose text holds every kind of escape. -/
def sampleMessage : Bytes :=
  ascii ("\x7b\"action_id\":\"0A1b2c3d-4e5f-6071-8293-a4b5c6d7e8f9\"," ++
    "\"kind\":\"send_message\",\"expires_at_epoch\":1800000000," ++
    "\"params\":\x7b\"route\":\"channel\",\"target_id\":\"0\"," ++
    "\"text\":\"A\\n\\u00e9\\ud83e\\udd8a\"\x7d\x7d")

theorem sample_message_sound :
    ∃ command, decodeBleActionCommand sampleMessage = .ok command ∧
      command.messageText = [65, 10, 0xc3, 0xa9, 0xf0, 0x9f, 0xa6, 0x8a] ∧
        Sound sampleMessage command := by
  cases decoded : decodeBleActionCommand sampleMessage with
  | error error =>
    have accepted : (decodeBleActionCommand sampleMessage).toBool =
        true := by decide +kernel
    rw [decoded] at accepted
    cases accepted
  | ok command =>
    have text : (decodeBleActionCommand sampleMessage).toOption.map
        (·.messageText) =
          some [65, 10, 0xc3, 0xa9, 0xf0, 0x9f, 0xa6, 0x8a] := by
      decide +kernel
    rw [decoded] at text
    exact ⟨command, rfl, Option.some.inj text,
      decoded_action_sound sampleMessage command decoded⟩

end Kitsu.Ble.ActionSound
