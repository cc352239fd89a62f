import Kitsu.Companion.Envelope
import Kitsu.Sha256

/-!
# What an envelope's text says

The text that `encodeEnvelope` writes is read back by the decoder: the decimal
sequence, the base64url arrays and the fields of the outer object, in the order
in which they are written.  The decoder itself accepts any order; it also leaves
bytes in the caller's payload buffer, which is why it is modelled a second time
with the buffer it writes to.
-/

namespace Kitsu.Companion.RoundTrip

open Kitsu.Lib.ByteString
open Kitsu.Companion.Base64Url
open Kitsu.Companion.Json
open Kitsu.Companion.Envelope

/-! ## Decimal numbers -/

theorem digit_toNat (value : Nat) :
    ((48 + value % 10).toUInt8).toNat = 48 + value % 10 := by
  apply UInt8.toNat_ofNat_of_lt'
  show 48 + value % 10 < 256
  omega

theorem isDigit_digit (value : Nat) :
    isDigit (48 + value % 10).toUInt8 = true := by
  have number := digit_toNat value
  simp only [isDigit, Bool.and_eq_true, decide_eq_true_eq,
    UInt8.le_iff_toNat_le, number]
  constructor
  · show 48 ≤ 48 + value % 10
    omega
  · show 48 + value % 10 ≤ 57
    omega

/-- Reading a digit that a number ends in. -/
theorem parseDigits_digit {value : Nat} (rest : Bytes)
    (bounded : value ≤ 2 ^ 64 - 1) :
    parseDigits (value / 10) ((48 + value % 10).toUInt8 :: rest) =
      parseDigits value rest := by
  rw [parseDigits, isDigit_digit, digit_toNat]
  simp only [Bool.not_true, Bool.false_eq_true, if_false, Nat.add_sub_cancel_left]
  rw [if_neg (by omega)]
  congr 1
  omega

theorem parseDigits_decimalDigits {fuel value : Nat} {written : Bytes}
    (fits : value < 10 ^ fuel) (positive : 0 < fuel)
    (bounded : value ≤ 2 ^ 64 - 1) :
    parseDigits 0 (decimalDigits fuel value written) =
      parseDigits value written := by
  induction fuel generalizing value written with
  | zero => omega
  | succ fuel induction =>
    rw [decimalDigits]
    split
    · rename_i last
      have step := parseDigits_digit written bounded
      rwa [last] at step
    · rename_i more
      have smaller : value / 10 < 10 ^ fuel := by
        omega
      rw [induction smaller _ (by omega), parseDigits_digit written bounded]
      by_contra none_
      obtain rfl : fuel = 0 := by omega
      omega

theorem length_decimalDigits {fuel value : Nat} {written : Bytes} :
    (decimalDigits fuel value written).length ≤ fuel + written.length := by
  induction fuel generalizing value written with
  | zero => simp [decimalDigits]
  | succ fuel induction =>
    rw [decimalDigits]
    split
    · simp only [List.length_cons]
      omega
    · have later := @induction (value / 10)
        ((48 + value % 10).toUInt8 :: written)
      simp only [List.length_cons] at later
      omega

/-- A positive number does not start with a zero. -/
theorem head_decimalDigits {fuel value : Nat} {written : Bytes}
    (fits : value < 10 ^ fuel) (positive : 0 < value) :
    ∃ digit rest, decimalDigits fuel value written = digit :: rest ∧
      digit ≠ byte '0' := by
  induction fuel generalizing value written with
  | zero =>
    omega
  | succ fuel induction =>
    rw [decimalDigits]
    split
    · refine ⟨_, _, rfl, ?_⟩
      intro zero
      have number := congrArg UInt8.toNat zero
      rw [digit_toNat] at number
      have code : (byte '0').toNat = 48 := by decide
      omega
    · apply induction
      · rw [Nat.pow_succ] at fits
        omega
      · omega

theorem digits_decimalDigits {fuel value : Nat} {written : Bytes}
    (digits : ∀ character ∈ written, isDigit character = true) :
    ∀ character ∈ decimalDigits fuel value written,
      isDigit character = true := by
  induction fuel generalizing value written with
  | zero => exact digits
  | succ fuel induction =>
    have more : ∀ character ∈ (48 + value % 10).toUInt8 :: written,
        isDigit character = true := by
      intro character member
      rcases List.mem_cons.mp member with rfl | earlier
      · exact isDigit_digit value
      · exact digits character earlier
    rw [decimalDigits]
    split
    · exact more
    · exact induction more

/-- The text of a positive number is read back. -/
theorem parseDecimal_formatDecimal {value : UInt64} (positive : value ≠ 0) :
    parseDecimal (formatDecimal value) = some value := by
  have bounded := value.toNat_lt
  have nonzero : 0 < value.toNat := by
    apply Nat.pos_of_ne_zero
    intro zero
    exact positive (UInt64.toNat_inj.mp zero)
  have fits : value.toNat < 10 ^ 20 := by omega
  obtain ⟨digit, rest, shape, leading⟩ :=
    @head_decimalDigits 20 value.toNat [] fits nonzero
  have short := @length_decimalDigits 20 value.toNat []
  have read := @parseDigits_decimalDigits 20 value.toNat [] fits
    (by decide) (by omega)
  rw [parseDecimal, formatDecimal, if_neg, read]
  · simp only [parseDigits]
    rw [if_neg (by omega)]
    simp
  · rw [shape]
    rw [shape] at short
    simp only [List.length_cons, List.length_nil] at short
    simp [leading]
    omega

/-! ## Fields -/

/-- A character that stands for itself in a string. -/
def Plain (character : UInt8) : Prop :=
  ¬(character < 0x20) ∧ character ≠ byte '"' ∧ character ≠ byte '\\'

instance (character : UInt8) : Decidable (Plain character) :=
  inferInstanceAs (Decidable (_ ∧ _ ∧ _))

variable {character : UInt8}

theorem plain_digit (digit : isDigit character = true) : Plain character := by
  have codes : byte '0' = 48 ∧ byte '9' = 57 ∧ byte '"' = 34 ∧
      byte '\\' = 92 := by decide
  simp only [isDigit, Bool.and_eq_true, decide_eq_true_eq] at digit
  unfold Plain
  grind

theorem plain_operation (allowed : operationCharacter character = true) :
    Plain character := by
  have codes : byte 'a' = 97 ∧ byte 'z' = 122 ∧ byte 'A' = 65 ∧
      byte 'Z' = 90 ∧ byte '.' = 46 ∧ byte '_' = 95 ∧ byte '-' = 45 ∧
      byte '/' = 47 ∧ byte '"' = 34 ∧ byte '\\' = 92 := by decide
  simp only [operationCharacter, Bool.or_eq_true, Bool.and_eq_true,
    decide_eq_true_eq, beq_iff_eq] at allowed
  by_cases digit : isDigit character = true
  · exact plain_digit digit
  · unfold Plain
    grind

theorem plain_symbol (value : Nat) : Plain (symbol value) := by
  have table : ∀ entry ∈ alphabet, Plain entry :=
    forall_mem_of_all (by decide)
  have bound : value % 64 < alphabet.length :=
    Nat.mod_lt _ (by decide)
  rw [symbol, List.getD_eq_getElem?_getD, List.getElem?_eq_getElem bound]
  exact table _ (List.getElem_mem bound)

theorem plain_encodeGroups (input : Bytes) :
    ∀ character ∈ encodeGroups input, Plain character := by
  fun_induction encodeGroups input with
  | case1 first second third rest value induction =>
    intro character member
    simp only [List.mem_cons] at member
    rcases member with rfl | rfl | rfl | rfl | later
    · exact plain_symbol _
    · exact plain_symbol _
    · exact plain_symbol _
    · exact plain_symbol _
    · exact induction character later
  | case2 first second value => simp [plain_symbol]
  | case3 first value => simp [plain_symbol]
  | case4 => simp

variable {text : Bytes}

theorem scanSimpleString_append (rest : Bytes)
    (plain : ∀ character ∈ text, Plain character) :
    scanSimpleString (text ++ byte '"' :: rest) = some (text, rest) := by
  induction text with
  | nil => simp [scanSimpleString]
  | cons character text induction =>
    obtain ⟨printable, quote, backslash⟩ :=
      plain character List.mem_cons_self
    have later := induction fun other member =>
      plain other (List.mem_cons_of_mem _ member)
    rw [List.cons_append, scanSimpleString, if_neg quote,
      if_neg (by simp [printable, backslash]), later]
    rfl

/-- A field with a string, in front of the rest of its object. -/
def textField (field : Field) (value rest : Bytes) : Bytes :=
  byte '"' :: (ascii field.name ++ byte '"' :: byte ':' :: byte '"' ::
    (value ++ byte '"' :: rest))

/-- A field with a digit. -/
def digitField (field : Field) (digit : UInt8) (rest : Bytes) : Bytes :=
  byte '"' :: (ascii field.name ++ byte '"' :: byte ':' :: digit :: rest)

theorem plain_name (field : Field) :
    ∀ character ∈ ascii field.name, Plain character := by
  cases field <;> exact forall_mem_of_all (by decide)

theorem fieldIndex_name (field : Field) :
    fieldIndex (ascii field.name) = some field := by
  cases field <;> decide

theorem skipWhitespace_cons (rest : Bytes) (visible : isSpace character = false) :
    skipWhitespace (character :: rest) = character :: rest := by
  simp [skipWhitespace, visible]

section Steps

variable {field : Field} {value rest : Bytes} {fields : Fields} {fuel : Nat}

/-- What the loop does behind a value. -/
def behindValue (fuel : Nat) (fields : Fields) (rest : Bytes) :
    Except ProtocolError (Fields × Bytes) :=
  match skipWhitespace rest with
  | [] => .error .malformedJson
  | next :: rest =>
    if next = byte '\x7d' then .ok (fields, rest)
    else if next ≠ byte ',' then .error .malformedJson
    else parseFields fuel fields (skipWhitespace rest)

theorem behindValue_comma (next : skipWhitespace rest = rest) :
    behindValue fuel fields (byte ',' :: rest) =
      parseFields fuel fields rest := by
  rw [behindValue, @skipWhitespace_cons (byte ',') _ (by decide)]
  simp only
  rw [if_neg (by decide), if_neg (by decide), next]

theorem behindValue_brace :
    behindValue fuel fields [byte '\x7d'] = .ok (fields, []) := by
  rw [behindValue, @skipWhitespace_cons (byte '\x7d') _ (by decide)]
  simp

/-- The name and the colon of a field that was not read before. -/
theorem parseFields_name {next : UInt8}
    (visible : isSpace next = false) (unread : fields.lookup field = none) :
    parseFields (fuel + 1) fields (byte '"' :: (ascii field.name ++
        byte '"' :: byte ':' :: next :: rest)) =
      match if field.numeric then parseUnsignedToken (next :: rest)
        else parseSimpleString (next :: rest) with
      | none => .error .malformedJson
      | some (value, rest) =>
        behindValue fuel ((field, value) :: fields) rest := by
  have name : parseSimpleString (byte '"' :: (ascii field.name ++
      byte '"' :: byte ':' :: next :: rest)) =
      some (ascii field.name, byte ':' :: next :: rest) := by
    rw [parseSimpleString, if_pos rfl,
      scanSimpleString_append _ (plain_name field)]
  rw [parseFields, name]
  · simp only [fieldIndex_name, unread, Option.isSome_none,
      Bool.false_eq_true, if_false]
    rw [@skipWhitespace_cons (byte ':') _ (by decide)]
    simp only [ne_eq, not_true_eq_false, if_false]
    rw [skipWhitespace_cons _ visible]
    rfl
  · simp

/-- A string field with a comma behind it. -/
theorem parseFields_text (textual : field.numeric = false)
    (unread : fields.lookup field = none)
    (plain : ∀ character ∈ value, Plain character)
    (next : skipWhitespace rest = rest) :
    parseFields (fuel + 1) fields
        (textField field value (byte ',' :: rest)) =
      parseFields fuel ((field, value) :: fields) rest := by
  rw [textField, parseFields_name (by decide) unread, textual]
  rw [parseSimpleString, if_pos rfl, scanSimpleString_append _ plain]
  exact behindValue_comma next

/-- The string field that ends the object. -/
theorem parseFields_last (textual : field.numeric = false)
    (unread : fields.lookup field = none)
    (plain : ∀ character ∈ value, Plain character) :
    parseFields (fuel + 1) fields (textField field value [byte '\x7d']) =
      .ok ((field, value) :: fields, []) := by
  rw [textField, parseFields_name (by decide) unread, textual]
  rw [parseSimpleString, if_pos rfl, scanSimpleString_append _ plain]
  exact behindValue_brace

/-- A field with a digit and a comma behind it. -/
theorem parseFields_digit {digit : UInt8} (numeric : field.numeric = true)
    (unread : fields.lookup field = none) (isDigit_eq : isDigit digit = true)
    (next : skipWhitespace rest = rest) :
    parseFields (fuel + 1) fields
        (digitField field digit (byte ',' :: rest)) =
      parseFields fuel ((field, [digit]) :: fields) rest := by
  have visible : isSpace digit = false := by
    have codes : byte ' ' = 32 ∧ byte '\t' = 9 ∧ byte '\r' = 13 ∧
        byte '\n' = 10 ∧ byte '0' = 48 := by decide
    simp only [isDigit, Bool.and_eq_true, decide_eq_true_eq] at isDigit_eq
    simp only [isSpace, Bool.or_eq_false_iff, beq_eq_false_iff_ne]
    grind
  have token : parseUnsignedToken (digit :: byte ',' :: rest) =
      some ([digit], byte ',' :: rest) := by
    have comma : isDigit (byte ',') = false := by decide
    simp [parseUnsignedToken, isDigit_eq, comma]
  rw [digitField, parseFields_name visible unread, numeric]
  simp only [if_true, token]
  exact behindValue_comma next

theorem skipWhitespace_textField :
    skipWhitespace (textField field value rest) =
      textField field value rest :=
  @skipWhitespace_cons (byte '"') _ (by decide)

theorem skipWhitespace_digitField {digit : UInt8} :
    skipWhitespace (digitField field digit rest) =
      digitField field digit rest :=
  @skipWhitespace_cons (byte '"') _ (by decide)

end Steps

/-! ## The outer object -/

/-- The text of an envelope, field by field. -/
def outerText (channel : UInt8) (sequence nonce requestId operation payload
    mac : Bytes) : Bytes :=
  digitField .version (byte '1') (byte ',' ::
    digitField .channel channel (byte ',' ::
      textField .sequence sequence (byte ',' :: textField .nonce nonce (byte ',' ::
          textField .requestId requestId (byte ',' ::
            textField .operation operation (byte ',' ::
              textField .payload payload (byte ',' ::
                textField .mac mac [byte '\x7d'])))))))

theorem envelopeText_eq (envelope : DecodedEnvelope) (payload : Bytes)
    (mac : Key) :
    envelopeText envelope payload mac =
      byte '\x7b' :: outerText (48 + envelope.channel.code)
        (formatDecimal envelope.sequence) (encodeGroups envelope.nonce.bytes)
        (encodeGroups envelope.requestId.bytes) envelope.operation
        (encodeGroups payload) (encodeGroups mac.bytes) := by
  have literals :
      ascii "\x7b\"v\":1,\"channel\":" = byte '\x7b' ::
        byte '"' :: (ascii Field.version.name ++ byte '"' :: byte ':' ::
          byte '1' :: byte ',' :: byte '"' :: (ascii Field.channel.name ++
            [byte '"', byte ':'])) ∧
      ascii ",\"seq\":\"" = byte ',' :: byte '"' ::
        (ascii Field.sequence.name ++ [byte '"', byte ':', byte '"']) ∧
      ascii "\",\"nonce_b64\":\"" = byte '"' :: byte ',' :: byte '"' ::
        (ascii Field.nonce.name ++ [byte '"', byte ':', byte '"']) ∧
      ascii "\",\"request_id_b64\":\"" = byte '"' :: byte ',' ::
        byte '"' :: (ascii Field.requestId.name ++
          [byte '"', byte ':', byte '"']) ∧
      ascii "\",\"op\":\"" = byte '"' :: byte ',' :: byte '"' ::
        (ascii Field.operation.name ++ [byte '"', byte ':', byte '"']) ∧
      ascii "\",\"payload_b64\":\"" = byte '"' :: byte ',' ::
        byte '"' :: (ascii Field.payload.name ++
          [byte '"', byte ':', byte '"']) ∧
      ascii "\",\"mac_b64\":\"" = byte '"' :: byte ',' :: byte '"' ::
        (ascii Field.mac.name ++ [byte '"', byte ':', byte '"']) ∧
      ascii "\"\x7d" = [byte '"', byte '\x7d'] := by
    decide
  obtain ⟨version, sequence, nonce, requestId, operation, payloads, macs,
    closing⟩ := literals
  rw [envelopeText, version, sequence, nonce, requestId, operation, payloads,
    macs, closing]
  simp only [outerText, digitField, textField, List.cons_append,
    List.append_assoc, List.nil_append]

/-- The fields as the decoder keeps them, the last one first. -/
def outerFields (channel : UInt8) (sequence nonce requestId operation payload
    mac : Bytes) : Fields :=
  [(.mac, mac), (.payload, payload), (.operation, operation),
    (.requestId, requestId), (.nonce, nonce), (.sequence, sequence),
    (.channel, [channel]), (.version, [byte '1'])]

theorem text_outerFields (channel : UInt8)
    (sequence nonce requestId operation payload mac : Bytes) (field : Field) :
    (outerFields channel sequence nonce requestId operation payload
        mac).text field =
      match field with
      | .version => [byte '1']
      | .channel => [channel]
      | .sequence => sequence
      | .nonce => nonce
      | .requestId => requestId
      | .operation => operation
      | .payload => payload
      | .mac => mac := by
  cases field <;> rfl

theorem parseOuterObject_outerText {channel : UInt8}
    {sequence nonce requestId operation payload mac : Bytes}
    (channelDigit : isDigit channel = true)
    (plain : ∀ text ∈ [sequence, nonce, requestId, operation, payload, mac],
      ∀ character ∈ text, Plain character) :
    parseOuterObject (byte '\x7b' ::
        outerText channel sequence nonce requestId operation payload mac) =
      .ok (outerFields channel sequence nonce requestId operation payload
        mac) := by
  set body := outerText channel sequence nonce requestId operation payload mac
    with body_eq
  have parsed : ∀ fuel, parseFields (fuel + 8) [] body =
      .ok (outerFields channel sequence nonce requestId operation payload mac,
        []) := by
    intro fuel
    rw [body_eq, outerText,
      parseFields_digit rfl rfl (by decide) skipWhitespace_digitField,
      parseFields_digit rfl rfl channelDigit skipWhitespace_textField,
      parseFields_text rfl rfl (plain _ (by simp)) skipWhitespace_textField,
      parseFields_text rfl rfl (plain _ (by simp)) skipWhitespace_textField,
      parseFields_text rfl rfl (plain _ (by simp)) skipWhitespace_textField,
      parseFields_text rfl rfl (plain _ (by simp)) skipWhitespace_textField,
      parseFields_text rfl rfl (plain _ (by simp)) skipWhitespace_textField,
      parseFields_last rfl rfl (plain _ (by simp))]
    rfl
  obtain ⟨fuel, enough⟩ : ∃ fuel, body.length + 1 = fuel + 8 := by
    refine ⟨body.length - 7, ?_⟩
    have long : 7 ≤ body.length := by
      simp only [body_eq, outerText, digitField, textField,
        List.length_cons, List.length_append]
      omega
    omega
  have shown : skipWhitespace body = body := skipWhitespace_digitField
  have first : body.head? ≠ some (byte '\x7d') := by
    rw [body_eq, outerText, digitField]
    simp
    decide
  rw [parseOuterObject, @skipWhitespace_cons (byte '\x7b') _ (by decide)]
  simp only [ne_eq, not_true_eq_false, if_false, shown, if_neg first, enough,
    parsed]
  rfl

/-! ## The caller's buffers -/

/-- The envelope a caller passes in; the defaults are those it is reset to. -/
@[ext]
structure EnvelopeOutput where
  version : Nat := 0
  channel : EnvelopeChannel := .request
  sequence : UInt64 := 0
  nonce : Nonce := ByteVec.zero 16
  requestId : Nonce := ByteVec.zero 16
  operation : Bytes := []
  payloadBytes : Nat := 0
deriving DecidableEq

/-- What the decoder writes for an envelope. -/
def EnvelopeOutput.of (envelope : DecodedEnvelope) (payloadBytes : Nat) :
    EnvelopeOutput :=
  ⟨1, envelope.channel, envelope.sequence, envelope.nonce,
    envelope.requestId, envelope.operation, payloadBytes⟩

/--
How a decoding ends: its error if there is one, the envelope, the payload buffer
and, for the record, the bytes that were written to the buffer on the way.
-/
structure DecodeOutcome where
  error : Option ProtocolError
  output : EnvelopeOutput
  payloadOutput : Bytes
  written : Bytes
deriving DecidableEq

/-- A buffer after its front was written. -/
def filled (payloadOutput written : Bytes) : Bytes :=
  written ++ payloadOutput.drop written.length

/-- A buffer after its front was wiped. -/
def secureZero (payloadOutput : Bytes) (bytes : Nat) : Bytes :=
  List.replicate bytes 0 ++ payloadOutput.drop bytes

/-- A failure before the payload is decoded. -/
def DecodeOutcome.untouched (error : ProtocolError) (payloadOutput : Bytes) :
    DecodeOutcome :=
  ⟨some error, {}, payloadOutput, []⟩

/-- A failure that wipes the payload. -/
def DecodeOutcome.wiped (error : ProtocolError)
    (payloadOutput written : Bytes) : DecodeOutcome :=
  ⟨some error, {}, secureZero payloadOutput written.length, written⟩

/-- The decoder from the payload on. -/
def decodePayloadInto (crypto : CompanionCrypto) (key : Key)
    (candidate : DecodedEnvelope) (fields : Fields) (payloadOutput : Bytes) :
    DecodeOutcome :=
  let text := fields.text .payload
  let maximumDecoded := base64UrlDecodedBytes text.length
  if maximumDecoded > kMaximumEnvelopePayloadBytes ∨
      maximumDecoded > payloadOutput.length then
    .untouched .payloadTooLarge payloadOutput
  else
    let decoded := decodeBase64Url text payloadOutput.length
    let written := decoded.written
    -- This failure returns without wiping what was written.
    if !decoded.accepted then
      ⟨some .invalidBase64, {}, filled payloadOutput written, written⟩
    else
      match decodeSized 32 43 (fields.text .mac) with
      | none => .wiped .invalidBase64 payloadOutput written
      | some supplied =>
        match calculateEnvelopeMac crypto key candidate written with
        | none => .wiped .cryptoFailed payloadOutput written
        | some expected =>
          if supplied ≠ expected then
            .wiped .authenticationFailed payloadOutput written
          else if !validUtf8 written then
            .wiped .invalidPayloadUtf8 payloadOutput written
          else if !jsonValid written then
            .wiped .invalidPayloadJson payloadOutput written
          else
            ⟨none, .of candidate written.length,
              filled payloadOutput written, written⟩

/-- `decodeAndVerifyEnvelope` with the buffers it is given. -/
def decodeEnvelopeInto (crypto : CompanionCrypto) (json : Bytes) (key : Key)
    (expectedChannel : EnvelopeChannel) (expectedSequence : UInt64)
    (payloadOutput : Bytes) : DecodeOutcome :=
  if json = [] then .untouched .invalidArgument payloadOutput
  else if json.length > kMaximumFrameBytes then
    .untouched .payloadTooLarge payloadOutput
  else
    match parseOuterObject json with
    | .error error => .untouched error payloadOutput
    | .ok fields =>
      match decodeCandidate fields expectedChannel expectedSequence with
      | .error error => .untouched error payloadOutput
      | .ok candidate =>
        decodePayloadInto crypto key candidate fields payloadOutput

section Agreement

variable {crypto : CompanionCrypto} {key : Key} {json payloadOutput : Bytes}
  {channel : EnvelopeChannel} {sequence : UInt64} {fields : Fields}
  {candidate : DecodedEnvelope}

/-- The outcome that a result of the decoder without buffers stands for. -/
def Agrees (payloadOutput : Bytes) (outcome : DecodeOutcome) :
    Except ProtocolError (DecodedEnvelope × Bytes) → Prop
  | .error error => outcome.error = some error
  | .ok (envelope, payload) =>
    outcome = ⟨none, .of envelope payload.length,
      filled payloadOutput payload, payload⟩

theorem decodeBase64Url_capacity {first second : Nat}
    (firstFits : base64UrlDecodedBytes text.length ≤ first)
    (secondFits : base64UrlDecodedBytes text.length ≤ second) :
    decodeBase64Url text first = decodeBase64Url text second := by
  rw [decodeBase64Url, decodeBase64Url,
    if_neg (Nat.not_lt.mpr firstFits), if_neg (Nat.not_lt.mpr secondFits)]

theorem decodePayloadInto_agrees
    (large : kMaximumEnvelopePayloadBytes ≤ payloadOutput.length) :
    Agrees payloadOutput
      (decodePayloadInto crypto key candidate fields payloadOutput)
      (match verifyCandidate crypto key candidate fields with
        | .error error => .error error
        | .ok payload => .ok (candidate, payload)) := by
  unfold decodePayloadInto verifyCandidate
  simp only
  by_cases tooLarge : base64UrlDecodedBytes (fields.text .payload).length >
      kMaximumEnvelopePayloadBytes
  · rw [if_pos (.inl tooLarge), if_pos tooLarge]
    rfl
  · have fits := Nat.not_lt.mp tooLarge
    rw [if_neg (by omega), if_neg tooLarge,
      @decodeBase64Url_capacity _ payloadOutput.length _ (by omega) fits]
    generalize decodeBase64Url (fields.text .payload)
      kMaximumEnvelopePayloadBytes = decoded
    split
    · rfl
    cases decodeSized 32 43 (fields.text .mac) with
    | none => rfl
    | some supplied =>
      cases calculateEnvelopeMac crypto key candidate decoded.written with
      | none => rfl
      | some expected =>
        simp only
        split
        · rfl
        split
        · rfl
        split
        · rfl
        · rfl

/-- With a buffer for the largest payload both models of the decoder agree. -/
theorem decodeEnvelopeInto_agrees
    (large : kMaximumEnvelopePayloadBytes ≤ payloadOutput.length) :
    Agrees payloadOutput
      (decodeEnvelopeInto crypto json key channel sequence payloadOutput)
      (decodeAndVerifyEnvelope crypto json key channel sequence) := by
  unfold decodeEnvelopeInto decodeAndVerifyEnvelope
  split
  · rfl
  split
  · rfl
  cases parseOuterObject json with
  | error error => rfl
  | ok fields =>
    simp only
    cases decodeCandidate fields channel sequence with
    | error error => rfl
    | ok candidate => exact decodePayloadInto_agrees large

/-! ## Round trip -/

/-- The candidate that an encoded envelope is read as. -/
theorem decodeCandidate_outerFields {envelope : DecodedEnvelope}
    (payload mac : Bytes) (positive : envelope.sequence ≠ 0)
    (operation : operationValid envelope.operation = true) :
    decodeCandidate
        (outerFields (48 + envelope.channel.code) (formatDecimal envelope.sequence)
          (encodeGroups envelope.nonce.bytes)
          (encodeGroups envelope.requestId.bytes) envelope.operation payload
          mac) channel sequence =
      if envelope.channel ≠ channel then .error .invalidChannel
      else if envelope.sequence ≠ sequence then .error .unexpectedSequence
      else .ok envelope := by
  have channels : channelOfDigit [48 + envelope.channel.code] =
      some envelope.channel := by
    cases envelope.channel <;> decide
  have arrays : ∀ array : Nonce,
      decodeSized 16 22 (encodeGroups array.bytes) = some array := by
    intro array
    have length_eq : (encodeGroups array.bytes).length = 22 := by
      rw [length_encodeGroups, array.length_eq]
      rfl
    rw [decodeSized, if_neg (not_not.mpr length_eq), decodeArray_encodeGroups]
  simp only [decodeCandidate, text_outerFields, channels,
    parseDecimal_formatDecimal positive, arrays, operation, ne_eq,
    not_true_eq_false, if_false, Bool.not_true, Bool.false_eq_true]

/-- The payload of an encoded envelope, read with its own key. -/
theorem decodePayloadInto_outerFields {envelope : DecodedEnvelope}
    {payload : Bytes} {mac : Key} {channelText : UInt8}
    {sequenceText nonceText requestText operationText : Bytes}
    (bounded : payload.length ≤ kMaximumEnvelopePayloadBytes)
    (utf8 : validUtf8 payload = true) (json_ : jsonValid payload = true)
    (authenticated : calculateEnvelopeMac crypto key envelope payload = some mac)
    (fits : payload.length ≤ payloadOutput.length) :
    decodePayloadInto crypto key envelope
        (outerFields channelText sequenceText nonceText requestText
          operationText (encodeGroups payload) (encodeGroups mac.bytes))
        payloadOutput =
      ⟨none, .of envelope payload.length, filled payloadOutput payload,
        payload⟩ := by
  have macs : decodeSized 32 43 (encodeGroups mac.bytes) = some mac := by
    have length_eq : (encodeGroups mac.bytes).length = 43 := by
      rw [length_encodeGroups, mac.length_eq]
      rfl
    rw [decodeSized, if_neg (not_not.mpr length_eq), decodeArray_encodeGroups]
  have small : ¬(payload.length > kMaximumEnvelopePayloadBytes ∨
      payload.length > payloadOutput.length) := by
    omega
  simp only [decodePayloadInto, text_outerFields,
    base64UrlDecodedBytes_encodeGroups, if_neg small,
    decodeBase64Url_encodeGroups fits, macs, authenticated, utf8, json_,
    Bool.not_true, Bool.false_eq_true, if_false, ne_eq, not_true_eq_false]

end Agreement

section RoundTrip

variable {crypto : CompanionCrypto} {key : Key}
  {envelope : DecodedEnvelope} {payload : Bytes}

/-- What `encodeEnvelope` asks of its arguments. -/
structure Encodable (envelope : DecodedEnvelope) (payload : Bytes) :
    Prop where
  sequence : envelope.sequence ≠ 0
  operation : operationValid envelope.operation = true
  bounded : payload.length ≤ kMaximumEnvelopePayloadBytes
  utf8 : validUtf8 payload = true
  json : jsonValid payload = true

theorem length_envelopeText (mac : Key) (encodable : Encodable envelope payload) :
    (envelopeText envelope payload mac).length ≤ kMaximumFrameBytes := by
  have operation : envelope.operation.length ≤ 48 := by
    have valid := encodable.operation
    simp only [operationValid, Bool.and_eq_true] at valid
    exact of_decide_eq_true valid.1.2
  have sequence : (formatDecimal envelope.sequence).length ≤ 20 :=
    @length_decimalDigits 20 envelope.sequence.toNat []
  have text : base64UrlEncodedBytes payload.length ≤ 16000 := by
    have bounded : payload.length ≤ 12000 := encodable.bounded
    unfold base64UrlEncodedBytes
    split <;> omega
  have short : base64UrlEncodedBytes 16 = 22 := rfl
  have long : base64UrlEncodedBytes 32 = 43 := rfl
  have literals : (ascii "\x7b\"v\":1,\"channel\":").length = 17 ∧
      (ascii ",\"seq\":\"").length = 8 ∧
      (ascii "\",\"nonce_b64\":\"").length = 15 ∧
      (ascii "\",\"request_id_b64\":\"").length = 20 ∧
      (ascii "\",\"op\":\"").length = 8 ∧
      (ascii "\",\"payload_b64\":\"").length = 17 ∧
      (ascii "\",\"mac_b64\":\"").length = 13 ∧
      (ascii "\"\x7d").length = 2 := by
    decide
  simp only [envelopeText, List.length_append, literals,
    length_encodeGroups, ByteVec.length_bytes, List.length_singleton, short,
    long, kMaximumFrameBytes]
  omega

theorem encodeEnvelope_ok {mac : Key} (encodable : Encodable envelope payload)
    (authenticated : calculateEnvelopeMac crypto key envelope payload = some mac) :
    encodeEnvelope crypto envelope payload key kMaximumFrameBytes =
      .ok (envelopeText envelope payload mac) := by
  have fits := length_envelopeText mac encodable
  have bounded := encodable.bounded
  rw [encodeEnvelope, if_neg encodable.sequence, encodable.operation,
    if_neg (by decide), if_neg (Nat.not_lt.mpr bounded), encodable.utf8,
    encodable.json, if_neg (by decide), authenticated]
  simp only
  rw [if_neg (Nat.not_lt.mpr fits)]

/-- The text of an envelope, decoded with any channel and sequence. -/
theorem decodeEnvelopeInto_envelopeText {mac : Key} {payloadOutput : Bytes}
    {channel : EnvelopeChannel} {sequence : UInt64}
    (encodable : Encodable envelope payload) (authenticated :
      calculateEnvelopeMac crypto key envelope payload = some mac)
    (fits : payload.length ≤ payloadOutput.length) :
    decodeEnvelopeInto crypto (envelopeText envelope payload mac) key channel
        sequence payloadOutput =
      if envelope.channel ≠ channel then
        .untouched .invalidChannel payloadOutput
      else if envelope.sequence ≠ sequence then
        .untouched .unexpectedSequence payloadOutput
      else
        ⟨none, .of envelope payload.length, filled payloadOutput payload,
          payload⟩ := by
  have frameFits := length_envelopeText mac encodable
  rw [envelopeText_eq] at frameFits ⊢
  have channelDigit : isDigit (48 + envelope.channel.code) = true := by
    cases envelope.channel <;> decide
  have operations : ∀ character ∈ envelope.operation, Plain character := by
    have valid := encodable.operation
    simp only [operationValid, Bool.and_eq_true, List.all_eq_true] at valid
    intro character member
    exact plain_operation (valid.2 character member)
  have digits : ∀ character ∈ formatDecimal envelope.sequence,
      Plain character := by
    intro character member
    exact plain_digit (digits_decimalDigits (by simp) character member)
  rw [decodeEnvelopeInto, if_neg (by simp),
    if_neg (Nat.not_lt.mpr frameFits),
    parseOuterObject_outerText channelDigit]
  · simp only
    rw [decodeCandidate_outerFields _ _ encodable.sequence encodable.operation]
    by_cases otherChannel : envelope.channel ≠ channel
    · simp only [if_pos otherChannel]
    by_cases otherSequence : envelope.sequence ≠ sequence
    · simp only [if_neg otherChannel, if_pos otherSequence]
    · simp only [if_neg otherChannel, if_neg otherSequence]
      exact decodePayloadInto_outerFields encodable.bounded encodable.utf8
        encodable.json authenticated fits
  · intro text member
    simp only [List.mem_cons, List.not_mem_nil, or_false] at member
    rcases member with rfl | rfl | rfl | rfl | rfl | rfl
    · exact digits
    · exact plain_encodeGroups _
    · exact plain_encodeGroups _
    · exact operations
    · exact plain_encodeGroups _
    · exact plain_encodeGroups _

end RoundTrip

/-! ## What a failure leaves behind -/

/-- The payload bytes that were written are zero again, the envelope is reset. -/
def Cleared (payloadOutput : Bytes) (outcome : DecodeOutcome) : Prop :=
  outcome.payloadOutput =
      secureZero payloadOutput outcome.written.length ∧
    outcome.output = {}

/-- Every complete group in front of the first refused one is `AAAA`. -/
def zeroGroupsOnly : Bytes → Bool
  | first :: second :: third :: fourth :: rest =>
    if [first, second, third, fourth].all
        fun character => (base64Value character).isSome then
      [first, second, third, fourth] == ascii "AAAA" &&
        zeroGroupsOnly rest
    else true
  | _ => true

/--
The payload text of a frame that gets as far as its payload: it is accepted, or
it is refused by its length alone, or only zeros are written before it is
refused.
-/
def PayloadClears (json : Bytes) (channel : EnvelopeChannel)
    (sequence : UInt64) (payloadCapacity : Nat) : Prop :=
  ∀ fields candidate, json.length ≤ kMaximumFrameBytes →
    parseOuterObject json = .ok fields →
    decodeCandidate fields channel sequence = .ok candidate →
    base64UrlDecodedBytes (fields.text .payload).length ≤
      kMaximumEnvelopePayloadBytes →
    base64UrlDecodedBytes (fields.text .payload).length ≤
      payloadCapacity →
    (decodeBase64Url (fields.text .payload) payloadCapacity).accepted =
        true ∨
      (fields.text .payload).length % 4 = 1 ∨
      zeroGroupsOnly (fields.text .payload) = true

theorem base64_codes :
    (byte '0').toNat = 48 ∧ (byte '9').toNat = 57 ∧
      (byte 'a').toNat = 97 ∧ (byte 'z').toNat = 122 ∧
      (byte 'A').toNat = 65 ∧ (byte 'Z').toNat = 90 ∧
      (byte '_').toNat = 95 ∧ (byte '-').toNat = 45 := by
  decide

theorem base64Value_zero :
    base64Value character = some 0 ↔ character = byte 'A' := by
  have codes := base64_codes
  unfold base64Value
  simp only [UInt8.le_iff_toNat_le, ← UInt8.toNat_inj]
  grind

theorem base64Value_lt {value : Nat}
    (found : base64Value character = some value) : value < 64 := by
  have codes := base64_codes
  unfold base64Value at found
  simp only [UInt8.le_iff_toNat_le, ← UInt8.toNat_inj] at found
  grind

/-- A group whose three bytes are zero is `AAAA`. -/
theorem zeroGroup_iff {first second third fourth : UInt8} {a b c d : Nat}
    (first_eq : base64Value first = some a)
    (second_eq : base64Value second = some b)
    (third_eq : base64Value third = some c)
    (fourth_eq : base64Value fourth = some d) :
    ((a * 262144 + b * 4096 + c * 64 + d) / 65536).toUInt8 = 0 ∧
        ((a * 262144 + b * 4096 + c * 64 + d) / 256).toUInt8 = 0 ∧
        (a * 262144 + b * 4096 + c * 64 + d).toUInt8 = 0 ↔
      ([first, second, third, fourth] == ascii "AAAA") = true := by
  have aBound := base64Value_lt first_eq
  have bBound := base64Value_lt second_eq
  have cBound := base64Value_lt third_eq
  have dBound := base64Value_lt fourth_eq
  have zero : ∀ number : Nat, number.toUInt8 = 0 ↔ number % 256 = 0 := by
    intro number
    rw [← UInt8.toNat_inj]
    exact Iff.of_eq (congrArg (· = 0) UInt8.toNat_ofNat')
  have text : ascii "AAAA" = [byte 'A', byte 'A', byte 'A', byte 'A'] := by
    decide
  rw [zero, zero, zero, text, beq_iff_eq]
  simp only [List.cons.injEq, and_true]
  rw [← base64Value_zero, ← base64Value_zero, ← base64Value_zero,
    ← base64Value_zero, first_eq, second_eq, third_eq, fourth_eq]
  simp only [Option.some.injEq]
  omega

theorem decodeGroups_outside {first second third fourth : UInt8} {rest : Bytes}
    (outside : ¬([first, second, third, fourth].all
      fun character => (base64Value character).isSome) = true) :
    decodeGroups (first :: second :: third :: fourth :: rest) =
      .refused := by
  rw [decodeGroups]
  split
  · rename_i first_eq second_eq third_eq fourth_eq
    rw [List.all_cons, List.all_cons, List.all_cons, List.all_cons,
      first_eq, second_eq, third_eq, fourth_eq] at outside
    exact absurd rfl outside
  · rfl

/-- A text without a complete group is refused before anything is written. -/
theorem decodeGroups_short (short : ∀ first second third fourth rest,
      text = first :: second :: third :: fourth :: rest → False)
    (refused : (decodeGroups text).accepted = false) :
    (decodeGroups text).written = [] := by
  fun_cases decodeGroups text
  case case1 => exact (short _ _ _ _ _ rfl).elim
  all_goals simp_all [decodeGroups, Decoded.refused]

/-- A refused text wrote only zeros exactly when its groups are `AAAA`. -/
theorem written_zero_iff (refused : (decodeGroups text).accepted = false) :
    (∀ value ∈ (decodeGroups text).written, value = 0) ↔
      zeroGroupsOnly text = true := by
  fun_induction zeroGroupsOnly text with
  | case1 first second third fourth rest inAlphabet induction =>
    simp only [List.all_cons, List.all_nil, Bool.and_true,
      Bool.and_eq_true, Option.isSome_iff_exists] at inAlphabet
    obtain ⟨⟨a, first_eq⟩, ⟨b, second_eq⟩, ⟨c, third_eq⟩, d, fourth_eq⟩ :=
      inAlphabet
    rw [decodeGroups, first_eq, second_eq, third_eq, fourth_eq]
      at refused ⊢
    simp only [List.mem_cons, forall_eq_or_imp, Bool.and_eq_true,
      induction refused,
      ← zeroGroup_iff first_eq second_eq third_eq fourth_eq, and_assoc]
  | case2 first second third fourth rest outside =>
    rw [decodeGroups_outside outside]
    simp [Decoded.refused]
  | case3 text short =>
    rw [decodeGroups_short short refused]
    simp

section Cleared

variable {crypto : CompanionCrypto} {key : Key}
  {json payloadOutput written : Bytes} {channel : EnvelopeChannel}
  {sequence : UInt64} {fields : Fields} {candidate : DecodedEnvelope}
  {error : ProtocolError}

theorem cleared_untouched :
    Cleared payloadOutput (.untouched error payloadOutput) :=
  ⟨rfl, rfl⟩

theorem cleared_wiped :
    Cleared payloadOutput (.wiped error payloadOutput written) :=
  ⟨rfl, rfl⟩

/-- A buffer with the payload in it is clear when the payload is zero. -/
theorem filled_eq_secureZero_iff :
    filled payloadOutput written =
        secureZero payloadOutput written.length ↔
      ∀ value ∈ written, value = 0 := by
  rw [filled, secureZero, List.append_left_inj, List.eq_replicate_iff]
  simp

/-- Every failure behind an accepted payload wipes it. -/
theorem accepted_cleared (accepted : (decodeBase64Url (fields.text .payload)
      payloadOutput.length).accepted = true)
    (failed : (decodePayloadInto crypto key candidate fields
      payloadOutput).error ≠ none) :
    Cleared payloadOutput
      (decodePayloadInto crypto key candidate fields payloadOutput) := by
  unfold decodePayloadInto at failed ⊢
  simp only [accepted, Bool.not_true, Bool.false_eq_true, if_false]
    at failed ⊢
  split
  · exact cleared_untouched
  rename_i fits
  rw [if_neg fits] at failed
  split
  · exact cleared_wiped
  rename_i supplied suppliedMac
  simp only [suppliedMac] at failed
  split
  · exact cleared_wiped
  rename_i expected expectedMac
  simp only [expectedMac] at failed
  split
  · exact cleared_wiped
  rename_i same
  rw [if_neg same] at failed
  split
  · exact cleared_wiped
  rename_i utf8
  rw [if_neg utf8] at failed
  split
  · exact cleared_wiped
  rename_i valid
  rw [if_neg valid] at failed
  exact absurd rfl failed

/-- A payload that is refused stays in the buffer unless it is zero. -/
theorem refused_cleared_iff
    (fits : base64UrlDecodedBytes (fields.text .payload).length ≤
      kMaximumEnvelopePayloadBytes)
    (holds : base64UrlDecodedBytes (fields.text .payload).length ≤
      payloadOutput.length) (refused : (decodeBase64Url (fields.text .payload)
      payloadOutput.length).accepted = false) :
    (decodePayloadInto crypto key candidate fields payloadOutput).error ≠
        none ∧
      (Cleared payloadOutput
          (decodePayloadInto crypto key candidate fields payloadOutput) ↔
        (fields.text .payload).length % 4 = 1 ∨
          zeroGroupsOnly (fields.text .payload) = true) := by
  have outcome : decodePayloadInto crypto key candidate fields
        payloadOutput =
      ⟨some .invalidBase64, {},
        filled payloadOutput (decodeBase64Url (fields.text .payload)
          payloadOutput.length).written, (decodeBase64Url (fields.text .payload)
          payloadOutput.length).written⟩ := by
    have small : ¬(base64UrlDecodedBytes (fields.text .payload).length >
          kMaximumEnvelopePayloadBytes ∨
        base64UrlDecodedBytes (fields.text .payload).length >
          payloadOutput.length) := by
      omega
    simp only [decodePayloadInto, if_neg small, refused, Bool.not_false, if_true]
  rw [outcome]
  refine ⟨by simp, ?_⟩
  have clear : Cleared payloadOutput
        ⟨some .invalidBase64, {},
          filled payloadOutput (decodeBase64Url (fields.text .payload)
            payloadOutput.length).written, (decodeBase64Url (fields.text .payload)
            payloadOutput.length).written⟩ ↔
      ∀ value ∈ (decodeBase64Url (fields.text .payload)
        payloadOutput.length).written, value = 0 := by
    rw [← @filled_eq_secureZero_iff payloadOutput]
    exact ⟨fun cleared => cleared.1, fun same => ⟨same, rfl⟩⟩
  rw [clear]
  by_cases single : (fields.text .payload).length % 4 = 1
  · have nothing : (decodeBase64Url (fields.text .payload)
        payloadOutput.length).written = [] := by
      rw [decodeBase64Url, if_pos single]
      rfl
    rw [nothing]
    simp [single]
  · have groups : decodeBase64Url (fields.text .payload)
        payloadOutput.length = decodeGroups (fields.text .payload) := by
      rw [decodeBase64Url, if_neg single, if_neg (Nat.not_lt.mpr holds)]
    rw [groups] at refused ⊢
    rw [written_zero_iff refused]
    simp [single]

theorem payload_cleared_iff :
    ((decodePayloadInto crypto key candidate fields payloadOutput).error ≠ none →
        Cleared payloadOutput
          (decodePayloadInto crypto key candidate fields payloadOutput)) ↔
      (base64UrlDecodedBytes (fields.text .payload).length ≤
          kMaximumEnvelopePayloadBytes →
        base64UrlDecodedBytes (fields.text .payload).length ≤
          payloadOutput.length → (decodeBase64Url (fields.text .payload)
            payloadOutput.length).accepted = true ∨
          (fields.text .payload).length % 4 = 1 ∨
          zeroGroupsOnly (fields.text .payload) = true) := by
  by_cases small : base64UrlDecodedBytes (fields.text .payload).length >
        kMaximumEnvelopePayloadBytes ∨
      base64UrlDecodedBytes (fields.text .payload).length >
        payloadOutput.length
  · have outcome : decodePayloadInto crypto key candidate fields
        payloadOutput = .untouched .payloadTooLarge payloadOutput := by
      simp only [decodePayloadInto, if_pos small]
    rw [outcome]
    constructor
    · intro _ fits holds
      omega
    · intro _ _
      exact cleared_untouched
  · have fits : base64UrlDecodedBytes (fields.text .payload).length ≤
        kMaximumEnvelopePayloadBytes := by
      omega
    have holds : base64UrlDecodedBytes (fields.text .payload).length ≤
        payloadOutput.length := by
      omega
    cases accepted : (decodeBase64Url (fields.text .payload)
        payloadOutput.length).accepted with
    | true =>
      constructor
      · intro _ _ _
        exact .inl rfl
      · intro _ failed
        exact accepted_cleared accepted failed
    | false =>
      obtain ⟨failed, iff⟩ := @refused_cleared_iff crypto key _ _
        candidate fits holds accepted
      constructor
      · intro cleared _ _
        exact .inr (iff.mp (cleared failed))
      · intro condition _
        rcases condition fits holds with impossible | clears
        · cases impossible
        · exact iff.mpr clears

/--
A failed decoding leaves nothing of the payload behind exactly when the frame's
payload text is accepted or refused before it wrote anything but zeros.
-/
theorem cleared_iff :
    ((decodeEnvelopeInto crypto json key channel sequence
          payloadOutput).error ≠ none → Cleared payloadOutput
          (decodeEnvelopeInto crypto json key channel sequence payloadOutput)) ↔
      PayloadClears json channel sequence payloadOutput.length := by
  unfold decodeEnvelopeInto PayloadClears
  by_cases empty : json = []
  · subst empty
    constructor
    · intro _ fields candidate _ parsed
      cases parsed
    · intro _ _
      exact cleared_untouched
  rw [if_neg empty]
  by_cases long : json.length > kMaximumFrameBytes
  · rw [if_pos long]
    constructor
    · intro _ fields candidate short
      exact absurd short (Nat.not_le.mpr long)
    · intro _ _
      exact cleared_untouched
  rw [if_neg long]
  cases parsed : parseOuterObject json with
  | error error =>
    constructor
    · intro _ fields candidate _ impossible
      cases impossible
    · intro _ _
      exact cleared_untouched
  | ok fields =>
    simp only
    cases decoded : decodeCandidate fields channel sequence with
    | error error =>
      constructor
      · intro _ others candidate _ same impossible
        cases same
        rw [decoded] at impossible
        cases impossible
      · intro _ _
        exact cleared_untouched
    | ok candidate =>
      rw [payload_cleared_iff]
      constructor
      · intro condition others other _ same _
        cases same
        exact condition
      · intro condition
        exact condition fields candidate (Nat.not_lt.mp long) rfl
          decoded

end Cleared

/-! ## The results -/

/--
An envelope that is encoded into a frame is decoded, with its own key, channel
and sequence, to the same fields and payload, and with any other channel or
sequence it is refused.  And for every byte string, a decoding that fails leaves
no payload byte and no field behind exactly when the payload text of the frame
is accepted or refused before it wrote anything but zeros.
-/
theorem envelope_round_trip (crypto : CompanionCrypto) (key : Key) :
    (∀ (envelope : DecodedEnvelope) (payload payloadOutput : Bytes),
      Encodable envelope payload →
      (calculateEnvelopeMac crypto key envelope payload).isSome = true →
      payload.length ≤ payloadOutput.length → ∃ text,
        encodeEnvelope crypto envelope payload key kMaximumFrameBytes = .ok text ∧
        decodeEnvelopeInto crypto text key envelope.channel
            envelope.sequence payloadOutput = ⟨none, .of envelope payload.length,
            filled payloadOutput payload, payload⟩ ∧ ∀ channel sequence,
          channel ≠ envelope.channel ∨ sequence ≠ envelope.sequence →
          (decodeEnvelopeInto crypto text key channel sequence
            payloadOutput).error ≠ none) ∧
    (∀ (json : Bytes) (channel : EnvelopeChannel) (sequence : UInt64)
        (payloadOutput : Bytes),
      ((decodeEnvelopeInto crypto json key channel sequence
            payloadOutput).error ≠ none → Cleared payloadOutput
            (decodeEnvelopeInto crypto json key channel sequence payloadOutput)) ↔
        PayloadClears json channel sequence payloadOutput.length) := by
  constructor
  · intro envelope payload payloadOutput encodable computed fits
    obtain ⟨mac, authenticated⟩ := Option.isSome_iff_exists.mp computed
    refine ⟨_, encodeEnvelope_ok encodable authenticated, ?_, ?_⟩
    · rw [decodeEnvelopeInto_envelopeText encodable authenticated fits]
      simp
    · intro channel sequence other
      rw [decodeEnvelopeInto_envelopeText encodable authenticated fits]
      split
      · simp [DecodeOutcome.untouched]
      rename_i sameChannel
      split
      · simp [DecodeOutcome.untouched]
      rename_i sameSequence
      rcases other with otherChannel | otherSequence
      · exact absurd (not_not.mp sameChannel).symm otherChannel
      · exact absurd (not_not.mp sameSequence).symm otherSequence
  · intro json channel sequence payloadOutput
    exact cleared_iff

/-- The primitives with the hash that the firmware carries. -/
def firmwareCrypto : CompanionCrypto where
  sha256 := fun input => some (Sha256.sha256 input)
  hmacSha256 := fun key input => some (Sha256.hmacSha256 key.bytes input)
  hkdfSha256 := fun key salt info =>
    some (Sha256.hkdfSha256 key.bytes salt info)

/-- A request for the status. -/
def sampleEnvelope : DecodedEnvelope where
  channel := .request
  sequence := 41
  nonce := ByteVec.replicate 16 1
  requestId := ByteVec.replicate 16 2
  operation := ascii "status.get"

theorem sample_round_trip :
    ∃ text,
      encodeEnvelope firmwareCrypto sampleEnvelope (ascii "\x7b\x7d")
          (ByteVec.replicate 32 3) kMaximumFrameBytes = .ok text ∧
      decodeEnvelopeInto firmwareCrypto text (ByteVec.replicate 32 3)
          .request 41 (List.replicate 4 0xee) =
        ⟨none, .of sampleEnvelope 2, ascii "\x7b\x7d" ++ [0xee, 0xee],
          ascii "\x7b\x7d"⟩ ∧
      (decodeEnvelopeInto firmwareCrypto text (ByteVec.replicate 32 3)
        .request 42 (List.replicate 4 0xee)).error ≠ none := by
  obtain ⟨text, encoded, decoded, others⟩ :=
    (envelope_round_trip firmwareCrypto (ByteVec.replicate 32 3)).1
      sampleEnvelope (ascii "\x7b\x7d") (List.replicate 4 0xee)
      ⟨by decide, by decide, by decide, by decide, by decide⟩ rfl
      (by decide)
  exact ⟨text, encoded, decoded, others .request 42 (.inr (by decide))⟩

/-- A frame whose payload is refused in its second group. -/
def refusedFrame : Bytes :=
  byte '\x7b' :: outerText (byte '0') (ascii "41")
    (encodeGroups sampleEnvelope.nonce.bytes)
    (encodeGroups sampleEnvelope.requestId.bytes) (ascii "status.get")
    (ascii "QUJD!!!!") []

theorem refused_payload_left :
    decodeEnvelopeInto firmwareCrypto refusedFrame (ByteVec.replicate 32 3)
        .request 41 (List.replicate 8 0xee) =
      ⟨some .invalidBase64, {}, ascii "ABC" ++ List.replicate 5 0xee,
        ascii "ABC"⟩ ∧
    ¬Cleared (List.replicate 8 0xee)
      (decodeEnvelopeInto firmwareCrypto refusedFrame
        (ByteVec.replicate 32 3) .request 41 (List.replicate 8 0xee)) := by
  unfold Cleared
  decide +kernel

theorem refused_payload_agrees :
    let buffer := List.replicate kMaximumEnvelopePayloadBytes 0xee
    Agrees buffer
      (decodeEnvelopeInto firmwareCrypto refusedFrame (ByteVec.replicate 32 3)
        .request 41 buffer) (decodeAndVerifyEnvelope firmwareCrypto refusedFrame
        (ByteVec.replicate 32 3) .request 41) := by
  -- the frame stays a name, so that nothing decodes it
  generalize refusedFrame = frame
  exact decodeEnvelopeInto_agrees (by simp)

end Kitsu.Companion.RoundTrip
