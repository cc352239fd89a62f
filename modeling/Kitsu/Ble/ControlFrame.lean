import Kitsu.Ble.Action
import Kitsu.Companion.Envelope

/-!
# Control frames

The flat objects of the handshake and of pairing, as `kitsu_ble_session.cpp`
reads and writes them.  The values are strings and unsigned integers; a frame is
matched against an exact set of field names.
-/

namespace Kitsu.Ble.ControlFrame

open Kitsu.Lib.ByteString
open Kitsu.Ble.Permissions
open Kitsu.Companion.Base64Url
open Kitsu.Companion.Json
open Kitsu.Companion.Envelope
open Kitsu.Companion.Handshake

def kMaximumControlFields : Nat := 10

/-- The kinds of values in a control frame. -/
inductive FlatValueKind where
  | string
  | unsigned
deriving DecidableEq, Repr

/-- A field of a control frame, its value still as text. -/
structure FlatField where
  key : Span
  value : Span
  kind : FlatValueKind
deriving DecidableEq

/-! ## Reading -/

/-- A string or a number without a sign. -/
def scanFlatValue (input : Bytes) :
    Option (Span × FlatValueKind × Bytes) :=
  if input.head? = some (byte '"') then
    (parseString input).map fun scanned => (scanned.1, .string, scanned.2)
  else
    (parseUnsignedToken input).map fun scanned =>
      (⟨scanned.1, false⟩, .unsigned, scanned.2)

/--
The loop over the fields.  It also ends where the input does, so a comma may be
the last byte of a frame.
-/
def parseFlatFields : Nat → List FlatField → Bytes →
    Option (List FlatField × Bytes)
  | 0, fields, input => some (fields, input)
  | _ + 1, fields, [] => some (fields, [])
  | fuel + 1, fields, input =>
    if fields.length ≥ kMaximumControlFields then none
    else
      match parseString input with
      | none => none
      | some (key, rest) =>
        if key.escaped || key.bytes == [] then none
        else if fields.any (·.key.bytes == key.bytes) then none
        else
          match skipWhitespace rest with
          | [] => none
          | colon :: rest =>
            if colon ≠ byte ':' then none
            else
              match scanFlatValue (skipWhitespace rest) with
              | none => none
              | some (value, kind, rest) =>
                let fields := fields ++ [⟨key, value, kind⟩]
                match skipWhitespace rest with
                | [] => none
                | next :: rest =>
                  if next = byte '\x7d' then some (fields, rest)
                  else if next ≠ byte ',' then none
                  else
                    parseFlatFields fuel fields
                      (skipWhitespace rest)

/-- The fields of a control frame, which holds no other objects. -/
def parseFlatObject (json : Bytes) : Option (List FlatField) :=
  if json = [] ∨ json.length > kMaximumHandshakeFrameBytes then none
  else if !validUtf8 json then none
  else
    match skipWhitespace json with
    | [] => none
    | brace :: rest =>
      if brace ≠ byte '\x7b' then none
      else
        let body := skipWhitespace rest
        if body.head? = some (byte '\x7d') then none
        else
          match parseFlatFields (body.length + 1) [] body with
          | none => none
          | some (fields, rest) =>
            if skipWhitespace rest ≠ [] then none else some fields

def findField (fields : List FlatField) (name : String) :
    Option FlatField :=
  fields.find? (·.key.equals name)

/-- The fields are the named ones and no others. -/
def schemaMatches (fields : List FlatField) (names : List String) : Bool :=
  fields.length == names.length &&
    names.all fun name => (findField fields name).isSome

/-- The version is the single digit that is expected. -/
def versionEquals (fields : List FlatField) (expected : Nat) : Bool :=
  match findField fields "v" with
  | none => false
  | some version =>
    version.kind == .unsigned &&
      version.value.bytes == [(48 + expected).toUInt8]

def validVersion (fields : List FlatField) : Bool :=
  versionEquals fields 1

/-- The field of a name is this very string. -/
def stringFieldEquals (fields : List FlatField) (name expected : String) :
    Bool :=
  match findField fields name with
  | none => false
  | some field => field.kind == .string && field.value.equals expected

/-- The buffer after a decoding into it, and whether it was filled. -/
def decodeExact {count : Nat} (fields : List FlatField) (name : String)
    (output : ByteVec count) : ByteVec count × Bool :=
  match findField fields name with
  | none => (output, false)
  | some field =>
    if field.kind ≠ .string ∨ field.value.escaped then (output, false)
    else
      let decoded := decodeBase64Url field.value.bytes count
      (output.overwrite decoded.written,
        decoded.accepted && decoded.written.length == count)

/-- What the name of a platform is made of. -/
def platformCharacter (character : UInt8) : Bool :=
  (byte 'a' ≤ character && character ≤ byte 'z') ||
    (byte 'A' ≤ character && character ≤ byte 'Z') ||
    isDigit character || character == byte '.' ||
    character == byte '_' || character == byte '-'

/-- The name of a platform, short and plain. -/
def validPlatform (value : Span) : Bool :=
  !value.escaped && value.bytes != [] && value.bytes.length ≤ 16 &&
    value.bytes.all platformCharacter

/-- The roles that can be paired. -/
def validPairingRole (role : ControllerRole) : Bool :=
  role == .owner || role == .caretaker

/-- An owner is paired by the first version, a caretaker by the second. -/
def pairingVersionForRole : ControllerRole → Nat
  | .owner => 1
  | .caretaker => 2
  | .invalid => 0

/-! ## Writing -/

/-- A writer over a buffer of this capacity. -/
structure JsonWriter where
  capacity : Nat
  written : Bytes
  ok : Bool

def JsonWriter.over (capacity : Nat) : JsonWriter := ⟨capacity, [], true⟩

/-- Write a text if it fits; after one that does not, nothing is written. -/
def JsonWriter.token (writer : JsonWriter) (text : Bytes) : JsonWriter :=
  if !writer.ok then writer
  else if writer.written.length + text.length > writer.capacity then
    { writer with ok := false }
  else { writer with written := writer.written ++ text }

/-- Write a fixed text. -/
def JsonWriter.literal (writer : JsonWriter) (text : String) : JsonWriter :=
  writer.token (ascii text)

def JsonWriter.unsignedValue (writer : JsonWriter) (value : UInt32) :
    JsonWriter :=
  writer.token (decimalDigits 10 value.toNat [])

/-- Write a string with its quotes. -/
def JsonWriter.quoted (writer : JsonWriter) (text : Bytes) : JsonWriter :=
  ((writer.literal "\"").token text).literal "\""

/-- What was written, unless the buffer was too small. -/
def JsonWriter.result (writer : JsonWriter) : Option Bytes :=
  if writer.ok then some writer.written else none

/-- The text of an array, which must have the expected length. -/
def encodeB64 {count : Nat} (array : ByteVec count) (textBytes : Nat) :
    Option Bytes :=
  match encodeBase64Url array.bytes (textBytes + 1) with
  | none => none
  | some text => if text.length = textBytes then some text else none

/-- A frame begins with these literals. -/
def frameStart (text : String) : JsonWriter :=
  (JsonWriter.over kMaximumHandshakeFrameBytes).literal text

def errorFrame (code : String) : Option Bytes :=
  (((frameStart "\x7b\"v\":1,\"type\":\"error\",\"code\":").quoted
    (ascii code)).literal "\x7d").result

/-- The frame by which the device proves itself. -/
def deviceHelloFrame (deviceNonce : Nonce) (proof : Key) :
    Option Bytes := do
  let deviceNonceB64 ← encodeB64 deviceNonce 22
  let proofB64 ← encodeB64 proof 43
  ((((frameStart
    "\x7b\"v\":1,\"type\":\"device_hello\",\"device_nonce_b64\":").quoted
      deviceNonceB64).literal ",\"proof_b64\":").quoted
        proofB64).literal "\x7d" |>.result

/-- The frame that ends the handshake. -/
def deviceOkFrame (proofB64 : Bytes) : Option Bytes :=
  (((frameStart "\x7b\"v\":1,\"type\":\"device_ok\",\"proof_b64\":").quoted
    proofB64).literal "\x7d").result

/-- The opening of a pairing frame of either version. -/
def pairingStart (version : Nat) (kind : String) : JsonWriter :=
  if version = 1 then
    ((frameStart "\x7b\"v\":1,\"type\":\"").literal kind).literal "\","
  else
    ((frameStart "\x7b\"v\":2,\"type\":\"").literal kind).literal
      "\",\"role\":\"caretaker\","

/-- The frame that asks for the button, with the time that is left for it. -/
def pairPendingFrame (version : Nat) (deviceNonceB64 : Bytes)
    (remaining : UInt32) : Option Bytes :=
  let expires := if remaining > 60000 then 60000 else remaining
  ((((((pairingStart version "pair_pending").literal
    "\"device_nonce_b64\":").quoted deviceNonceB64).literal
      ",\"expires_in_ms\":").unsignedValue expires).literal "\x7d").result

/-- The frame that hands over the root of a new controller. -/
def pairGrantFrame (version : Nat) (controllerB64 rootB64 : Bytes)
    (deviceUid : ByteVec 7) (clientNonceB64 deviceNonceB64 : Bytes)
    (proofB64 : Bytes) : Option Bytes :=
  let named :=
    ((((pairingStart version "pair_grant").literal
      "\"controller_id_b64\":").quoted controllerB64).literal
        ",\"root_b64\":").quoted rootB64
  let bound :=
    ((((named.literal ",\"device_uid\":").quoted
      (deviceUid.bytes.take 6)).literal ",\"client_nonce_b64\":").quoted
        clientNonceB64).literal ",\"device_nonce_b64\":"
  (((bound.quoted deviceNonceB64).literal ",\"proof_b64\":").quoted
    proofB64).literal "\x7d" |>.result

def pairOkFrame (version : Nat) (proofB64 : Bytes) : Option Bytes :=
  (((pairingStart version "pair_ok").literal "\"proof_b64\":").quoted
    proofB64).literal "\x7d" |>.result

end Kitsu.Ble.ControlFrame
