import Kitsu.Companion.Base64Url

/-!
# JSON text

The scanners shared by the BLE parsers and the validator of
`kitsu_companion_protocol.cpp`.  A scanner takes the input from the cursor on
and returns what is left behind it.  A container's loop is bounded by the length
of its input, of which every round consumes at least one byte.
-/

namespace Kitsu.Companion.Json

open Kitsu.Lib.ByteString
open Kitsu.Companion.Base64Url

/-- The white space of JSON. -/
def isSpace (character : UInt8) : Bool :=
  character == byte ' ' || character == byte '\t' ||
    character == byte '\r' || character == byte '\n'

/-- What follows the white space. -/
def skipWhitespace (input : Bytes) : Bytes :=
  input.dropWhile isSpace

def isDigit (character : UInt8) : Bool :=
  byte '0' ≤ character && character ≤ byte '9'

/-- The hexadecimal digits, in either case. -/
def isHex (character : UInt8) : Bool :=
  isDigit character ||
    (byte 'a' ≤ character && character ≤ byte 'f') ||
    (byte 'A' ≤ character && character ≤ byte 'F')

/-- The value of a hexadecimal digit. -/
def hexValue (character : UInt8) : Nat :=
  if character ≤ byte '9' then character.toNat - 48
  else if character ≤ byte 'F' then character.toNat - 65 + 10
  else character.toNat - 97 + 10

/-- The code unit of four hexadecimal digits. -/
def hex4Value (first second third fourth : UInt8) : Nat :=
  ((hexValue first * 16 + hexValue second) * 16 + hexValue third) * 16 +
    hexValue fourth

/-- The first half of an escaped pair. -/
def isHighSurrogate (unit : Nat) : Bool :=
  0xd800 ≤ unit && unit ≤ 0xdbff

/-- The second half of an escaped pair. -/
def isLowSurrogate (unit : Nat) : Bool :=
  0xdc00 ≤ unit && unit ≤ 0xdfff

/-- The characters that may follow a backslash on their own. -/
def isSimpleEscape (character : UInt8) : Bool :=
  (ascii "\"\\/bfnrt").contains character

/-! ## Strings -/

/-- The source text of a token; `escaped` records a backslash in it. -/
structure Span where
  bytes : Bytes
  escaped : Bool
deriving DecidableEq

/-- The span is this text, written without an escape. -/
def Span.equals (span : Span) (text : String) : Bool :=
  !span.escaped && span.bytes == ascii text

/-- Put source text in front of a scanned span. -/
def pushSource (source : Bytes) (escaped : Bool)
    (scanned : Span × Bytes) : Span × Bytes :=
  (⟨source ++ scanned.1.bytes, escaped || scanned.1.escaped⟩, scanned.2)

/-- The rest of a string behind its opening quote. -/
def scanString : Bytes → Option (Span × Bytes)
  | [] => none
  | character :: rest =>
    if character = byte '"' then some (⟨[], false⟩, rest)
    else if character < 0x20 then none
    else if character ≠ byte '\\' then
      (scanString rest).map (pushSource [character] false)
    else
      match rest with
      | [] => none
      | escape :: rest =>
        if isSimpleEscape escape then
          (scanString rest).map (pushSource [character, escape] true)
        else if escape ≠ byte 'u' then none
        else
          match rest with
          | a :: b :: c :: d :: rest =>
            if !([a, b, c, d].all isHex) then none
            else if isHighSurrogate (hex4Value a b c d) then
              match rest with
              | slash :: unicode :: e :: f :: g :: h :: rest =>
                if slash ≠ byte '\\' ∨ unicode ≠ byte 'u' then none
                else if !([e, f, g, h].all isHex) then none
                else if !isLowSurrogate (hex4Value e f g h) then
                  none
                else
                  (scanString rest).map (pushSource
                    [character, escape, a, b, c, d, slash, unicode,
                      e, f, g, h] true)
              | _ => none
            else if isLowSurrogate (hex4Value a b c d) then none
            else
              (scanString rest).map (pushSource
                [character, escape, a, b, c, d] true)
          | _ => none

/-- A string with its escapes, between its quotes. -/
def parseString : Bytes → Option (Span × Bytes)
  | [] => none
  | character :: rest =>
    if character = byte '"' then scanString rest else none

/-- A decimal token without a leading zero. -/
def parseUnsignedToken (input : Bytes) : Option (Bytes × Bytes) :=
  let digits := input.takeWhile isDigit
  if digits = [] ∨ (1 < digits.length ∧ digits.head? = some (byte '0')) then
    none
  else some (digits, input.dropWhile isDigit)

/-! ## UTF-8 -/

/-- A byte inside of a character. -/
def isContinuation (character : UInt8) : Bool :=
  character.toNat / 64 == 2

/-- The scalar is in range and not written longer than it needs. -/
def validScalar (minimum codepoint : Nat) : Bool :=
  !(codepoint < minimum || codepoint > 0x10ffff ||
    (0xd800 ≤ codepoint && codepoint ≤ 0xdfff))

/-- UTF-8 without zero bytes, surrogates and overlong forms. -/
def validUtf8 : Bytes → Bool
  | [] => true
  | first :: rest =>
    if first ≤ 0x7f then first != 0 && validUtf8 rest
    else if 0xc2 ≤ first ∧ first ≤ 0xdf then
      match rest with
      | second :: rest =>
        isContinuation second &&
          validScalar 0x80
            (first.toNat % 32 * 64 + second.toNat % 64) &&
          validUtf8 rest
      | _ => false
    else if 0xe0 ≤ first ∧ first ≤ 0xef then
      match rest with
      | second :: third :: rest =>
        isContinuation second && isContinuation third &&
          validScalar 0x800
            ((first.toNat % 16 * 64 + second.toNat % 64) * 64 +
              third.toNat % 64) &&
          validUtf8 rest
      | _ => false
    else if 0xf0 ≤ first ∧ first ≤ 0xf4 then
      match rest with
      | second :: third :: fourth :: rest =>
        isContinuation second && isContinuation third &&
          isContinuation fourth &&
          validScalar 0x10000
            (((first.toNat % 8 * 64 + second.toNat % 64) * 64 +
              third.toNat % 64) * 64 + fourth.toNat % 64) &&
          validUtf8 rest
      | _ => false
    else false

/-! ## The validator -/

namespace JsonValidator

def string (input : Bytes) : Option Bytes :=
  (parseString input).map Prod.snd

/-- A word that is expected next. -/
def literal (expected input : Bytes) : Option Bytes :=
  if input.take expected.length = expected then
    some (input.drop expected.length)
  else none

/-- At least one digit. -/
def digits (input : Bytes) : Option Bytes :=
  if input.takeWhile isDigit = [] then none
  else some (input.dropWhile isDigit)

/-- The whole part of a number; it has no leading zero. -/
def integer : Bytes → Option Bytes
  | [] => none
  | first :: rest =>
    if first = byte '0' then
      match rest with
      | next :: _ => if isDigit next then none else some rest
      | [] => some rest
    else digits (first :: rest)

/-- The digits behind a point, if there is one. -/
def fraction : Bytes → Option Bytes
  | [] => some []
  | first :: rest =>
    if first = byte '.' then digits rest else some (first :: rest)

/-- The exponent of a number, if there is one. -/
def exponent : Bytes → Option Bytes
  | [] => some []
  | first :: rest =>
    if first = byte 'e' ∨ first = byte 'E' then
      match rest with
      | [] => none
      | sign :: later =>
        if sign = byte '+' ∨ sign = byte '-' then digits later
        else digits rest
    else some (first :: rest)

/-- A number; what follows it is returned. -/
def number (input : Bytes) : Option Bytes :=
  let unsigned :=
    match input with
    | [] => []
    | first :: rest => if first = byte '-' then rest else first :: rest
  ((integer unsigned).bind fraction).bind exponent

variable (value : Bytes → Option Bytes)

/-- The members of an object whose values are read by `value`. -/
def members : Nat → Bytes → Option Bytes
  | 0, _ => none
  | fuel + 1, input =>
    match string input with
    | none => none
    | some rest =>
      match skipWhitespace rest with
      | [] => none
      | colon :: rest =>
        if colon ≠ byte ':' then none
        else
          match value (skipWhitespace rest) with
          | none => none
          | some rest =>
            match skipWhitespace rest with
            | [] => none
            | next :: rest =>
              if next = byte '\x7d' then some rest
              else if next ≠ byte ',' then none
              else members fuel (skipWhitespace rest)

/-- The members of an object, behind its opening brace. -/
def object (input : Bytes) : Option Bytes :=
  match skipWhitespace input with
  | [] => none
  | next :: rest =>
    if next = byte '\x7d' then some rest
    else members value (rest.length + 1) (next :: rest)

/-- The elements of an array whose values are read by `value`. -/
def elements : Nat → Bytes → Option Bytes
  | 0, _ => none
  | fuel + 1, input =>
    match value input with
    | none => none
    | some rest =>
      match skipWhitespace rest with
      | [] => none
      | next :: rest =>
        if next = byte ']' then some rest
        else if next ≠ byte ',' then none
        else elements fuel (skipWhitespace rest)

/-- The elements of an array, behind its opening bracket. -/
def array (input : Bytes) : Option Bytes :=
  match skipWhitespace input with
  | [] => none
  | next :: rest =>
    if next = byte ']' then some rest
    else elements value (rest.length + 1) (next :: rest)

end JsonValidator

open JsonValidator in
/-- A value below which this many containers may still be opened. -/
def JsonValidator.value : Nat → Bytes → Option Bytes
  | 0, _ => none
  | _ + 1, [] => none
  | depth + 1, first :: rest =>
    if first = byte '\x7b' then object (JsonValidator.value depth) rest
    else if first = byte '[' then array (JsonValidator.value depth) rest
    else if first = byte '"' then string (first :: rest)
    else if first = byte 't' then literal (ascii "true") (first :: rest)
    else if first = byte 'f' then literal (ascii "false") (first :: rest)
    else if first = byte 'n' then literal (ascii "null") (first :: rest)
    else number (first :: rest)

/-- `JsonValidator::valid`; a value may stand at the depths 0 to 16. -/
def jsonValid (input : Bytes) : Bool :=
  match JsonValidator.value 17 (skipWhitespace input) with
  | some rest => skipWhitespace rest == []
  | none => false

end Kitsu.Companion.Json
