import Mathlib.Data.List.TakeWhile
import Kitsu.Companion.Base64Url

/-!
# Requests and manifests of a firmware update

The payloads of `firmware.update.*` are JSON objects of one fixed layout, read
literal by literal.  A begin request carries the signed manifest, which names
the release, its version, the length of the image and its SHA-256.
-/

namespace Kitsu.Ota

open Kitsu.Lib.ByteString
open Kitsu.Companion.Base64Url

def kBleOtaChunkBytes : Nat := 4096
def kBleOtaVersionMaximumBytes : Nat := 32

/-! ## Versions and names -/

def asciiDigit (value : UInt8) : Bool :=
  byte '0' ≤ value && value ≤ byte '9'

def asciiAlphaNumeric (value : UInt8) : Bool :=
  asciiDigit value || (byte 'A' ≤ value && value ≤ byte 'Z') ||
    (byte 'a' ≤ value && value ≤ byte 'z')

/-- A number with a leading zero. -/
def leadingZero (digits : Bytes) : Bool :=
  digits.length > 1 && digits.head? == some (byte '0')

/-- The identifiers behind `-` or `+`; what follows them is returned. -/
def validSemverIdentifiers (prerelease : Bool) :
    Nat → Bytes → Option Bytes
  | 0, _ => none
  | fuel + 1, input =>
    let marks := fun value => value == byte '.' || value == byte '+'
    let identifier := input.takeWhile fun value => !marks value
    let rest := input.dropWhile fun value => !marks value
    if !(identifier.all fun value =>
        asciiAlphaNumeric value || value == byte '-') then none
    else if identifier == [] || (prerelease &&
        identifier.all asciiDigit && leadingZero identifier) then none
    else
      match rest with
      | [] => some []
      | mark :: later =>
        if mark = byte '+' then some rest
        -- A dot is followed by another identifier that is not empty.
        else if (later.head?.all marks) then none
        else validSemverIdentifiers prerelease fuel later

/-- A component that fits the range of the release tools. -/
def componentValue (digits : Bytes) : Option Nat :=
  digits.foldlM (fun value digit =>
    let digit := digit.toNat - 48
    if value > (0x7fffffffffffffff - digit) / 10 then none
    else some (value * 10 + digit)) 0

/-- One component of a version; what follows it is returned. -/
def versionComponent (input : Bytes) : Option Bytes :=
  let digits := input.takeWhile asciiDigit
  if (componentValue digits).isNone || digits == [] || leadingZero digits
  then none
  else some (input.dropWhile asciiDigit)

/-- The character that is expected next. -/
def expect (character : Char) : Bytes → Option Bytes
  | [] => none
  | first :: rest => if first = byte character then some rest else none

/-- Identifiers that are there only behind their mark. -/
def optionalIdentifiers (mark : Char) (prerelease : Bool)
    (input : Bytes) : Option Bytes :=
  if input.head? = some (byte mark) then
    validSemverIdentifiers prerelease input.length (input.drop 1)
  else some input

/-- The versions that an update may have. -/
def validSemver (input : Bytes) : Bool :=
  let parsed : Option Bytes := do
    let input ← versionComponent input
    let input ← expect '.' input
    let input ← versionComponent input
    let input ← expect '.' input
    let input ← versionComponent input
    let input ← optionalIdentifiers '-' true input
    optionalIdentifiers '+' false input
  input != [] && input.length ≤ kBleOtaVersionMaximumBytes &&
    parsed == some []

end Kitsu.Ota

/-!
# The second base64url decoder

`kitsu_ble_ota.cpp` has a decoder of its own, which puts the bytes together from
neighbouring characters where the companion protocol goes through a 24-bit
value, and which refuses the empty text.  On every other text both write the
same bytes, so a byte string has one spelling for either of them.
-/

namespace Kitsu.Ota.Base64Url

open Kitsu.Lib.ByteString
open Kitsu.Companion.Base64Url (Decoded base64Value base64UrlDecodedBytes
  base64UrlEncodedBytes encodeBase64Url encodeGroups toNat_toUInt8
  decodeBase64Url_encodeGroups encodeGroups_of_accepted)

/-- The bytes of four, three or two characters; one character is none. -/
def decodeGroups : Bytes → Decoded
  | first :: second :: third :: fourth :: rest =>
    match base64Value first, base64Value second, base64Value third,
      base64Value fourth with
    | some first, some second, some third, some fourth =>
      let later := decodeGroups rest
      ⟨(first * 4 + second / 16).toUInt8 :: (second * 16 + third / 4).toUInt8 ::
        (third * 64 + fourth).toUInt8 :: later.written, later.accepted⟩
    | _, _, _, _ => .refused
  | [first, second, third] =>
    match base64Value first, base64Value second, base64Value third with
    | some first, some second, some third =>
      if third % 4 ≠ 0 then .refused
      else
        ⟨[(first * 4 + second / 16).toUInt8,
          (second * 16 + third / 4).toUInt8], true⟩
    | _, _, _ => .refused
  | [first, second] =>
    match base64Value first, base64Value second with
    | some first, some second =>
      if second % 16 ≠ 0 then .refused
      else ⟨[(first * 4 + second / 16).toUInt8], true⟩
    | _, _ => .refused
  | [_] => ⟨[], false⟩
  | [] => ⟨[], true⟩

/-- How many bytes a text of this length stands for. -/
def decodedBytes (inputBytes : Nat) : Nat :=
  inputBytes / 4 * 3 +
    if inputBytes % 4 = 2 then 1 else if inputBytes % 4 = 3 then 2 else 0

/-- The bytes of a text that is not empty. -/
def decodeBase64Url (input : Bytes) (outputCapacity : Nat) : Decoded :=
  if input = [] || input.length % 4 = 1 then .refused
  else if decodedBytes input.length > outputCapacity then .refused
  else decodeGroups input

/-! ## Agreement -/

theorem toUInt8_congr {value other : Nat}
    (same : value % 256 = other % 256) : value.toUInt8 = other.toUInt8 := by
  apply UInt8.toNat_inj.mp
  rw [toNat_toUInt8, toNat_toUInt8, same]

theorem decodeGroups_eq {text : Bytes} (whole : text.length % 4 ≠ 1) :
    decodeGroups text = Companion.Base64Url.decodeGroups text := by
  fun_induction decodeGroups text with
  | case1 a b c d rest first second third fourth knownD knownC knownB
      knownA later induction =>
      have thirdBound :=
        (Companion.Base64Url.symbol_of_base64Value knownC).1
      have fourthBound :=
        (Companion.Base64Url.symbol_of_base64Value knownD).1
      have tail : rest.length % 4 ≠ 1 := by
        simp only [List.length_cons] at whole
        omega
      have later_eq : later = Companion.Base64Url.decodeGroups rest :=
        induction tail
      rw [later_eq, Companion.Base64Url.decodeGroups, knownA, knownB, knownC,
        knownD]
      congr 2
      · exact toUInt8_congr (by omega)
      congr 1
      · exact toUInt8_congr (by omega)
      congr 1
      exact toUInt8_congr (by omega)
  | case2 a b c d rest unknown =>
    rw [Companion.Base64Url.decodeGroups]
    split
    · rename_i first second third fourth knownA knownB knownC knownD
      exact absurd knownD (unknown _ _ _ _ knownA knownB knownC)
    · rfl
  | case3 a b c first second third knownC knownB knownA unused =>
    rw [Companion.Base64Url.decodeGroups, knownA, knownB, knownC]
    exact (if_pos unused).symm
  | case4 a b c first second third knownC knownB knownA unused =>
    rw [Companion.Base64Url.decodeGroups, knownA, knownB, knownC]
    exact (if_neg unused).symm
  | case5 a b c unknown =>
    rw [Companion.Base64Url.decodeGroups]
    split
    · rename_i first second third knownA knownB knownC
      exact absurd knownC (unknown _ _ _ knownA knownB)
    · rfl
  | case6 a b first second knownB knownA unused =>
    rw [Companion.Base64Url.decodeGroups, knownA, knownB]
    exact (if_pos unused).symm
  | case7 a b first second knownB knownA unused =>
    rw [Companion.Base64Url.decodeGroups, knownA, knownB]
    exact (if_neg unused).symm
  | case8 a b unknown =>
    rw [Companion.Base64Url.decodeGroups]
    split
    · rename_i first second knownA knownB
      exact absurd knownB (unknown _ _ knownA)
    · rfl
  | case9 => exact absurd rfl whole
  | case10 => rfl

/-- Both decoders write the same bytes, also where they refuse a text. -/
theorem decodeBase64Url_eq {text : Bytes} (present : text ≠ [])
    (outputCapacity : Nat) :
    decodeBase64Url text outputCapacity =
      Companion.Base64Url.decodeBase64Url text outputCapacity := by
  unfold decodeBase64Url Companion.Base64Url.decodeBase64Url
  by_cases single : text.length % 4 = 1
  · simp [single]
  · have size : decodedBytes text.length =
        base64UrlDecodedBytes text.length := by
      unfold decodedBytes base64UrlDecodedBytes
      repeat' split
      all_goals omega
    simp only [present, decide_false, single, Bool.or_self,
      Bool.false_eq_true, if_false, size, decodeGroups_eq single]

/--
Every byte string has one accepted text, which is the text that the encoder
writes, and both decoders read it.
-/
theorem base64Url_canonical :
    (∀ (input : Bytes) (textCapacity : Nat),
      base64UrlEncodedBytes input.length ≤ textCapacity →
      ∃ text, encodeBase64Url input textCapacity = some text ∧
        ∀ outputCapacity, input.length ≤ outputCapacity →
          Companion.Base64Url.decodeBase64Url text outputCapacity =
            ⟨input, true⟩) ∧
    (∀ (text bytes : Bytes) (outputCapacity : Nat),
      Companion.Base64Url.decodeBase64Url text outputCapacity = ⟨bytes, true⟩ →
      ∀ textCapacity, base64UrlEncodedBytes bytes.length ≤ textCapacity →
        encodeBase64Url bytes textCapacity = some text) ∧
    ∀ (text : Bytes) (outputCapacity : Nat), text ≠ [] →
      decodeBase64Url text outputCapacity =
        Companion.Base64Url.decodeBase64Url text outputCapacity := by
  refine ⟨?_, ?_, ?_⟩
  · intro input textCapacity room
    refine ⟨encodeGroups input, if_neg (Nat.not_lt.mpr room), ?_⟩
    intro outputCapacity fits
    exact decodeBase64Url_encodeGroups fits
  · intro text bytes outputCapacity accepted textCapacity room
    rw [encodeBase64Url, if_neg (Nat.not_lt.mpr room),
      encodeGroups_of_accepted accepted]
  · intro text outputCapacity present
    exact decodeBase64Url_eq present outputCapacity

end Kitsu.Ota.Base64Url
