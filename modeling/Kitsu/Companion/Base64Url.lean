import Kitsu.Lib.ByteString

/-!
# Unpadded base64url

The codec of `kitsu_companion_protocol.cpp`.  Decoding writes its output group
by group, so a text that is refused in the middle leaves the groups before it
in the caller's buffer; `Decoded` keeps those bytes.
-/

namespace Kitsu.Companion.Base64Url

open Kitsu.Lib.ByteString

/-- The byte of an ASCII character. -/
def byte (character : Char) : UInt8 :=
  character.toNat.toUInt8

/-- The characters by their values. -/
def alphabet : Bytes :=
  ascii "ABCDEFGHIJKLMNOPQRSTUVWXYZabcdefghijklmnopqrstuvwxyz0123456789-_"

/-- The character of the low six bits of a number. -/
def symbol (value : Nat) : UInt8 :=
  alphabet.getD (value % 64) 0

/-- The six bits that a character stands for. -/
def base64Value (character : UInt8) : Option Nat :=
  if byte 'A' ≤ character ∧ character ≤ byte 'Z' then
    some (character.toNat - 65)
  else if byte 'a' ≤ character ∧ character ≤ byte 'z' then
    some (character.toNat - 97 + 26)
  else if byte '0' ≤ character ∧ character ≤ byte '9' then
    some (character.toNat - 48 + 52)
  else if character = byte '-' then some 62
  else if character = byte '_' then some 63
  else none

/-- How many characters a byte string takes, without padding. -/
def base64UrlEncodedBytes (inputBytes : Nat) : Nat :=
  inputBytes / 3 * 4 +
    if inputBytes % 3 = 0 then 0 else inputBytes % 3 + 1

/-- The number of bytes a text of this length stands for. -/
def base64UrlDecodedBytes (inputBytes : Nat) : Nat :=
  inputBytes / 4 * 3 +
    if inputBytes % 4 = 0 then 0 else inputBytes % 4 - 1

/-- The text of a byte string. -/
def encodeGroups : Bytes → Bytes
  | first :: second :: third :: rest =>
    let value :=
      first.toNat * 65536 + second.toNat * 256 + third.toNat
    symbol (value / 262144) :: symbol (value / 4096) ::
      symbol (value / 64) :: symbol value :: encodeGroups rest
  | [first, second] =>
    let value := first.toNat * 65536 + second.toNat * 256
    [symbol (value / 262144), symbol (value / 4096), symbol (value / 64)]
  | [first] =>
    let value := first.toNat * 65536
    [symbol (value / 262144), symbol (value / 4096)]
  | [] => []

/-- The text of a byte string, if there is room for it. -/
def encodeBase64Url (input : Bytes) (outputCapacity : Nat) : Option Bytes :=
  if base64UrlEncodedBytes input.length > outputCapacity then none
  else some (encodeGroups input)

/-- What a decoding wrote, and whether it accepted the text. -/
structure Decoded where
  written : Bytes
  accepted : Bool

/-- A text that is refused before anything is written. -/
def Decoded.refused : Decoded := ⟨[], false⟩

/--
The bytes of four, three or two characters; those before a refusal were written.
-/
def decodeGroups : Bytes → Decoded
  | first :: second :: third :: fourth :: rest =>
    match base64Value first, base64Value second, base64Value third,
      base64Value fourth with
    | some first, some second, some third, some fourth =>
      let value :=
        first * 262144 + second * 4096 + third * 64 + fourth
      let later := decodeGroups rest
      ⟨(value / 65536).toUInt8 :: (value / 256).toUInt8 ::
        value.toUInt8 :: later.written, later.accepted⟩
    | _, _, _, _ => .refused
  | [first, second, third] =>
    match base64Value first, base64Value second, base64Value third with
    | some first, some second, some third =>
      if third % 4 ≠ 0 then .refused
      else
        ⟨[(first * 4 + second / 16).toUInt8,
          (second * 16 + third / 4).toUInt8], true⟩
    | _, _, _ => .refused
  | [first, second] =>
    match base64Value first, base64Value second with
    | some first, some second =>
      if second % 16 ≠ 0 then .refused
      else ⟨[(first * 4 + second / 16).toUInt8], true⟩
    | _, _ => .refused
  -- A single character is refused by its length before the groups are read.
  | [_] => ⟨[], true⟩
  | [] => ⟨[], true⟩

/-- The bytes of a text, if there is room for them. -/
def decodeBase64Url (input : Bytes) (outputCapacity : Nat) : Decoded :=
  if input.length % 4 = 1 then .refused
  else if base64UrlDecodedBytes input.length > outputCapacity then .refused
  else decodeGroups input

/-- The array a text stands for, when it is accepted and has its size. -/
def decodeArray (count : Nat) (input : Bytes) : Option (ByteVec count) :=
  let decoded := decodeBase64Url input count
  if decoded.accepted then ByteVec.ofBytes? count decoded.written else none

/-! ## Round trip -/

theorem base64Value_symbol (value : Nat) :
    base64Value (symbol value) = some (value % 64) := by
  have table : ∀ index < 64,
      base64Value (alphabet.getD index 0) = some index := by
    decide +kernel
  exact table (value % 64) (Nat.mod_lt _ (by decide))

theorem ofNat_eq {value : UInt8} {number : Nat}
    (equal : number % 256 = value.toNat) : number.toUInt8 = value := by
  apply UInt8.toNat_inj.mp
  rw [← equal]
  exact UInt8.toNat_ofNat'

theorem decodeGroups_encodeGroups (input : Bytes) :
    decodeGroups (encodeGroups input) = ⟨input, true⟩ := by
  fun_induction encodeGroups input with
  | case1 first second third rest value induction =>
    have firstBound := first.toNat_lt
    have secondBound := second.toNat_lt
    have thirdBound := third.toNat_lt
    rw [decodeGroups]
    simp only [base64Value_symbol, induction]
    congr 2
    · apply ofNat_eq
      omega
    · congr 1
      · apply ofNat_eq
        omega
      · congr 1
        apply ofNat_eq
        omega
  | case2 first second value =>
    have firstBound := first.toNat_lt
    have secondBound := second.toNat_lt
    rw [decodeGroups]
    simp only [base64Value_symbol]
    rw [if_neg (by omega)]
    congr 2
    · apply ofNat_eq
      omega
    · congr 1
      apply ofNat_eq
      omega
  | case3 first value =>
    have firstBound := first.toNat_lt
    rw [decodeGroups]
    simp only [base64Value_symbol]
    rw [if_neg (by omega)]
    congr 2
    apply ofNat_eq
    omega
  | case4 => rfl

theorem length_encodeGroups (input : Bytes) :
    (encodeGroups input).length = base64UrlEncodedBytes input.length := by
  unfold base64UrlEncodedBytes
  fun_induction encodeGroups input with
  | case1 first second third rest value induction =>
    simp only [List.length_cons, induction]
    split <;> split <;> omega
  | case2 first second value => simp
  | case3 first value => simp
  | case4 => rfl

theorem base64UrlDecodedBytes_encodeGroups (input : Bytes) :
    base64UrlDecodedBytes (encodeGroups input).length = input.length := by
  rw [length_encodeGroups, base64UrlDecodedBytes, base64UrlEncodedBytes]
  split <;> split <;> omega

theorem decodeBase64Url_encodeGroups {input : Bytes} {capacity : Nat}
    (fits : input.length ≤ capacity) :
    decodeBase64Url (encodeGroups input) capacity = ⟨input, true⟩ := by
  have whole : (encodeGroups input).length % 4 ≠ 1 := by
    rw [length_encodeGroups, base64UrlEncodedBytes]
    split <;> omega
  rw [decodeBase64Url, if_neg whole, base64UrlDecodedBytes_encodeGroups,
    if_neg (Nat.not_lt.mpr fits), decodeGroups_encodeGroups]

theorem decodeArray_encodeGroups {count : Nat} (array : ByteVec count) :
    decodeArray count (encodeGroups array.bytes) = some array := by
  rw [decodeArray, decodeBase64Url_encodeGroups (Nat.le_of_eq array.length_eq)]
  simp [ByteVec.ofBytes?]

/-! ## Canonical texts -/

/-- The character code of six bits. -/
def symbolCode (value : Nat) : Nat :=
  if value < 26 then value + 65
  else if value < 52 then value + 71
  else if value < 62 then value - 4
  else if value = 62 then 45
  else 95

theorem base64Value_code {character : UInt8} {value : Nat}
    (known : base64Value character = some value) :
    value < 64 ∧ character.toNat = symbolCode value := by
  have upperA : byte 'A' = 65 := by decide
  have upperZ : byte 'Z' = 90 := by decide
  have lowerA : byte 'a' = 97 := by decide
  have lowerZ : byte 'z' = 122 := by decide
  have zero : byte '0' = 48 := by decide
  have nine : byte '9' = 57 := by decide
  have minus : byte '-' = 45 := by decide
  have underscore : byte '_' = 95 := by decide
  unfold base64Value at known
  unfold symbolCode
  simp only [upperA, upperZ, lowerA, lowerZ, zero, nine, minus, underscore,
    UInt8.le_iff_toNat_le, UInt8.reduceToNat] at known
  split at known
  · cases known
    split <;> omega
  split at known
  · cases known
    repeat' split
    all_goals omega
  split at known
  · cases known
    repeat' split
    all_goals omega
  split at known
  · rename_i same
    cases known
    rw [same]
    decide
  split at known
  · rename_i same
    cases known
    rw [same]
    decide
  · cases known

/-- A character that stands for six bits is their symbol. -/
theorem symbol_of_base64Value {character : UInt8} {value : Nat}
    (known : base64Value character = some value) :
    value < 64 ∧ symbol value = character := by
  obtain ⟨bound, code⟩ := base64Value_code known
  have again := base64Value_symbol value
  rw [Nat.mod_eq_of_lt bound] at again
  obtain ⟨_, symbolIs⟩ := base64Value_code again
  exact ⟨bound, UInt8.toNat_inj.mp (symbolIs.trans code.symm)⟩

theorem symbol_congr {value character : Nat} (same : value % 64 = character % 64) :
    symbol value = symbol character := by
  rw [symbol, symbol, same]

theorem toNat_toUInt8 (value : Nat) : value.toUInt8.toNat = value % 256 :=
  UInt8.toNat_ofNat'

/-- An accepted text is the text of its bytes. -/
theorem encodeGroups_decodeGroups {text : Bytes} (whole : text.length % 4 ≠ 1)
    (accepted : (decodeGroups text).accepted = true) :
    encodeGroups (decodeGroups text).written = text := by
  fun_induction decodeGroups text with
  | case1 a b c d rest first second third fourth knownD knownC knownB
      knownA value later induction =>
      obtain ⟨firstBound, firstSymbol⟩ := symbol_of_base64Value knownA
      obtain ⟨secondBound, secondSymbol⟩ := symbol_of_base64Value knownB
      obtain ⟨thirdBound, thirdSymbol⟩ := symbol_of_base64Value knownC
      obtain ⟨fourthBound, fourthSymbol⟩ := symbol_of_base64Value knownD
      have tail : rest.length % 4 ≠ 1 := by
        simp only [List.length_cons] at whole
        omega
      rw [encodeGroups]
      simp only [toNat_toUInt8]
      have group : value / 65536 % 256 * 65536 + value / 256 % 256 * 256 +
          value % 256 = value := by
        omega
      rw [group, induction tail accepted]
      congr 1
      · rw [← firstSymbol]
        exact symbol_congr (by omega)
      congr 1
      · rw [← secondSymbol]
        exact symbol_congr (by omega)
      congr 1
      · rw [← thirdSymbol]
        exact symbol_congr (by omega)
      congr 1
      rw [← fourthSymbol]
      exact symbol_congr (by omega)
  | case2 => cases accepted
  | case3 a b c first second third knownC knownB knownA unused => cases accepted
  | case4 a b c first second third knownC knownB knownA unused =>
    obtain ⟨firstBound, firstSymbol⟩ := symbol_of_base64Value knownA
    obtain ⟨secondBound, secondSymbol⟩ := symbol_of_base64Value knownB
    obtain ⟨thirdBound, thirdSymbol⟩ := symbol_of_base64Value knownC
    rw [encodeGroups]
    simp only [toNat_toUInt8]
    congr 1
    · rw [← firstSymbol]
      exact symbol_congr (by omega)
    congr 1
    · rw [← secondSymbol]
      exact symbol_congr (by omega)
    congr 1
    rw [← thirdSymbol]
    exact symbol_congr (by omega)
  | case5 => cases accepted
  | case6 a b first second knownB knownA unused => cases accepted
  | case7 a b first second knownB knownA unused =>
    obtain ⟨firstBound, firstSymbol⟩ := symbol_of_base64Value knownA
    obtain ⟨secondBound, secondSymbol⟩ := symbol_of_base64Value knownB
    rw [encodeGroups]
    simp only [toNat_toUInt8]
    congr 1
    · rw [← firstSymbol]
      exact symbol_congr (by omega)
    congr 1
    rw [← secondSymbol]
    exact symbol_congr (by omega)
  | case8 => cases accepted
  | case9 => exact absurd rfl whole
  | case10 => rfl

theorem encodeGroups_of_accepted {text bytes : Bytes} {capacity : Nat}
    (accepted : decodeBase64Url text capacity = ⟨bytes, true⟩) :
    encodeGroups bytes = text := by
  unfold decodeBase64Url at accepted
  split at accepted
  · cases accepted
  split at accepted
  · cases accepted
  · rename_i whole _
    have same := encodeGroups_decodeGroups whole (by rw [accepted])
    rwa [accepted] at same

end Kitsu.Companion.Base64Url
