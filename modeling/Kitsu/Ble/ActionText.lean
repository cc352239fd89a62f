import Kitsu.Ble.ObjectParsers
import Kitsu.Companion.JsonGrammar

/-!
# The text of a message

A message reaches the decoder of `kitsu_ble_action.cpp` as the source of a JSON
string.  Two passes read it: `decodedStringBytes` measures the text and
`decodeString` writes it.  They agree on the length, and what is written is the
UTF-8 of the characters the string denotes.
-/

namespace Kitsu.Ble.ActionText

open Kitsu.Lib.ByteString
open Kitsu.Ble.Action
open Kitsu.Ble.ObjectParsers
open Kitsu.Companion.Base64Url
open Kitsu.Companion.Json
open Kitsu.Companion.JsonGrammar

/-! ## What a string denotes -/

/-- The characters of the escapes with one letter. -/
def escapes : List (Char × Char) :=
  [('"', '"'), ('\\', '\\'), ('/', '/'), ('b', '\x08'), ('f', '\x0c'),
    ('n', '\n'), ('r', '\r'), ('t', '\t')]

/-- The character a piece of a string stands for. -/
inductive Denotes : Bytes → Char → Prop where
  | unescaped {character : Char} (visible : 0x20 ≤ character.toNat)
      (quote : character ≠ '"') (backslash : character ≠ '\\') :
      Denotes (String.utf8EncodeChar character) character
  | escape {letter character : Char}
      (meaning : (letter, character) ∈ escapes) :
      Denotes [byte '\\', byte letter] character
  | unicode {a b c d : UInt8} {character : Char}
      (digits : ∀ digit ∈ [a, b, c, d], HexDigit digit)
      (code : character.toNat = hex4Value a b c d) :
      Denotes [byte '\\', byte 'u', a, b, c, d] character
  | pair {a b c d e f g h : UInt8} {character : Char}
      (digits : ∀ digit ∈ [a, b, c, d, e, f, g, h], HexDigit digit)
      (high : isHighSurrogate (hex4Value a b c d) = true)
      (low : isLowSurrogate (hex4Value e f g h) = true)
      (code : character.toNat = 0x10000 + (hex4Value a b c d - 0xd800) * 1024 +
          (hex4Value e f g h - 0xdc00)) :
      Denotes [byte '\\', byte 'u', a, b, c, d,
        byte '\\', byte 'u', e, f, g, h] character

/-- The characters of a string, in order. -/
inductive Unescapes : Bytes → List Char → Prop where
  | nil : Unescapes [] []
  | cons {piece source : Bytes} {character : Char} {later : List Char}
      (first : Denotes piece character) (rest : Unescapes source later) :
      Unescapes (piece ++ source) (character :: later)

/-- The UTF-8 of a text. -/
def utf8Encode (characters : List Char) : Bytes :=
  characters.flatMap String.utf8EncodeChar

/-! ## One character -/

theorem hexValue_lt {digit : UInt8} (hex : HexDigit digit) :
    hexValue digit < 16 := by
  have table : ∀ digit ∈ ascii "0123456789abcdefABCDEF",
      hexValue digit < 16 := forall_mem_of_all (by decide)
  exact table digit hex

theorem hex4Value_lt {a b c d : UInt8}
    (digits : ∀ digit ∈ [a, b, c, d], HexDigit digit) :
    hex4Value a b c d < 65536 := by
  have first := hexValue_lt (digits a (by simp))
  have second := hexValue_lt (digits b (by simp))
  have third := hexValue_lt (digits c (by simp))
  have fourth := hexValue_lt (digits d (by simp))
  rw [hex4Value]
  omega

/-- A piece of the grammar stands for a character. -/
theorem denotes_of_character {piece : Bytes} (character : StringCharacter piece) :
    ∃ meaning, Denotes piece meaning := by
  cases character with
  | unescaped visible quote backslash =>
    exact ⟨_, .unescaped visible quote backslash⟩
  | @escape letter simple =>
    have table : ∀ letter ∈ ascii "\"\\/bfnrt",
        ∃ entry ∈ escapes, byte entry.1 = letter :=
      forall_mem_of_all (by decide)
    obtain ⟨⟨name, meaning⟩, member, rfl⟩ := table letter simple
    exact ⟨meaning, .escape member⟩
  | @unicode a b c d digits high low =>
    have bound := hex4Value_lt digits
    have scalar : (hex4Value a b c d).isValidChar := by
      simp only [isHighSurrogate, isLowSurrogate, Bool.and_eq_false_iff,
        decide_eq_false_iff_not] at high low
      omega
    exact ⟨Char.ofNatAux _ scalar, .unicode digits rfl⟩
  | @pair a b c d e f g h digits high low =>
    have scalar : (0x10000 + (hex4Value a b c d - 0xd800) * 1024 +
        (hex4Value e f g h - 0xdc00)).isValidChar := by
      have highRange := high
      have lowRange := low
      simp only [isHighSurrogate, isLowSurrogate, Bool.and_eq_true,
        decide_eq_true_eq] at highRange lowRange
      omega
    exact ⟨Char.ofNatAux _ scalar, .pair digits high low rfl⟩

/-- The writer encodes a character as UTF-8, except for the terminator. -/
theorem appendUtf8_character (character : Char) :
    appendUtf8 character.toNat =
      if character.toNat = 0 then none
      else some (String.utf8EncodeChar character) := by
  have valid := character.valid
  change character.toNat.isValidChar at valid
  by_cases zero : character.toNat = 0
  · rw [appendUtf8, if_pos (.inl zero), if_pos zero]
  rw [appendUtf8, if_neg (by omega), if_neg zero, String.utf8EncodeChar]
  change _ = some (if character.toNat ≤ 0x7f then _
    else if character.toNat ≤ 0x7ff then _
    else if character.toNat ≤ 0xffff then _ else _)
  split
  · rfl
  split
  · simp only [Option.some.injEq, List.cons.injEq, and_true, Nat.toUInt8,
      ← UInt8.toNat_inj, UInt8.toNat_ofNat']
    change _ = (character.toNat / 64 % 32 + 192) % 256 ∧
      _ = (character.toNat % 64 + 128) % 256
    omega
  split
  · simp only [Option.some.injEq, List.cons.injEq, and_true, Nat.toUInt8,
      ← UInt8.toNat_inj, UInt8.toNat_ofNat']
    change _ = (character.toNat / 4096 % 16 + 224) % 256 ∧
      _ = (character.toNat / 64 % 64 + 128) % 256 ∧
      _ = (character.toNat % 64 + 128) % 256
    omega
  · simp only [Option.some.injEq, List.cons.injEq, and_true, Nat.toUInt8,
      ← UInt8.toNat_inj, UInt8.toNat_ofNat']
    change _ = (character.toNat / 262144 % 8 + 240) % 256 ∧
      _ = (character.toNat / 4096 % 64 + 128) % 256 ∧
      _ = (character.toNat / 64 % 64 + 128) % 256 ∧
      _ = (character.toNat % 64 + 128) % 256
    omega

theorem pushScalar_character (character : Char) (later : Option Bytes) :
    pushScalar character.toNat later =
      if character.toNat = 0 then none
      else later.map (String.utf8EncodeChar character ++ ·) := by
  rw [pushScalar, appendUtf8_character]
  split
  · rfl
  · cases later with
    | none => rfl
    | some rest => rfl

variable {text : Bytes}

/-- The writer copies text without a backslash. -/
theorem decodeText_plain (rest : Bytes) (plain : byte '\\' ∉ text) :
    decodeText (text ++ rest) = (decodeText rest).map (text ++ ·) := by
  induction text with
  | nil => simp
  | cons code text induction =>
    have other : code ≠ byte '\\' := fun same =>
      plain (same ▸ List.mem_cons_self)
    have behind := induction fun member =>
      plain (List.mem_cons_of_mem _ member)
    rw [List.cons_append, decodeText.eq_def]
    simp only [ne_eq, other, not_false_eq_true, if_true, behind, Option.map_map]
    rfl

variable {character : Char}

theorem utf8EncodeChar_plain (backslash : character ≠ '\\') :
    byte '\\' ∉ String.utf8EncodeChar character := by
  by_cases low : character.toNat ≤ 0x7f
  · rw [utf8EncodeChar_low low, List.mem_singleton]
    intro same
    exact backslash (byte_injective low (by decide) same.symm)
  · intro member
    have high := utf8EncodeChar_high (by omega) _ member
    exact absurd high (by decide)

/-- The writer resolves a piece to the character it stands for. -/
theorem decodeText_denotes {piece : Bytes} (denotes : Denotes piece character)
    (rest : Bytes) :
    decodeText (piece ++ rest) =
      pushScalar character.toNat (decodeText rest) := by
  cases denotes with
  | unescaped visible quote backslash =>
    rw [decodeText_plain rest (utf8EncodeChar_plain backslash),
      pushScalar_character, if_neg (by omega)]
  | @escape letter character meaning =>
    have table : ∀ entry ∈ escapes, byte entry.1 ≠ byte 'u' ∧
        escapeScalar (byte entry.1) = some entry.2.toNat := by
      decide +kernel
    obtain ⟨other, scalar⟩ := table _ meaning
    rw [List.cons_append, List.singleton_append, decodeText.eq_def]
    simp only [ne_eq, not_true_eq_false, if_false, other,
      not_false_eq_true, if_true, scalar]
  | @unicode a b c d character digits code =>
    have valid := character.valid
    change character.toNat.isValidChar at valid
    have single : isHighSurrogate (hex4Value a b c d) = false := by
      simp only [isHighSurrogate, Bool.and_eq_false_iff, decide_eq_false_iff_not]
      omega
    simp only [List.cons_append, List.nil_append]
    rw [decodeText.eq_def]
    simp only [ne_eq, not_true_eq_false, if_false, single, Bool.false_eq_true]
    rw [code]
  | @pair a b c d e f g h character digits high low code =>
    simp only [List.cons_append, List.nil_append]
    rw [decodeText.eq_def]
    simp only [ne_eq, not_true_eq_false, if_false, high, if_true, low,
      or_self, Bool.not_true, Bool.false_eq_true]
    unfold pairScalar
    rw [code]

/-! ## The length -/

variable {scalar : Nat}

theorem length_appendUtf8 {encoded : Bytes}
    (written : appendUtf8 scalar = some encoded) :
    encoded.length = utf8Bytes scalar := by
  rw [appendUtf8] at written
  rw [utf8Bytes]
  split at written
  · cases written
  split at written
  · rename_i one
    cases written
    rw [if_pos one]
    rfl
  rename_i one
  split at written
  · rename_i two
    cases written
    rw [if_neg one, if_pos two]
    rfl
  rename_i two
  split at written
  · rename_i three
    cases written
    rw [if_neg one, if_neg two, if_pos three]
    rfl
  · rename_i three
    cases written
    rw [if_neg one, if_neg two, if_neg three]
    rfl

theorem pushScalar_some {later : Option Bytes}
    (pushed : pushScalar scalar later = some text) :
    ∃ encoded rest, appendUtf8 scalar = some encoded ∧ later = some rest ∧
      text = encoded ++ rest := by
  obtain ⟨encoded, written, pushed⟩ := Option.bind_eq_some_iff.mp pushed
  obtain ⟨rest, found, pushed⟩ := Option.bind_eq_some_iff.mp pushed
  cases pushed
  exact ⟨encoded, rest, written, found, rfl⟩

theorem escapeScalar_low {letter : UInt8}
    (meaning : escapeScalar letter = some scalar) : scalar ≤ 0x7f := by
  rw [escapeScalar] at meaning
  split at meaning
  · rename_i same
    cases meaning
    rcases same with rfl | rfl | rfl
    · decide
    · decide
    · decide
  · split at meaning
    · cases meaning
      decide
    · split at meaning
      · cases meaning
        decide
      · split at meaning
        · cases meaning
          decide
        · split at meaning
          · cases meaning
            decide
          · split at meaning
            · cases meaning
              decide
            · cases meaning

/-- The length that was measured is the length that is written. -/
theorem decodedStringBytes_eq {source : Bytes}
    (written : decodeText source = some text) :
    decodedStringBytes source = some text.length := by
  -- a scalar in front of what is written behind it
  have pushed : ∀ {scalar : Nat} {rest text : Bytes},
      (∀ {text : Bytes}, decodeText rest = some text →
        decodedStringBytes rest = some text.length) →
      pushScalar scalar (decodeText rest) = some text →
      (decodedStringBytes rest).map (· + utf8Bytes scalar) =
        some text.length := by
    intro scalar rest text measured written
    obtain ⟨encoded, later, encodes, found, rfl⟩ := pushScalar_some written
    rw [measured found, Option.map_some, ← length_appendUtf8 encodes,
      List.length_append, Nat.add_comm]
  fun_induction decodeText source generalizing text with
  | case1 =>
    cases written
    rfl
  | case2 current rest plain induction =>
    obtain ⟨later, found, rfl⟩ := Option.map_eq_some_iff.mp written
    rw [decodedStringBytes.eq_def]
    simp only [if_pos plain, induction found, Option.map_some, List.length_cons]
  | case5 current slash letter rest other scalar meaning induction =>
    have one : utf8Bytes scalar = 1 := if_pos (escapeScalar_low meaning)
    rw [decodedStringBytes.eq_def]
    simp only [if_neg slash, if_pos other, ← one]
    exact pushed induction written
  | case8 =>
    rename_i current slash letter unicode a b c d first high second third
      e f g h rest low marked range induction
    rw [decodedStringBytes.eq_def]
    simp only [if_neg slash, if_neg unicode]
    rw [if_pos high, if_neg marked]
    exact pushed induction written
  | case10 =>
    rename_i current slash letter unicode a b c d rest first single
      induction
    rw [decodedStringBytes.eq_def]
    simp only [if_neg slash, if_neg unicode]
    rw [if_neg single]
    exact pushed induction written
  | _ => cases written

/-! ## The text -/

/-- No encoding of a character is a prefix of that of another. -/
theorem utf8EncodeChar_split {first second : Char} {one two : Bytes}
    (same : String.utf8EncodeChar first ++ one =
      String.utf8EncodeChar second ++ two) : first = second ∧ one = two := by
  have bytes := congrArg List.toByteArray same
  rw [List.toByteArray_append, List.toByteArray_append] at bytes
  have decoded := @ByteArray.utf8DecodeChar?_utf8EncodeChar_append
    one.toByteArray first
  rw [bytes, ByteArray.utf8DecodeChar?_utf8EncodeChar_append] at decoded
  cases decoded
  exact ⟨rfl, List.append_cancel_left same⟩

/-- UTF-8 behind a character is UTF-8. -/
theorem validUtf8_behind_character {rest : Bytes}
    (utf8 : validUtf8 (String.utf8EncodeChar character ++ rest) = true) :
    validUtf8 rest = true := by
  by_cases low : character.toNat ≤ 0x7f
  · rw [utf8EncodeChar_low low, List.singleton_append] at utf8
    refine validUtf8_ascii ?_ utf8
    simp only [byte, Nat.toUInt8, UInt8.le_iff_toNat_le,
      UInt8.toNat_ofNat', UInt8.reduceToNat]
    omega
  · have high := utf8EncodeChar_high (by omega : 0x80 ≤ character.toNat)
    cases encoded : String.utf8EncodeChar character with
    | nil => exact absurd encoded String.utf8EncodeChar_ne_nil
    | cons first tail =>
      rw [encoded] at utf8 high
      have front := high first List.mem_cons_self
      have notLow : ¬first ≤ 0x7f := by
        simp only [UInt8.le_iff_toNat_le, UInt8.reduceToNat] at front ⊢
        omega
      obtain ⟨other, _, later, same, valid⟩ :=
        validUtf8_character notLow utf8
      change first :: tail ++ rest = _ at same
      rw [← encoded] at same
      rw [(utf8EncodeChar_split same).2]
      exact valid

/-- Behind the first byte of a character its bytes continue it. -/
theorem utf8EncodeChar_continues {first : UInt8} {tail : Bytes}
    (encoded : String.utf8EncodeChar character = first :: tail) :
    ∀ code ∈ tail, isContinuation code = true := by
  have continued : ∀ value : Nat,
      isContinuation (UInt8.ofNat (value % 64 + 128)) = true := by
    intro value
    rw [isContinuation_iff, UInt8.toNat_ofNat']
    omega
  rw [String.utf8EncodeChar] at encoded
  split at encoded
  · cases encoded
    nofun
  · split at encoded
    · cases encoded
      simp only [List.mem_singleton, forall_eq]
      exact continued _
    · split at encoded
      · cases encoded
        simp only [List.mem_cons, List.not_mem_nil, or_false, forall_eq_or_imp,
          forall_eq]
        exact ⟨continued _, continued _⟩
      · cases encoded
        simp only [List.mem_cons, List.not_mem_nil, or_false, forall_eq_or_imp,
          forall_eq]
        exact ⟨continued _, continued _, continued _⟩

/-- A scalar begins with a byte that continues nothing. -/
theorem appendUtf8_head {encoded : Bytes}
    (written : appendUtf8 scalar = some encoded) :
    ∃ first tail, encoded = first :: tail ∧
      isContinuation first = false := by
  rw [appendUtf8] at written
  have lead : ∀ value : Nat, value < 0x80 ∨ (0xc0 ≤ value ∧ value < 0x100) →
      isContinuation value.toUInt8 = false := by
    intro value range
    rw [Bool.eq_false_iff, ne_eq, isContinuation_iff, Nat.toUInt8,
      UInt8.toNat_ofNat']
    omega
  split at written
  · cases written
  split at written
  · cases written
    exact ⟨_, _, rfl, lead _ (by omega)⟩
  split at written
  · cases written
    exact ⟨_, _, rfl, lead _ (by omega)⟩
  split at written
  · cases written
    exact ⟨_, _, rfl, lead _ (by omega)⟩
  · cases written
    exact ⟨_, _, rfl, lead _ (by omega)⟩

/-- A byte that continues a character was copied from the source. -/
theorem decodeText_continuation {source later : Bytes} {code : UInt8}
    (written : decodeText source = some (code :: later))
    (continued : isContinuation code = true) :
    ∃ behind, source = code :: behind ∧ decodeText behind = some later := by
  have scalars : ∀ {scalar : Nat} {rest : Option Bytes},
      pushScalar scalar rest ≠ some (code :: later) := by
    intro scalar rest pushed
    obtain ⟨encoded, tail, encodes, _, same⟩ := pushScalar_some pushed
    obtain ⟨first, others, rfl, lead⟩ := appendUtf8_head encodes
    cases same
    rw [continued] at lead
    cases lead
  revert written
  fun_cases decodeText source with
  | case1 => nofun
  | case2 current rest plain =>
    intro written
    obtain ⟨text, found, same⟩ := Option.map_eq_some_iff.mp written
    cases same
    exact ⟨rest, rfl, found⟩
  | case5 => exact fun written => absurd written scalars
  | case8 => exact fun written => absurd written scalars
  | case10 => exact fun written => absurd written scalars
  | _ => nofun

theorem decodeText_continuations {codes : Bytes}
    (continued : ∀ code ∈ codes, isContinuation code = true) {source later : Bytes}
    (written : decodeText source = some (codes ++ later)) :
    ∃ behind, source = codes ++ behind ∧ decodeText behind = some later := by
  induction codes generalizing source with
  | nil => exact ⟨source, rfl, written⟩
  | cons code codes induction =>
    obtain ⟨rest, rfl, found⟩ := decodeText_continuation written
      (continued code List.mem_cons_self)
    obtain ⟨behind, rfl, last⟩ := induction
      (fun other member => continued other (List.mem_cons_of_mem _ member))
      found
    exact ⟨behind, rfl, last⟩

/-- The source of a string is what its span holds. -/
theorem span_front {later behind : Bytes} {span inner : Span}
    (outer : scanString (text ++ later) = some (span, behind))
    (rest : scanString later = some (inner, behind)) :
    span.bytes = text ++ inner.bytes := by
  have whole := scanString_source outer
  rw [scanString_source rest, ← List.append_assoc] at whole
  exact (List.append_cancel_right whole).symm

/-- What is written is the UTF-8 of the characters the string denotes. -/
theorem unescapes_of_decodeText {input behind : Bytes} {span : Span}
    (scanned : scanString input = some (span, behind))
    (written : decodeText span.bytes = some text) (utf8 : validUtf8 text = true) :
    ∃ characters, Unescapes span.bytes characters ∧
      text = utf8Encode characters := by
  -- by strong induction: a character takes more than one round
  induction size : input.length using Nat.strong_induction_on
    generalizing input span text with
  | _ count induction =>
    subst size
    -- one piece in front of the rest
    have piece : ∀ {front later : Bytes} {inner : Span} {character : Char},
        Denotes front character → front ≠ [] → input = front ++ later →
        scanString later = some (inner, behind) →
        ∃ characters, Unescapes span.bytes characters ∧
          text = utf8Encode characters := by
      intro front later inner character denotes consumed split found
      subst split
      have source := span_front scanned found
      rw [source, decodeText_denotes denotes, pushScalar_character]
        at written
      split at written
      · cases written
      obtain ⟨rest, others, rfl⟩ := Option.map_eq_some_iff.mp written
      have shorter : later.length < (front ++ later).length := by
        have positive := List.length_pos_iff.mpr consumed
        rw [List.length_append]
        omega
      obtain ⟨characters, unescapes, rfl⟩ := induction _ shorter found others
        (validUtf8_behind_character utf8) rfl
      rw [source]
      exact ⟨character :: characters, .cons denotes unescapes, rfl⟩
    rcases scanString_round scanned with closed | ⟨later, inner, round, found⟩
    · have source := scanString_source scanned
      have blank : span.bytes = [] := by
        have total := congrArg List.length (closed.symm.trans source)
        rw [List.length_append] at total
        exact List.length_eq_zero_iff.mp (by omega)
      rw [blank] at written ⊢
      cases written
      exact ⟨[], .nil, rfl⟩
    cases round with
    | @escape front later character low consumed =>
      obtain ⟨meaning, denotes⟩ := denotes_of_character character
      exact piece denotes consumed rfl found
    | @plain first later quote visible slash =>
      by_cases low : first ≤ 0x7f
      · obtain ⟨meaning, denotes⟩ := denotes_of_character
          (plain_character low quote visible slash)
        exact piece denotes (List.cons_ne_nil _ _) rfl found
      · have source := @span_front [first] _ _ _ _ scanned found
        have other : byte '\\' ∉ [first] := by
          rw [List.mem_singleton]
          exact fun same => slash same.symm
        rw [source, decodeText_plain _ other] at written
        obtain ⟨copied, behindFirst, rfl⟩ :=
          Option.map_eq_some_iff.mp written
        obtain ⟨character, high, others, split, _⟩ :=
          validUtf8_character low utf8
        cases encoded : String.utf8EncodeChar character with
        | nil => exact absurd encoded String.utf8EncodeChar_ne_nil
        | cons head tail =>
          rw [encoded] at split
          obtain ⟨rfl, rfl⟩ := List.cons.inj split
          obtain ⟨rest, tailSource, _⟩ := decodeText_continuations
            (utf8EncodeChar_continues encoded) behindFirst
          have whole : first :: later =
              String.utf8EncodeChar character ++
                (rest ++ byte '"' :: behind) := by
            rw [scanString_source found, tailSource, encoded]
            simp
          have again := scanned
          rw [whole, scanString_high _ (utf8EncodeChar_high high)]
            at again
          obtain ⟨⟨last, end_⟩, foundLast, pushed⟩ :=
            Option.map_eq_some_iff.mp again
          cases pushed
          refine piece (.unescaped (by omega) ?_ ?_)
            String.utf8EncodeChar_ne_nil whole foundLast
          · rintro rfl
            exact absurd high (by decide)
          · rintro rfl
            exact absurd high (by decide)

end Kitsu.Ble.ActionText
