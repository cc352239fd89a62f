import Kitsu.Companion.Json
import Mathlib.Data.List.TakeWhile

/-!
# The JSON grammar and its tokens

The grammar of RFC 8259 over bytes, with two measures of a value: how deep its
containers nest, and on how many levels its values stand.  An empty container
has no values, so that it counts for the first measure only.

For every token of the grammar this module shows that the scanner of
`kitsu_companion_protocol.cpp` reads it, and that what the scanner reads is such
a token.  A string is read byte by byte, so that the second direction needs the
input to be UTF-8; what is left behind a token is UTF-8 again.
-/

namespace Kitsu.Companion.JsonGrammar

open Kitsu.Lib.ByteString
open Kitsu.Companion.Base64Url
open Kitsu.Companion.Json

/-! ## The grammar -/

/-- The white space of the grammar. -/
def Whitespace (text : Bytes) : Prop :=
  ∀ character ∈ text, character ∈ ascii " \t\n\r"

def Digit (character : UInt8) : Prop :=
  character ∈ ascii "0123456789"

/-- The hexadecimal digits of the grammar. -/
def HexDigit (character : UInt8) : Prop :=
  character ∈ ascii "0123456789abcdefABCDEF"

/-- At least one digit. -/
def Digits (text : Bytes) : Prop :=
  text ≠ [] ∧ ∀ character ∈ text, Digit character

/--
One character of a string: in UTF-8, behind a backslash, or as the code unit or
the surrogate pair of a `\u` escape.
-/
inductive StringCharacter : Bytes → Prop where
  | unescaped {character : Char} (visible : 0x20 ≤ character.toNat)
      (quote : character ≠ '"') (backslash : character ≠ '\\') :
      StringCharacter (String.utf8EncodeChar character)
  | escape {letter : UInt8} (simple : letter ∈ ascii "\"\\/bfnrt") :
      StringCharacter [byte '\\', letter]
  | unicode {a b c d : UInt8}
      (digits : ∀ digit ∈ [a, b, c, d], HexDigit digit)
      (high : isHighSurrogate (hex4Value a b c d) = false)
      (low : isLowSurrogate (hex4Value a b c d) = false) :
      StringCharacter [byte '\\', byte 'u', a, b, c, d]
  | pair {a b c d e f g h : UInt8}
      (digits : ∀ digit ∈ [a, b, c, d, e, f, g, h], HexDigit digit)
      (high : isHighSurrogate (hex4Value a b c d) = true)
      (low : isLowSurrogate (hex4Value e f g h) = true) :
      StringCharacter [byte '\\', byte 'u', a, b, c, d,
        byte '\\', byte 'u', e, f, g, h]

/-- The characters of a string, each escaped or not. -/
inductive Characters : Bytes → Prop where
  | nil : Characters []
  | cons {character text : Bytes} (first : StringCharacter character)
      (later : Characters text) : Characters (character ++ text)

/-- A string with its quotes. -/
inductive StringToken : Bytes → Prop where
  | quoted {text : Bytes} (characters : Characters text) :
      StringToken (byte '"' :: (text ++ [byte '"']))

/-- A whole number without leading zeros. -/
inductive Integer : Bytes → Prop where
  | zero : Integer [byte '0']
  | positive {first : UInt8} {rest : Bytes}
      (leading : first ∈ ascii "123456789")
      (digits : ∀ character ∈ rest, Digit character) :
      Integer (first :: rest)

/-- The digits behind a point, or nothing. -/
inductive Fraction : Bytes → Prop where
  | absent : Fraction []
  | present {text : Bytes} (digits : Digits text) :
      Fraction (byte '.' :: text)

/-- An exponent with or without a sign, or nothing. -/
inductive Exponent : Bytes → Prop where
  | absent : Exponent []
  | unsigned {mark : UInt8} {text : Bytes} (letter : mark ∈ ascii "eE")
      (digits : Digits text) : Exponent (mark :: text)
  | signed {mark sign : UInt8} {text : Bytes} (letter : mark ∈ ascii "eE")
      (signs : sign ∈ ascii "+-") (digits : Digits text) :
      Exponent (mark :: sign :: text)

/-- A number of JSON. -/
inductive Number : Bytes → Prop where
  | positive {whole fraction exponent : Bytes} (digits : Integer whole)
      (part : Fraction fraction) (power : Exponent exponent) :
      Number (whole ++ (fraction ++ exponent))
  | negative {whole fraction exponent : Bytes} (digits : Integer whole)
      (part : Fraction fraction) (power : Exponent exponent) :
      Number (byte '-' :: (whole ++ (fraction ++ exponent)))

/-- The recursive symbols of the grammar. -/
inductive Phrase where
  | value
  | elements
  | members

/--
The text derived from a symbol.  Its containers nest at most `containers` deep,
and its values stand on at most `levels` levels, of which the outermost value
takes one and the values of a container the next.
-/
inductive Derives : Phrase → (containers levels : Nat) → Bytes → Prop where
  | true {containers levels : Nat} :
      Derives .value containers (levels + 1) (ascii "true")
  | false {containers levels : Nat} :
      Derives .value containers (levels + 1) (ascii "false")
  | null {containers levels : Nat} :
      Derives .value containers (levels + 1) (ascii "null")
  | string {containers levels : Nat} {text : Bytes}
      (token : StringToken text) :
      Derives .value containers (levels + 1) text
  | number {containers levels : Nat} {text : Bytes}
      (token : Number text) :
      Derives .value containers (levels + 1) text
  | emptyArray {containers levels : Nat} {spaces : Bytes}
      (blank : Whitespace spaces) :
      Derives .value (containers + 1) (levels + 1)
        (byte '[' :: (spaces ++ [byte ']']))
  | array {containers levels : Nat} {before elements after : Bytes}
      (front : Whitespace before)
      (inside : Derives .elements containers levels elements)
      (back : Whitespace after) :
      Derives .value (containers + 1) (levels + 1)
        (byte '[' :: (before ++ (elements ++ (after ++ [byte ']']))))
  | emptyObject {containers levels : Nat} {spaces : Bytes}
      (blank : Whitespace spaces) :
      Derives .value (containers + 1) (levels + 1)
        (byte '\x7b' :: (spaces ++ [byte '\x7d']))
  | object {containers levels : Nat} {before members after : Bytes}
      (front : Whitespace before)
      (inside : Derives .members containers levels members)
      (back : Whitespace after) :
      Derives .value (containers + 1) (levels + 1)
        (byte '\x7b' :: (before ++ (members ++ (after ++ [byte '\x7d']))))
  | element {containers levels : Nat} {value : Bytes}
      (only : Derives .value containers levels value) :
      Derives .elements containers levels value
  | elements {containers levels : Nat} {value before after rest : Bytes}
      (first : Derives .value containers levels value)
      (front : Whitespace before) (back : Whitespace after)
      (later : Derives .elements containers levels rest) :
      Derives .elements containers levels
        (value ++ (before ++ byte ',' :: (after ++ rest)))
  | member {containers levels : Nat} {name before after value : Bytes}
      (token : StringToken name) (front : Whitespace before)
      (back : Whitespace after)
      (only : Derives .value containers levels value) :
      Derives .members containers levels
        (name ++ (before ++ byte ':' :: (after ++ value)))
  | members {containers levels : Nat}
      {name before after value front back rest : Bytes}
      (token : StringToken name) (beforeColon : Whitespace before)
      (behindColon : Whitespace after)
      (first : Derives .value containers levels value)
      (beforeComma : Whitespace front) (behindComma : Whitespace back)
      (later : Derives .members containers levels rest) :
      Derives .members containers levels
        (name ++ (before ++ byte ':' :: (after ++
          (value ++ (front ++ byte ',' :: (back ++ rest))))))

/-- One JSON value with optional white space around it. -/
inductive JsonText (containers levels : Nat) : Bytes → Prop where
  | value {before text after : Bytes} (front : Whitespace before)
      (derived : Derives .value containers levels text)
      (back : Whitespace after) :
      JsonText containers levels (before ++ (text ++ after))

/-! ## Bytes -/

theorem isSpace_iff (character : UInt8) :
    isSpace character = true ↔ character ∈ ascii " \t\n\r" := by
  have spelled : ascii " \t\n\r" =
      [byte ' ', byte '\t', byte '\n', byte '\r'] := rfl
  rw [spelled]
  simp only [isSpace, Bool.or_eq_true, beq_iff_eq, List.mem_cons,
    List.not_mem_nil, or_false]
  tauto

theorem isDigit_iff (character : UInt8) :
    isDigit character = true ↔ Digit character := by
  have spelled : ascii "0123456789" =
      [48, 49, 50, 51, 52, 53, 54, 55, 56, 57] := rfl
  have zero : byte '0' = 48 := rfl
  have nine : byte '9' = 57 := rfl
  rw [Digit, spelled, isDigit, zero, nine]
  simp only [Bool.and_eq_true, decide_eq_true_eq, UInt8.le_iff_toNat_le,
    List.mem_cons, List.not_mem_nil, or_false, ← UInt8.toNat_inj,
    UInt8.reduceToNat]
  omega

theorem isHex_iff (character : UInt8) :
    isHex character = true ↔ HexDigit character := by
  have spelled : ascii "0123456789abcdefABCDEF" =
      ascii "0123456789" ++ [97, 98, 99, 100, 101, 102] ++
        [65, 66, 67, 68, 69, 70] := rfl
  have letters : byte 'a' = 97 ∧ byte 'f' = 102 ∧ byte 'A' = 65 ∧
      byte 'F' = 70 := by decide
  obtain ⟨a, f, upperA, upperF⟩ := letters
  rw [HexDigit, spelled, List.mem_append, List.mem_append, isHex, a, f,
    upperA, upperF]
  simp only [Bool.or_eq_true, isDigit_iff, Digit, Bool.and_eq_true,
    decide_eq_true_eq, UInt8.le_iff_toNat_le, List.mem_cons,
    List.not_mem_nil, or_false, ← UInt8.toNat_inj, UInt8.reduceToNat]
  have lower : (97 ≤ character.toNat ∧ character.toNat ≤ 102) ↔
      character.toNat = 97 ∨ character.toNat = 98 ∨ character.toNat = 99 ∨
        character.toNat = 100 ∨ character.toNat = 101 ∨
        character.toNat = 102 := by omega
  have upper : (65 ≤ character.toNat ∧ character.toNat ≤ 70) ↔
      character.toNat = 65 ∨ character.toNat = 66 ∨ character.toNat = 67 ∨
        character.toNat = 68 ∨ character.toNat = 69 ∨
        character.toNat = 70 := by omega
  rw [lower, upper]

/-! ## UTF-8 -/

variable {first : UInt8} {rest : Bytes}

theorem validUtf8_ascii (low : first ≤ 0x7f)
    (utf8 : validUtf8 (first :: rest) = true) : validUtf8 rest = true := by
  rw [validUtf8.eq_def] at utf8
  simp only [low, if_true, Bool.and_eq_true] at utf8
  exact utf8.2

variable {text : Bytes}

/-- Text of seven-bit characters in front of UTF-8 can be taken away. -/
theorem validUtf8_behind (low : ∀ character ∈ text, character ≤ 0x7f)
    (utf8 : validUtf8 (text ++ rest) = true) : validUtf8 rest = true := by
  induction text with
  | nil => exact utf8
  | cons first text induction =>
    apply induction
    · intro character member
      exact low character (List.mem_cons_of_mem _ member)
    · exact validUtf8_ascii (low first List.mem_cons_self) utf8

theorem validScalar_character {minimum codepoint : Nat}
    (valid : validScalar minimum codepoint = true) :
    minimum ≤ codepoint ∧
      ∃ character : Char, character.toNat = codepoint := by
  simp only [validScalar, Bool.not_eq_true', Bool.or_eq_false_iff,
    Bool.and_eq_false_iff, decide_eq_false_iff_not] at valid
  have scalar : codepoint.isValidChar := by
    omega
  constructor
  · omega
  · exact ⟨Char.ofNatAux codepoint scalar, rfl⟩

theorem isContinuation_iff {character : UInt8} :
    isContinuation character = true ↔
      0x80 ≤ character.toNat ∧ character.toNat < 0xc0 := by
  rw [isContinuation, beq_iff_eq]
  omega

variable {character : Char}

theorem utf8EncodeChar_two {second : UInt8}
    (lead : 0xc2 ≤ first.toNat ∧ first.toNat ≤ 0xdf)
    (continued : isContinuation second = true) (code : character.toNat =
      first.toNat % 32 * 64 + second.toNat % 64) :
    String.utf8EncodeChar character = [first, second] := by
  rw [isContinuation_iff] at continued
  change character.val.toNat = _ at code
  rw [String.utf8EncodeChar, code]
  rw [if_neg (by omega), if_pos (by omega)]
  simp only [List.cons.injEq, and_true, ← UInt8.toNat_inj,
    UInt8.toNat_ofNat']
  omega

theorem utf8EncodeChar_three {second third : UInt8}
    (lead : 0xe0 ≤ first.toNat ∧ first.toNat ≤ 0xef)
    (continued : isContinuation second = true ∧ isContinuation third = true)
    (least : 0x800 ≤ character.toNat) (code : character.toNat =
      (first.toNat % 16 * 64 + second.toNat % 64) * 64 + third.toNat % 64) :
    String.utf8EncodeChar character = [first, second, third] := by
  simp only [isContinuation_iff] at continued
  change _ ≤ character.val.toNat at least
  change character.val.toNat = _ at code
  rw [String.utf8EncodeChar]
  rw [if_neg (by omega), if_neg (by omega), if_pos (by omega), code]
  simp only [List.cons.injEq, and_true, ← UInt8.toNat_inj,
    UInt8.toNat_ofNat']
  omega

theorem utf8EncodeChar_four {second third fourth : UInt8}
    (lead : 0xf0 ≤ first.toNat ∧ first.toNat ≤ 0xf4)
    (continued : (isContinuation second = true ∧
      isContinuation third = true) ∧ isContinuation fourth = true)
    (least : 0x10000 ≤ character.toNat) (code : character.toNat =
      ((first.toNat % 8 * 64 + second.toNat % 64) * 64 +
        third.toNat % 64) * 64 + fourth.toNat % 64) :
    String.utf8EncodeChar character = [first, second, third, fourth] := by
  simp only [isContinuation_iff] at continued
  change _ ≤ character.val.toNat at least
  change character.val.toNat = _ at code
  rw [String.utf8EncodeChar]
  rw [if_neg (by omega), if_neg (by omega), if_neg (by omega), code]
  simp only [List.cons.injEq, and_true, ← UInt8.toNat_inj,
    UInt8.toNat_ofNat']
  omega

/-- A byte with the high bit set begins the encoding of a character. -/
theorem validUtf8_character (high : ¬first ≤ 0x7f)
    (utf8 : validUtf8 (first :: rest) = true) :
    ∃ character : Char, 0x80 ≤ character.toNat ∧ ∃ later,
      first :: rest = String.utf8EncodeChar character ++ later ∧
        validUtf8 later = true := by
  rw [validUtf8.eq_def] at utf8
  simp only [high, if_false, UInt8.le_iff_toNat_le,
    UInt8.reduceToNat] at utf8
  split at utf8
  · rename_i lead
    split at utf8
    · rename_i second later
      simp only [Bool.and_eq_true] at utf8
      obtain ⟨⟨continued, scalar⟩, utf8⟩ := utf8
      obtain ⟨least, character, code⟩ := validScalar_character scalar
      refine ⟨character, by omega, later, ?_, utf8⟩
      rw [utf8EncodeChar_two lead continued code]
      rfl
    · cases utf8
  split at utf8
  · rename_i lead
    split at utf8
    · rename_i second third later
      simp only [Bool.and_eq_true] at utf8
      obtain ⟨⟨continued, scalar⟩, utf8⟩ := utf8
      obtain ⟨least, character, code⟩ := validScalar_character scalar
      refine ⟨character, by omega, later, ?_, utf8⟩
      rw [utf8EncodeChar_three lead continued (code ▸ least) code]
      rfl
    · cases utf8
  split at utf8
  · rename_i lead
    split at utf8
    · rename_i second third fourth later
      simp only [Bool.and_eq_true] at utf8
      obtain ⟨⟨continued, scalar⟩, utf8⟩ := utf8
      obtain ⟨least, character, code⟩ := validScalar_character scalar
      refine ⟨character, by omega, later, ?_, utf8⟩
      rw [utf8EncodeChar_four lead continued (code ▸ least) code]
      rfl
    · cases utf8
  · cases utf8

/-- The encoding of such a character has the high bit set throughout. -/
theorem utf8EncodeChar_high (high : 0x80 ≤ character.toNat) :
    ∀ code ∈ String.utf8EncodeChar character, 0x80 ≤ code := by
  have code : ¬character.val.toNat ≤ 0x7f := by
    change ¬character.toNat ≤ 0x7f
    omega
  rw [String.utf8EncodeChar]
  simp only [code, if_false]
  split
  · simp [UInt8.le_iff_toNat_le]
    omega
  · split
    · simp [UInt8.le_iff_toNat_le]
      omega
    · simp [UInt8.le_iff_toNat_le]
      omega

/-! ## Tokens in the input -/

/-- A token stands in front of the rest, which is UTF-8. -/
def Reads (Token : Bytes → Prop) (input rest : Bytes) : Prop :=
  ∃ text, input = text ++ rest ∧ Token text ∧ validUtf8 rest = true

theorem skipWhitespace_blank {spaces : Bytes} (blank : Whitespace spaces)
    (rest : Bytes) : skipWhitespace (spaces ++ rest) = skipWhitespace rest := by
  apply List.dropWhile_append_of_pos
  intro character member
  exact (isSpace_iff character).mpr (blank character member)

theorem skipWhitespace_visible (rest : Bytes) (visible : isSpace first = false) :
    skipWhitespace (first :: rest) = first :: rest :=
  List.dropWhile_cons_of_neg (by simp [visible])

theorem skipWhitespace_all {spaces : Bytes} (blank : Whitespace spaces) :
    skipWhitespace spaces = [] := by
  have same := skipWhitespace_blank blank []
  rwa [List.append_nil] at same

theorem Whitespace.low {spaces : Bytes} (blank : Whitespace spaces) :
    ∀ character ∈ spaces, character ≤ 0x7f := by
  intro character member
  have low : ∀ character ∈ ascii " \t\n\r", character ≤ 0x7f :=
    forall_mem_of_all (by decide)
  exact low character (blank character member)

variable {input : Bytes}

theorem skipWhitespace_reads (utf8 : validUtf8 input = true) :
    Reads Whitespace input (skipWhitespace input) := by
  have blank : Whitespace (input.takeWhile isSpace) := by
    intro character member
    exact (isSpace_iff character).mp (List.mem_takeWhile_imp member)
  have split : input = input.takeWhile isSpace ++ skipWhitespace input :=
    List.takeWhile_append_dropWhile.symm
  refine ⟨input.takeWhile isSpace, split, blank, ?_⟩
  rw [split] at utf8
  exact validUtf8_behind blank.low utf8

/-! ### Strings -/

theorem pushSource_pushSource (front back : Bytes) (first second : Bool)
    (scanned : Option (Span × Bytes)) :
    (scanned.map (pushSource back second)).map (pushSource front first) =
      scanned.map (pushSource (front ++ back) (first || second)) := by
  cases scanned with
  | none => rfl
  | some found => simp [pushSource, Bool.or_assoc]

theorem scanString_high (rest : Bytes) (high : ∀ code ∈ text, 0x80 ≤ code) :
    scanString (text ++ rest) =
      (scanString rest).map (pushSource text false) := by
  induction text with
  | nil =>
    cases scanned : scanString rest with
    | none => exact scanned
    | some found => exact scanned
  | cons code text induction =>
    have behind := induction fun code member =>
      high code (List.mem_cons_of_mem _ member)
    have front := high code List.mem_cons_self
    simp only [UInt8.le_iff_toNat_le, UInt8.reduceToNat] at front
    have quote : code ≠ byte '"' := by
      rintro rfl
      exact absurd front (by decide)
    have visible : ¬code < 0x20 := by
      simp only [UInt8.lt_iff_toNat_lt, UInt8.reduceToNat]
      omega
    have slash : code ≠ byte '\\' := by
      rintro rfl
      exact absurd front (by decide)
    rw [List.cons_append, scanString.eq_def]
    simp only [quote, visible, slash, if_false, ne_eq, not_false_eq_true,
      if_true, behind, pushSource_pushSource]
    rfl

/-- A character of seven bits is written as itself. -/
theorem utf8EncodeChar_low (low : character.toNat ≤ 0x7f) :
    String.utf8EncodeChar character = [byte character] := by
  change character.val.toNat ≤ 0x7f at low
  rw [String.utf8EncodeChar, if_pos low]
  rfl

theorem byte_injective {first second : Char} (one : first.toNat ≤ 0x7f)
    (two : second.toNat ≤ 0x7f) (same : byte first = byte second) :
    first = second := by
  have codes := congrArg UInt8.toNat same
  simp only [byte, Nat.toUInt8, UInt8.toNat_ofNat'] at codes
  apply Char.ext
  apply UInt32.toNat_inj.mp
  change first.toNat = second.toNat
  omega

theorem hexDigits_all {digits : Bytes} :
    digits.all isHex = true ↔ ∀ digit ∈ digits, HexDigit digit := by
  simp only [List.all_eq_true, isHex_iff]

/-- The scanner reads a character of the grammar in one round. -/
theorem scanString_character (character : StringCharacter text) (rest : Bytes) :
    ∃ escaped, scanString (text ++ rest) =
      (scanString rest).map (pushSource text escaped) := by
  have quote : byte '\\' ≠ byte '"' := by decide
  have visible : ¬byte '\\' < 0x20 := by decide
  have letter : isSimpleEscape (byte 'u') = false := by decide
  cases character with
  | @unescaped character visible quote backslash =>
    refine ⟨false, ?_⟩
    by_cases low : character.toNat ≤ 0x7f
    · have notQuote : byte character ≠ byte '"' := fun same =>
        quote (byte_injective low (by decide) same)
      have notSlash : byte character ≠ byte '\\' := fun same =>
        backslash (byte_injective low (by decide) same)
      have notControl : ¬byte character < 0x20 := by
        simp only [byte, Nat.toUInt8, UInt8.lt_iff_toNat_lt,
          UInt8.toNat_ofNat', UInt8.reduceToNat]
        omega
      rw [utf8EncodeChar_low low, List.singleton_append, scanString.eq_def]
      simp only [notQuote, notControl, notSlash, if_false, ne_eq,
        not_false_eq_true, if_true]
    · exact scanString_high rest (utf8EncodeChar_high (by omega))
  | @escape letter simple =>
    refine ⟨true, ?_⟩
    have single : isSimpleEscape letter = true :=
      List.contains_iff_mem.mpr simple
    rw [List.cons_append, List.singleton_append, scanString.eq_def]
    simp only [quote, visible, single, if_false, ne_eq, not_true_eq_false, if_true]
  | @unicode a b c d digits high low =>
    refine ⟨true, ?_⟩
    rw [← hexDigits_all] at digits
    simp only [List.cons_append, List.nil_append]
    rw [scanString.eq_def]
    simp only [quote, visible, letter, digits, high, low, if_false, ne_eq,
      not_true_eq_false, Bool.not_true, Bool.false_eq_true]
  | @pair a b c d e f g h digits high low =>
    refine ⟨true, ?_⟩
    rw [← hexDigits_all] at digits
    have split : [a, b, c, d].all isHex = true ∧
        [e, f, g, h].all isHex = true := by
      simpa [and_assoc] using digits
    simp only [List.cons_append, List.nil_append]
    rw [scanString.eq_def]
    simp only [quote, visible, letter, split, high, low, if_false, if_true,
      ne_eq, not_true_eq_false, Bool.not_true, Bool.false_eq_true, or_self]

theorem HexDigit.low {digit : UInt8} (hex : HexDigit digit) : digit ≤ 0x7f := by
  have low : ∀ digit ∈ ascii "0123456789abcdefABCDEF", digit ≤ 0x7f :=
    forall_mem_of_all (by decide)
  exact low digit hex

/-- A round of the scanner over plain text or an escape of the grammar. -/
inductive Round : Bytes → Bytes → Prop where
  | plain {first : UInt8} {later : Bytes} (quote : first ≠ byte '"')
      (visible : ¬first < 0x20) (slash : first ≠ byte '\\') :
      Round (first :: later) later
  | escape {text later : Bytes} (character : StringCharacter text)
      (low : ∀ code ∈ text, code ≤ 0x7f) (consumed : text ≠ []) :
      Round (text ++ later) later

theorem scanString_round {span : Span}
    (scanned : scanString input = some (span, rest)) :
    input = byte '"' :: rest ∨
      ∃ later inner, Round input later ∧
        scanString later = some (inner, rest) := by
  have slash : byte '\\' ≤ 0x7f := by decide
  have letter : byte 'u' ≤ 0x7f := by decide
  -- a round that goes on behind an escape
  have behind : ∀ {text later : Bytes}, StringCharacter text →
      (∀ code ∈ text, code ≤ 0x7f) → text ≠ [] →
      (scanString later).map (pushSource text true) = some (span, rest) →
      ∃ inner, Round (text ++ later) later ∧
        scanString later = some (inner, rest) := by
    intro text later character low consumed mapped
    obtain ⟨⟨inner, end_⟩, found, pushed⟩ := Option.map_eq_some_iff.mp mapped
    cases pushed
    exact ⟨inner, .escape character low consumed, found⟩
  revert scanned
  fun_cases scanString input with
  | case1 => nofun
  | case2 later =>
    intro scanned
    cases scanned
    exact .inl rfl
  | case3 => nofun
  | case4 first later quote visible plain =>
    intro scanned
    obtain ⟨⟨inner, end_⟩, found, pushed⟩ :=
      Option.map_eq_some_iff.mp scanned
    cases pushed
    exact .inr ⟨later, inner, .plain quote visible plain, found⟩
  | case6 first quote visible same letter later simple =>
    intro scanned
    cases not_not.mp same
    have member := List.contains_iff_mem.mp simple
    have low : ∀ letter ∈ ascii "\"\\/bfnrt", letter ≤ 0x7f :=
      forall_mem_of_all (by decide)
    obtain ⟨inner, round, found⟩ := behind (.escape member)
      (by simpa [slash] using low letter member) (by simp) scanned
    exact .inr ⟨later, inner, round, found⟩
  | case12 first quote visible same letter simple unicode a b c d hex high
      second third e f g h later marked others low =>
      intro scanned
      cases not_not.mp same
      cases not_not.mp unicode
      obtain ⟨rfl, rfl⟩ : second = byte '\\' ∧ third = byte 'u' := by
        simpa using marked
      have digits : ∀ digit ∈ [a, b, c, d, e, f, g, h], HexDigit digit := by
        rw [← hexDigits_all]
        simpa [and_assoc] using And.intro hex others
      have seven : ∀ digit ∈ [a, b, c, d, e, f, g, h], digit ≤ 0x7f :=
        fun digit member => (digits digit member).low
      obtain ⟨inner, round, found⟩ := behind
        (.pair digits high (by simpa using low))
        (by simpa [slash, letter] using seven) (by simp) scanned
      exact .inr ⟨later, inner, round, found⟩
  | case15 first quote visible same letter simple unicode a b c d later hex
      high low =>
      intro scanned
      cases not_not.mp same
      cases not_not.mp unicode
      have digits : ∀ digit ∈ [a, b, c, d], HexDigit digit := by
        rw [← hexDigits_all]
        simpa using hex
      have seven : ∀ digit ∈ [a, b, c, d], digit ≤ 0x7f :=
        fun digit member => (digits digit member).low
      obtain ⟨inner, round, found⟩ := behind
        (.unicode digits (by simpa using high) (by simpa using low))
        (by simpa [slash, letter] using seven) (by simp) scanned
      exact .inr ⟨later, inner, round, found⟩
  | _ => nofun

/-- A plain seven-bit byte is a character of the grammar. -/
theorem plain_character (low : first ≤ 0x7f) (quote : first ≠ byte '"')
    (visible : ¬first < 0x20) (slash : first ≠ byte '\\') :
    StringCharacter [first] := by
  simp only [UInt8.le_iff_toNat_le, UInt8.lt_iff_toNat_lt,
    UInt8.reduceToNat] at low visible
  have scalar : first.toNat.isValidChar := .inl (by omega)
  have same : byte (Char.ofNatAux first.toNat scalar) = first := by
    apply UInt8.toNat_inj.mp
    change first.toNat % 256 = first.toNat
    omega
  have encoded := @utf8EncodeChar_low
    (Char.ofNatAux first.toNat scalar) low
  rw [same] at encoded
  rw [← encoded]
  apply StringCharacter.unescaped
  · change 0x20 ≤ first.toNat
    omega
  · intro marked
    rw [marked] at same
    exact quote same.symm
  · intro marked
    rw [marked] at same
    exact slash same.symm

/-- What the scanner reads are characters up to the closing quote. -/
theorem scanString_reads {span : Span} (utf8 : validUtf8 input = true)
    (scanned : scanString input = some (span, rest)) :
    ∃ text, input = text ++ byte '"' :: rest ∧ Characters text ∧
      validUtf8 rest = true := by
  -- by strong induction: a character takes more than one round
  induction size : input.length using Nat.strong_induction_on
    generalizing input span with
  | _ count induction =>
    subst size
    rcases scanString_round scanned with closed | ⟨later, inner, round, found⟩
    · subst closed
      exact ⟨[], rfl, .nil, validUtf8_ascii (by decide) utf8⟩
    cases round with
    | @escape text later character low consumed =>
      have shorter : later.length < (text ++ later).length := by
        have positive := List.length_pos_iff.mpr consumed
        rw [List.length_append]
        omega
      obtain ⟨behind, split, characters, valid⟩ :=
        induction _ shorter (validUtf8_behind low utf8) found rfl
      exact ⟨text ++ behind, by rw [split, List.append_assoc],
        .cons character characters, valid⟩
    | @plain first later quote visible slash =>
      by_cases low : first ≤ 0x7f
      · obtain ⟨behind, split, characters, valid⟩ :=
          induction _ (by simp) (validUtf8_ascii low utf8) found rfl
        exact ⟨first :: behind, by rw [split, List.cons_append],
          .cons (plain_character low quote visible slash) characters,
          valid⟩
      · obtain ⟨character, high, others, split, valid⟩ :=
          validUtf8_character low utf8
        rw [split] at scanned ⊢
        rw [scanString_high others (utf8EncodeChar_high high)] at scanned
        obtain ⟨⟨again, end_⟩, foundAgain, pushed⟩ :=
          Option.map_eq_some_iff.mp scanned
        cases pushed
        have shorter : others.length < (first :: later).length := by
          have positive := List.length_pos_iff.mpr
            (String.utf8EncodeChar_ne_nil (c := character))
          rw [split, List.length_append]
          omega
        obtain ⟨behind, splitAgain, characters, utf8Again⟩ :=
          induction _ shorter valid foundAgain rfl
        refine ⟨String.utf8EncodeChar character ++ behind, ?_,
          .cons (.unescaped (by omega) ?_ ?_) characters, utf8Again⟩
        · rw [splitAgain, List.append_assoc]
        · rintro rfl
          exact absurd high (by decide)
        · rintro rfl
          exact absurd high (by decide)

theorem string_reads (utf8 : validUtf8 input = true)
    (scanned : JsonValidator.string input = some rest) :
    Reads StringToken input rest := by
  obtain ⟨⟨span, end_⟩, parsed, same⟩ := Option.map_eq_some_iff.mp scanned
  cases same
  cases input with
  | nil => cases parsed
  | cons first later =>
    rw [parseString] at parsed
    split at parsed
    · rename_i quote
      subst quote
      obtain ⟨text, split, characters, valid⟩ :=
        scanString_reads (validUtf8_ascii (by decide) utf8) parsed
      refine ⟨byte '"' :: (text ++ [byte '"']), ?_, .quoted characters,
        valid⟩
      simp [split]
    · cases parsed

theorem Characters.scanned (characters : Characters text) (rest : Bytes) :
    ∃ span, scanString (text ++ byte '"' :: rest) = some (span, rest) := by
  induction characters with
  | nil =>
    refine ⟨⟨[], false⟩, ?_⟩
    rw [List.nil_append, scanString.eq_def]
    exact if_pos rfl
  | cons first later induction =>
    obtain ⟨span, found⟩ := induction
    obtain ⟨escaped, round⟩ := scanString_character first _
    rw [List.append_assoc, round, found]
    exact ⟨_, rfl⟩

theorem StringToken.accepted (token : StringToken text) (rest : Bytes) :
    JsonValidator.string (text ++ rest) = some rest := by
  cases token with
  | @quoted text characters =>
    obtain ⟨span, found⟩ := characters.scanned rest
    have shape : byte '"' :: (text ++ [byte '"']) ++ rest =
        byte '"' :: (text ++ byte '"' :: rest) := by simp
    rw [shape, JsonValidator.string, parseString, if_pos rfl, found]
    rfl

/-! ### Numbers -/

/-- The rest does not begin with one of these bytes. -/
def Behind (characters rest : Bytes) : Prop :=
  ∀ next ∈ rest.head?, next ∉ characters

theorem Behind.mono {fewer more : Bytes} (behind : Behind more rest)
    (subset : fewer ⊆ more) : Behind fewer rest :=
  fun next member found => behind next member (subset found)

theorem digits_reads (read : JsonValidator.digits input = some rest) :
    ∃ text, input = text ++ rest ∧ Digits text := by
  rw [JsonValidator.digits] at read
  split at read
  · cases read
  · rename_i some
    cases read
    refine ⟨input.takeWhile isDigit,
      List.takeWhile_append_dropWhile.symm, some, ?_⟩
    intro character member
    exact (isDigit_iff character).mp (List.mem_takeWhile_imp member)

/-- Digits are read up to the first byte that is none. -/
theorem takeWhile_digits (digits : ∀ character ∈ text, Digit character)
    (stop : Behind (ascii "0123456789") rest) :
    (text ++ rest).takeWhile isDigit = text ∧
      (text ++ rest).dropWhile isDigit = rest := by
  have all : ∀ character ∈ text, isDigit character = true :=
    fun character member => (isDigit_iff character).mpr
      (digits character member)
  have front : rest.takeWhile isDigit = [] ∧
      rest.dropWhile isDigit = rest := by
    cases rest with
    | nil => exact ⟨rfl, rfl⟩
    | cons next rest =>
      have other : ¬isDigit next = true := fun digit =>
        stop next rfl ((isDigit_iff next).mp digit)
      exact ⟨List.takeWhile_cons_of_neg other, List.dropWhile_cons_of_neg other⟩
  rw [List.takeWhile_append_of_pos all, List.dropWhile_append_of_pos all,
    front.1, front.2]
  exact ⟨List.append_nil text, rfl⟩

theorem Digits.accepted (digits : Digits text)
    (stop : Behind (ascii "0123456789") rest) :
    JsonValidator.digits (text ++ rest) = some rest := by
  obtain ⟨taken, dropped⟩ := takeWhile_digits digits.2 stop
  rw [JsonValidator.digits, taken, dropped, if_neg digits.1]

theorem integer_reads (read : JsonValidator.integer input = some rest) :
    ∃ text, input = text ++ rest ∧ Integer text := by
  cases input with
  | nil => cases read
  | cons first later =>
    rw [JsonValidator.integer.eq_def] at read
    simp only at read
    split at read
    · rename_i zero
      subst zero
      refine ⟨[byte '0'], ?_, .zero⟩
      split at read
      · split at read
        · cases read
        · cases read
          rfl
      · cases read
        rfl
    · rename_i notZero
      obtain ⟨text, split, some, digits⟩ := digits_reads read
      cases text with
      | nil => exact absurd rfl some
      | cons digit others =>
        obtain ⟨rfl, rfl⟩ := List.cons.inj split
        refine ⟨first :: others, rfl, .positive ?_ ?_⟩
        · have digit := digits first List.mem_cons_self
          have spelled : ascii "0123456789" =
              byte '0' :: ascii "123456789" := rfl
          rw [Digit, spelled, List.mem_cons] at digit
          exact digit.resolve_left notZero
        · intro character member
          exact digits character (List.mem_cons_of_mem _ member)

theorem fraction_reads (read : JsonValidator.fraction input = some rest) :
    ∃ text, input = text ++ rest ∧ Fraction text := by
  cases input with
  | nil =>
    cases read
    exact ⟨[], rfl, .absent⟩
  | cons first later =>
    rw [JsonValidator.fraction] at read
    split at read
    · rename_i point
      subst point
      obtain ⟨text, rfl, digits⟩ := digits_reads read
      exact ⟨byte '.' :: text, rfl, .present digits⟩
    · cases read
      exact ⟨[], rfl, .absent⟩

theorem exponent_reads (read : JsonValidator.exponent input = some rest) :
    ∃ text, input = text ++ rest ∧ Exponent text := by
  have spelledMark : ascii "eE" = [byte 'e', byte 'E'] := rfl
  have spelledSign : ascii "+-" = [byte '+', byte '-'] := rfl
  cases input with
  | nil =>
    cases read
    exact ⟨[], rfl, .absent⟩
  | cons first later =>
    rw [JsonValidator.exponent.eq_def] at read
    simp only at read
    split at read
    · rename_i mark
      have letter : first ∈ ascii "eE" := by simpa [spelledMark] using mark
      cases later with
      | nil => cases read
      | cons sign later =>
        simp only at read
        split at read
        · rename_i signed
          obtain ⟨text, rfl, digits⟩ := digits_reads read
          exact ⟨first :: sign :: text, rfl, .signed letter
            (by simpa [spelledSign] using signed) digits⟩
        · obtain ⟨text, split, digits⟩ := digits_reads read
          rw [split]
          exact ⟨first :: text, rfl, .unsigned letter digits⟩
    · cases read
      exact ⟨[], rfl, .absent⟩

/-- The bytes numbers are made of. -/
def numberCharacters : Bytes :=
  ascii "0123456789-+.eE"

theorem Digits.characters (digits : Digits text) : text ⊆ numberCharacters := by
  intro character member
  have subset : ascii "0123456789" ⊆ numberCharacters := by decide
  exact subset (digits.2 character member)

theorem Integer.characters (integer : Integer text) : text ⊆ numberCharacters := by
  have subset : ascii "0123456789" ⊆ numberCharacters := by decide
  cases integer with
  | zero => decide
  | positive leading digits =>
    have nonzero : ascii "123456789" ⊆ ascii "0123456789" := by decide
    apply List.cons_subset.mpr
    constructor
    · exact subset (nonzero leading)
    · intro character member
      exact subset (digits character member)

theorem Fraction.characters {text : Bytes} (fraction : Fraction text) :
    text ⊆ numberCharacters := by
  cases fraction with
  | absent => exact List.nil_subset _
  | present digits =>
    exact List.cons_subset.mpr ⟨by decide, digits.characters⟩

theorem Exponent.characters {text : Bytes} (exponent : Exponent text) :
    text ⊆ numberCharacters := by
  have marks : ascii "eE" ⊆ numberCharacters := by decide
  have signs : ascii "+-" ⊆ numberCharacters := by decide
  cases exponent with
  | absent => exact List.nil_subset _
  | unsigned letter digits =>
    exact List.cons_subset.mpr ⟨marks letter, digits.characters⟩
  | signed letter sign digits =>
    exact List.cons_subset.mpr ⟨marks letter,
      List.cons_subset.mpr ⟨signs sign, digits.characters⟩⟩

theorem Number.characters {text : Bytes} (number : Number text) :
    text ⊆ numberCharacters := by
  cases number with
  | positive digits part power =>
    exact List.append_subset.mpr ⟨digits.characters,
      List.append_subset.mpr ⟨part.characters, power.characters⟩⟩
  | negative digits part power =>
    exact List.cons_subset.mpr ⟨by decide,
      List.append_subset.mpr ⟨digits.characters,
        List.append_subset.mpr ⟨part.characters, power.characters⟩⟩⟩

theorem number_reads (utf8 : validUtf8 input = true)
    (read : JsonValidator.number input = some rest) : Reads Number input rest := by
  have low : ∀ character ∈ numberCharacters, character ≤ 0x7f :=
    forall_mem_of_all (by decide)
  -- the three parts behind the sign
  have parts : ∀ {unsigned : Bytes},
      ((JsonValidator.integer unsigned).bind JsonValidator.fraction).bind
        JsonValidator.exponent = some rest →
      ∃ whole fraction exponent, Integer whole ∧ Fraction fraction ∧
        Exponent exponent ∧
          unsigned = whole ++ (fraction ++ exponent) ++ rest := by
    intro unsigned parsed
    obtain ⟨behindFraction, found, powered⟩ := Option.bind_eq_some_iff.mp parsed
    obtain ⟨behindWhole, whole, part⟩ := Option.bind_eq_some_iff.mp found
    obtain ⟨digits, rfl, integer⟩ := integer_reads whole
    obtain ⟨decimals, rfl, fraction⟩ := fraction_reads part
    obtain ⟨power, rfl, exponent⟩ := exponent_reads powered
    exact ⟨digits, decimals, power, integer, fraction, exponent, by simp⟩
  have token : ∃ text, input = text ++ rest ∧ Number text := by
    rw [JsonValidator.number.eq_def] at read
    cases input with
    | nil =>
      obtain ⟨whole, fraction, exponent, integer, part, power, split⟩ :=
        parts read
      exact ⟨_, split, .positive integer part power⟩
    | cons first later =>
      simp only at read
      split at read
      · rename_i sign
        subst sign
        obtain ⟨whole, fraction, exponent, integer, part, power, split⟩ :=
          parts read
        exact ⟨_, by rw [split]; rfl, .negative integer part power⟩
      · obtain ⟨whole, fraction, exponent, integer, part, power, split⟩ :=
          parts read
        exact ⟨_, split, .positive integer part power⟩
  obtain ⟨text, split, number⟩ := token
  refine ⟨text, split, number, ?_⟩
  rw [split] at utf8
  exact validUtf8_behind
    (fun character member => low character (number.characters member)) utf8

/-! Behind a number its last part must not go on. -/

theorem Integer.accepted {text rest : Bytes} (integer : Integer text)
    (stop : Behind (ascii "0123456789") rest) :
    JsonValidator.integer (text ++ rest) = some rest := by
  cases integer with
  | zero =>
    rw [List.singleton_append, JsonValidator.integer.eq_def]
    cases rest with
    | nil => rfl
    | cons next rest =>
      have other : ¬isDigit next = true := fun digit =>
        stop next rfl ((isDigit_iff next).mp digit)
      simp only [if_true, if_neg other]
  | @positive first others leading digits =>
    have notZero : first ≠ byte '0' := by
      rintro rfl
      exact absurd leading (by decide)
    have subset : ascii "123456789" ⊆ ascii "0123456789" := by decide
    have all : Digits (first :: others) := by
      constructor
      · exact List.cons_ne_nil _ _
      · rintro character (_ | ⟨_, member⟩)
        · exact subset leading
        · exact digits character member
    rw [List.cons_append, JsonValidator.integer.eq_def]
    simp only [notZero, if_false]
    exact all.accepted stop

theorem Fraction.accepted {text rest : Bytes} (fraction : Fraction text)
    (stop : Behind (ascii "0123456789.") rest) :
    JsonValidator.fraction (text ++ rest) = some rest := by
  cases fraction with
  | absent =>
    cases rest with
    | nil => rfl
    | cons next rest =>
      have point : next ≠ byte '.' := by
        rintro rfl
        exact stop _ rfl (by decide)
      rw [List.nil_append, JsonValidator.fraction, if_neg point]
  | present digits =>
    exact digits.accepted (stop.mono (by decide))

theorem Exponent.accepted {text rest : Bytes} (exponent : Exponent text)
    (stop : Behind (ascii "0123456789.eE") rest) :
    JsonValidator.exponent (text ++ rest) = some rest := by
  have spelledMark : ascii "eE" = [byte 'e', byte 'E'] := rfl
  have spelledSign : ascii "+-" = [byte '+', byte '-'] := rfl
  have subset : ascii "0123456789" ⊆ ascii "0123456789.eE" := by decide
  cases exponent with
  | absent =>
    cases rest with
    | nil => rfl
    | cons next rest =>
      have mark : ¬(next = byte 'e' ∨ next = byte 'E') := by
        rintro (rfl | rfl)
        · exact stop _ rfl (by decide)
        · exact stop _ rfl (by decide)
      rw [List.nil_append, JsonValidator.exponent.eq_def]
      simp only [if_neg mark]
  | @unsigned mark text letter digits =>
    have marked : mark = byte 'e' ∨ mark = byte 'E' := by
      simpa [spelledMark] using letter
    have accepted := digits.accepted (stop.mono subset)
    cases text with
    | nil => exact absurd rfl digits.1
    | cons first text =>
      have digit := digits.2 first List.mem_cons_self
      rw [Digit] at digit
      have sign : ¬(first = byte '+' ∨ first = byte '-') := by
        rintro (rfl | rfl)
        · exact absurd digit (by decide)
        · exact absurd digit (by decide)
      rw [List.cons_append, JsonValidator.exponent.eq_def]
      simp only [if_pos marked, List.cons_append, if_neg sign]
      exact accepted
  | @signed mark sign text letter signs digits =>
    have marked : mark = byte 'e' ∨ mark = byte 'E' := by
      simpa [spelledMark] using letter
    have signed : sign = byte '+' ∨ sign = byte '-' := by
      simpa [spelledSign] using signs
    rw [List.cons_append, JsonValidator.exponent.eq_def]
    simp only [if_pos marked, List.cons_append, if_pos signed]
    exact digits.accepted (stop.mono subset)

/-- What may stand behind one part may stand behind it and the next. -/
theorem Exponent.behind (exponent : Exponent text)
    (stop : Behind (ascii "0123456789.eE") rest) :
    Behind (ascii "0123456789.") (text ++ rest) := by
  have marks : ∀ mark ∈ ascii "eE", mark ∉ ascii "0123456789." :=
    forall_mem_of_all (by decide)
  cases exponent with
  | absent => exact stop.mono (by decide)
  | unsigned letter digits =>
    rintro next ⟨⟩
    exact marks _ letter
  | signed letter signs digits =>
    rintro next ⟨⟩
    exact marks _ letter

theorem Fraction.behind (fraction : Fraction text)
    (stop : Behind (ascii "0123456789.") rest) :
    Behind (ascii "0123456789") (text ++ rest) := by
  cases fraction with
  | absent => exact stop.mono (by decide)
  | present digits =>
    rintro next ⟨⟩
    decide

theorem Number.accepted {text rest : Bytes} (number : Number text)
    (stop : Behind (ascii "0123456789.eE") rest) :
    JsonValidator.number (text ++ rest) = some rest := by
  have parts : ∀ {whole fraction exponent : Bytes}, Integer whole →
      Fraction fraction → Exponent exponent →
      ((JsonValidator.integer (whole ++ (fraction ++ (exponent ++ rest)))).bind
          JsonValidator.fraction).bind JsonValidator.exponent =
        some rest := by
    intro whole fraction exponent integer part power
    have behindFraction := power.behind stop
    rw [integer.accepted (part.behind behindFraction), Option.bind_some,
      part.accepted behindFraction, Option.bind_some]
    exact power.accepted stop
  cases number with
  | @positive whole fraction exponent integer part power =>
    have unsigned := parts integer part power
    rw [List.append_assoc, List.append_assoc, JsonValidator.number.eq_def]
    cases integer with
    | zero => exact unsigned
    | @positive first others leading digits =>
      have notMinus : first ≠ byte '-' := by
        rintro rfl
        exact absurd leading (by decide)
      rw [List.cons_append] at unsigned ⊢
      simp only [if_neg notMinus]
      exact unsigned
  | @negative whole fraction exponent integer part power =>
    rw [List.cons_append, JsonValidator.number.eq_def]
    simp only [if_true, List.append_assoc]
    exact parts integer part power

end Kitsu.Companion.JsonGrammar
