import Kitsu.Companion.JsonGrammar

/-!
# The validator and the grammar

`JsonValidator` against the grammar of RFC 8259, in both directions.  A value
stands at one of the depths 0 to 16, so that a container may be opened seventeen
times, but the innermost of seventeen containers has to be empty.
-/

namespace Kitsu.Companion.JsonAcceptance

open Kitsu.Lib.ByteString
open Kitsu.Companion.Base64Url
open Kitsu.Companion.Json
open Kitsu.Companion.JsonGrammar

/-! ## What the validator reads is derived -/

/-- A function that reads texts of a symbol. -/
def Sound (phrase : Phrase) (containers levels : Nat)
    (read : Bytes → Option Bytes) : Prop :=
  ∀ {input rest : Bytes}, validUtf8 input = true → read input = some rest →
    Reads (Derives phrase containers levels) input rest

variable {input : Bytes}

theorem Reads.mono {Token Other : Bytes → Prop} {rest : Bytes}
    (reads : Reads Token input rest)
    (weaker : ∀ {text : Bytes}, Token text → Other text) :
    Reads Other input rest := by
  obtain ⟨text, split, token, utf8⟩ := reads
  exact ⟨text, split, weaker token, utf8⟩

theorem literal_reads {expected rest : Bytes}
    (low : ∀ character ∈ expected, character ≤ 0x7f)
    (utf8 : validUtf8 input = true)
    (read : JsonValidator.literal expected input = some rest) :
    Reads (· = expected) input rest := by
  rw [JsonValidator.literal] at read
  split at read
  · rename_i front
    cases read
    have split : input = expected ++ input.drop expected.length := by
      rw [← congrArg (· ++ input.drop expected.length) front]
      exact (List.take_append_drop _ input).symm
    refine ⟨expected, split, rfl, ?_⟩
    rw [split] at utf8
    exact validUtf8_behind low utf8
  · cases read

section Containers

variable {value : Bytes → Option Bytes} {containers levels : Nat}

/-- What a loop over elements has read, up to the closing bracket. -/
def Closed (phrase : Phrase) (containers levels : Nat) (bracket : UInt8)
    (text : Bytes) : Prop :=
  ∃ inside after, Derives phrase containers levels inside ∧
    Whitespace after ∧ text = inside ++ (after ++ [bracket])

section

variable (sound : Sound .value containers levels value)

include sound

theorem elements_reads {fuel : Nat} {rest : Bytes} (utf8 : validUtf8 input = true)
    (read : JsonValidator.elements value fuel input = some rest) :
    Reads (Closed .elements containers levels (byte ']')) input rest := by
  induction fuel generalizing input with
  | zero => cases read
  | succ fuel induction =>
    rw [JsonValidator.elements] at read
    split at read
    · cases read
    rename_i behindValue found
    obtain ⟨text, rfl, derived, utf8⟩ := sound utf8 found
    obtain ⟨spaces, spaced, blank, utf8⟩ := skipWhitespace_reads utf8
    split at read
    · cases read
    rename_i next behindNext skipped
    rw [skipped] at spaced utf8
    split at read
    · rename_i bracket
      subst bracket
      cases read
      refine ⟨text ++ (spaces ++ [byte ']']), ?_,
        ⟨text, spaces, .element derived, blank, rfl⟩,
        validUtf8_ascii (by decide) utf8⟩
      rw [spaced]
      simp
    split at read
    · cases read
    rename_i comma
    cases not_not.mp comma
    have behind := validUtf8_ascii (by decide) utf8
    obtain ⟨others, othersSpaced, othersBlank, utf8⟩ :=
      skipWhitespace_reads behind
    obtain ⟨later, split, ⟨inside, after, laterDerived, laterBlank, rfl⟩,
      utf8⟩ := induction utf8 read
    refine ⟨text ++ (spaces ++ byte ',' :: (others ++ inside)) ++
        (after ++ [byte ']']), ?_,
      ⟨_, after, .elements derived blank othersBlank laterDerived,
        laterBlank, rfl⟩, utf8⟩
    rw [spaced, othersSpaced, split]
    simp

theorem members_reads {fuel : Nat} {rest : Bytes} (utf8 : validUtf8 input = true)
    (read : JsonValidator.members value fuel input = some rest) :
    Reads (Closed .members containers levels (byte '\x7d')) input rest := by
  induction fuel generalizing input with
  | zero => cases read
  | succ fuel induction =>
    rw [JsonValidator.members] at read
    split at read
    · cases read
    rename_i behindName named
    obtain ⟨name, rfl, token, utf8⟩ := string_reads utf8 named
    obtain ⟨before, beforeSpaced, beforeBlank, utf8⟩ :=
      skipWhitespace_reads utf8
    split at read
    · cases read
    rename_i next behindColon colonSkipped
    rw [colonSkipped] at beforeSpaced utf8
    split at read
    · cases read
    rename_i colon
    cases not_not.mp colon
    obtain ⟨after, afterSpaced, afterBlank, utf8⟩ :=
      skipWhitespace_reads (validUtf8_ascii (by decide) utf8)
    split at read
    · cases read
    rename_i behindValue found
    obtain ⟨text, valueSplit, derived, utf8⟩ := sound utf8 found
    obtain ⟨spaces, spaced, blank, utf8⟩ := skipWhitespace_reads utf8
    split at read
    · cases read
    rename_i next behindNext skipped
    rw [skipped] at spaced utf8
    split at read
    · rename_i brace
      subst brace
      cases read
      refine ⟨name ++ (before ++ byte ':' :: (after ++ text)) ++
          (spaces ++ [byte '\x7d']), ?_,
        ⟨_, spaces, .member token beforeBlank afterBlank derived, blank,
          rfl⟩, validUtf8_ascii (by decide) utf8⟩
      rw [beforeSpaced, afterSpaced, valueSplit, spaced]
      simp
    split at read
    · cases read
    rename_i comma
    cases not_not.mp comma
    obtain ⟨others, othersSpaced, othersBlank, utf8⟩ :=
      skipWhitespace_reads (validUtf8_ascii (by decide) utf8)
    obtain ⟨later, split, ⟨inside, last, laterDerived, laterBlank, rfl⟩,
      utf8⟩ := induction utf8 read
    refine ⟨name ++ (before ++ byte ':' :: (after ++
        (text ++ (spaces ++ byte ',' :: (others ++ inside))))) ++
          (last ++ [byte '\x7d']), ?_,
      ⟨_, last, .members token beforeBlank afterBlank derived blank
        othersBlank laterDerived, laterBlank, rfl⟩, utf8⟩
    rw [beforeSpaced, afterSpaced, valueSplit, spaced, othersSpaced, split]
    simp

/-- A container whose inside is read by `value`, behind its first bracket. -/
theorem array_reads {rest : Bytes} (utf8 : validUtf8 input = true)
    (read : JsonValidator.array value input = some rest) :
    Reads (fun text => Derives .value (containers + 1) (levels + 1)
      (byte '[' :: text)) input rest := by
  obtain ⟨spaces, spaced, blank, utf8⟩ := skipWhitespace_reads utf8
  rw [JsonValidator.array] at read
  split at read
  · cases read
  rename_i next behindNext skipped
  rw [skipped] at spaced utf8
  split at read
  · rename_i bracket
    subst bracket
    cases read
    refine ⟨spaces ++ [byte ']'], ?_, .emptyArray blank,
      validUtf8_ascii (by decide) utf8⟩
    rw [spaced]
    simp
  · obtain ⟨text, split, ⟨inside, after, derived, afterBlank, rfl⟩, utf8⟩ :=
      elements_reads sound utf8 read
    refine ⟨spaces ++ (inside ++ (after ++ [byte ']'])), ?_,
      .array blank derived afterBlank, utf8⟩
    rw [spaced, split]
    simp

theorem object_reads {rest : Bytes} (utf8 : validUtf8 input = true)
    (read : JsonValidator.object value input = some rest) :
    Reads (fun text => Derives .value (containers + 1) (levels + 1)
      (byte '\x7b' :: text)) input rest := by
  obtain ⟨spaces, spaced, blank, utf8⟩ := skipWhitespace_reads utf8
  rw [JsonValidator.object] at read
  split at read
  · cases read
  rename_i next behindNext skipped
  rw [skipped] at spaced utf8
  split at read
  · rename_i brace
    subst brace
    cases read
    refine ⟨spaces ++ [byte '\x7d'], ?_, .emptyObject blank,
      validUtf8_ascii (by decide) utf8⟩
    rw [spaced]
    simp
  · obtain ⟨text, split, ⟨inside, after, derived, afterBlank, rfl⟩, utf8⟩ :=
      members_reads sound utf8 read
    refine ⟨spaces ++ (inside ++ (after ++ [byte '\x7d'])), ?_,
      .object blank derived afterBlank, utf8⟩
    rw [spaced, split]
    simp

end

end Containers

/-- A value is read with as many levels as its function may still enter. -/
theorem value_reads (levels : Nat) :
    Sound .value levels levels (JsonValidator.value levels) := by
  induction levels with
  | zero => nofun
  | succ levels induction =>
    intro input rest utf8 read
    cases input with
    | nil => cases read
    | cons first later =>
      rw [JsonValidator.value] at read
      split at read
      · rename_i brace
        subst brace
        obtain ⟨text, rfl, derived, utf8⟩ := object_reads induction
          (validUtf8_ascii (by decide) utf8) read
        exact ⟨byte '\x7b' :: text, rfl, derived, utf8⟩
      split at read
      · rename_i bracket
        subst bracket
        obtain ⟨text, rfl, derived, utf8⟩ := array_reads induction
          (validUtf8_ascii (by decide) utf8) read
        exact ⟨byte '[' :: text, rfl, derived, utf8⟩
      split at read
      · exact Reads.mono (string_reads utf8 read) .string
      split at read
      · exact Reads.mono (literal_reads (forall_mem_of_all (by decide)) utf8 read)
          (fun same => same ▸ .true)
      split at read
      · exact Reads.mono (literal_reads (forall_mem_of_all (by decide)) utf8 read)
          (fun same => same ▸ .false)
      split at read
      · exact Reads.mono (literal_reads (forall_mem_of_all (by decide)) utf8 read)
          (fun same => same ▸ .null)
      · exact Reads.mono (number_reads utf8 read) .number

/-! ## What is derived the validator reads -/

/-- The bytes that may begin a value. -/
def valueCharacters : Bytes :=
  ascii "\x7b[\"tfn-0123456789"

variable {text : Bytes}

theorem stringToken_head (token : StringToken text) :
    ∃ rest, text = byte '"' :: rest := by
  cases token with
  | quoted characters => exact ⟨_, rfl⟩

theorem number_head (number : Number text) :
    ∃ first rest, text = first :: rest ∧ first ∈ ascii "-0123456789" := by
  have whole : ∀ {text : Bytes}, Integer text →
      ∃ first rest, text = first :: rest ∧
        first ∈ ascii "-0123456789" := by
    intro text integer
    cases integer with
    | zero => exact ⟨byte '0', [], rfl, by decide⟩
    | @positive first rest leading digits =>
      have subset : ascii "123456789" ⊆ ascii "-0123456789" := by decide
      exact ⟨first, rest, rfl, subset leading⟩
  cases number with
  | positive integer part power =>
    obtain ⟨first, rest, rfl, member⟩ := whole integer
    exact ⟨first, _, rfl, member⟩
  | negative integer part power => exact ⟨byte '-', _, rfl, by decide⟩

/-- The byte a text of the symbol begins with. -/
def firstCharacters : Phrase → Bytes
  | .value => valueCharacters
  | .elements => valueCharacters
  | .members => ascii "\""

theorem derives_head {phrase : Phrase} {containers levels : Nat}
    (derived : Derives phrase containers levels text) :
    ∃ first rest, text = first :: rest ∧
      first ∈ firstCharacters phrase := by
  induction derived with
  | true => exact ⟨byte 't', ascii "rue", by decide, by decide⟩
  | false => exact ⟨byte 'f', ascii "alse", by decide, by decide⟩
  | null => exact ⟨byte 'n', ascii "ull", by decide, by decide⟩
  | string token =>
    obtain ⟨rest, rfl⟩ := stringToken_head token
    exact ⟨byte '"', rest, rfl, by decide⟩
  | number token =>
    obtain ⟨first, rest, rfl, member⟩ := number_head token
    have subset : ascii "-0123456789" ⊆ valueCharacters := by decide
    exact ⟨first, rest, rfl, subset member⟩
  | emptyArray blank => exact ⟨byte '[', _, rfl, by decide⟩
  | array front inside back => exact ⟨byte '[', _, rfl, by decide⟩
  | emptyObject blank => exact ⟨byte '\x7b', _, rfl, by decide⟩
  | object front inside back => exact ⟨byte '\x7b', _, rfl, by decide⟩
  | element only induction => exact induction
  | elements first front back later induction =>
    obtain ⟨character, rest, rfl, member⟩ := induction
    exact ⟨character, _, rfl, member⟩
  | member token =>
    obtain ⟨rest, rfl⟩ := stringToken_head token
    exact ⟨byte '"', _, rfl, by decide⟩
  | members token =>
    obtain ⟨rest, rfl⟩ := stringToken_head token
    exact ⟨byte '"', _, rfl, by decide⟩

variable {spaces : Bytes}

/-- White space, and then a byte that begins a value or a name. -/
theorem skipWhitespace_derived {phrase : Phrase} {containers levels : Nat}
    (blank : Whitespace spaces)
    (derived : Derives phrase containers levels text) (rest : Bytes) :
    skipWhitespace (spaces ++ (text ++ rest)) = text ++ rest := by
  have visible : ∀ phrase, ∀ first ∈ firstCharacters phrase,
      isSpace first = false := by
    rintro ⟨⟩ <;> exact forall_mem_of_all (by decide)
  obtain ⟨first, later, rfl, member⟩ := derives_head derived
  rw [skipWhitespace_blank blank, List.cons_append]
  exact skipWhitespace_visible _ (visible phrase first member)

variable {next : UInt8}

/-- White space, and then a byte that is none. -/
theorem skipWhitespace_byte (blank : Whitespace spaces)
    (visible : isSpace next = false) (rest : Bytes) :
    skipWhitespace (spaces ++ next :: rest) = next :: rest := by
  rw [skipWhitespace_blank blank, skipWhitespace_visible rest visible]

/-- The bytes a number could go on with. -/
def numberTail : Bytes :=
  ascii "0123456789.eE"

theorem behind_spaces (blank : Whitespace spaces)
    (delimiter : next ∉ numberTail) (rest : Bytes) :
    Behind numberTail (spaces ++ next :: rest) := by
  have separate : ∀ character ∈ ascii " \t\n\r",
      character ∉ numberTail := forall_mem_of_all (by decide)
  cases spaces with
  | nil =>
    rintro first ⟨⟩
    exact delimiter
  | cons space spaces =>
    rintro first ⟨⟩
    exact separate space (blank space List.mem_cons_self)

theorem behind_blank (blank : Whitespace spaces) : Behind numberTail spaces := by
  have separate : ∀ character ∈ ascii " \t\n\r",
      character ∉ numberTail := forall_mem_of_all (by decide)
  cases spaces with
  | nil => nofun
  | cons space spaces =>
    rintro first ⟨⟩
    exact separate space (blank space List.mem_cons_self)

theorem literal_accepted (expected rest : Bytes) :
    JsonValidator.literal expected (expected ++ rest) = some rest := by
  rw [JsonValidator.literal, List.take_left, if_pos rfl, List.drop_left]

/-- The validator reads a text of the symbol, with some levels left. -/
def Accepted : Phrase → Nat → Bytes → Prop
  | .value, levels, text =>
    ∀ rest, Behind numberTail rest →
      JsonValidator.value levels (text ++ rest) = some rest
  | .elements, levels, text =>
    ∀ fuel after rest, text.length < fuel → Whitespace after →
      JsonValidator.elements (JsonValidator.value levels) fuel
        (text ++ (after ++ byte ']' :: rest)) = some rest
  | .members, levels, text =>
    ∀ fuel after rest, text.length < fuel → Whitespace after →
      JsonValidator.members (JsonValidator.value levels) fuel
        (text ++ (after ++ byte '\x7d' :: rest)) = some rest

section Loops

variable {levels : Nat} {value : Bytes}

/-- One round of the loop over elements. -/
theorem elements_step (accepted : Accepted .value levels value)
    (blank : Whitespace spaces) (delimiter : next = byte ']' ∨ next = byte ',') (fuel : Nat)
    (rest : Bytes) :
    JsonValidator.elements (JsonValidator.value levels) (fuel + 1)
        (value ++ (spaces ++ next :: rest)) =
      if next = byte ']' then some rest
      else if next ≠ byte ',' then none
      else
        JsonValidator.elements (JsonValidator.value levels) fuel
          (skipWhitespace rest) := by
  have separate : next ∉ numberTail ∧ isSpace next = false := by
    rcases delimiter with rfl | rfl
    · decide
    · decide
  rw [JsonValidator.elements, accepted _ (behind_spaces blank separate.1 rest)]
  simp only [skipWhitespace_byte blank separate.2]

/-- One round of the loop over members. -/
theorem members_step {name before after : Bytes} (token : StringToken name)
    (beforeColon : Whitespace before) {containers inner : Nat}
    (behindColon : Whitespace after)
    (derived : Derives .value containers inner value)
    (accepted : Accepted .value levels value) (blank : Whitespace spaces)
    (delimiter : next = byte '\x7d' ∨ next = byte ',') (fuel : Nat)
    (rest : Bytes) :
    JsonValidator.members (JsonValidator.value levels) (fuel + 1)
        (name ++ (before ++ byte ':' :: (after ++
          (value ++ (spaces ++ next :: rest))))) =
      if next = byte '\x7d' then some rest
      else if next ≠ byte ',' then none
      else
        JsonValidator.members (JsonValidator.value levels) fuel
          (skipWhitespace rest) := by
  have separate : next ∉ numberTail ∧ isSpace next = false := by
    rcases delimiter with rfl | rfl
    · decide
    · decide
  have colon : isSpace (byte ':') = false := by decide
  rw [JsonValidator.members, token.accepted]
  simp only [skipWhitespace_byte beforeColon colon, ne_eq, not_true_eq_false,
    if_false, skipWhitespace_derived behindColon derived,
    accepted _ (behind_spaces blank separate.1 rest),
    skipWhitespace_byte blank separate.2]

end Loops

section Dispatch

variable (room : Nat) (rest : Bytes)

theorem value_object : JsonValidator.value (room + 1) (byte '\x7b' :: rest) =
    JsonValidator.object (JsonValidator.value room) rest := by
  rw [JsonValidator.value, if_pos rfl]

theorem value_array : JsonValidator.value (room + 1) (byte '[' :: rest) =
    JsonValidator.array (JsonValidator.value room) rest := by
  rw [JsonValidator.value, if_neg (by decide), if_pos rfl]

theorem value_string : JsonValidator.value (room + 1) (byte '"' :: rest) =
    JsonValidator.string (byte '"' :: rest) := by
  rw [JsonValidator.value, if_neg (by decide), if_neg (by decide), if_pos rfl]

theorem value_true : JsonValidator.value (room + 1) (byte 't' :: rest) =
    JsonValidator.literal (ascii "true") (byte 't' :: rest) := by
  rw [JsonValidator.value, if_neg (by decide), if_neg (by decide),
    if_neg (by decide), if_pos rfl]

theorem value_false : JsonValidator.value (room + 1) (byte 'f' :: rest) =
    JsonValidator.literal (ascii "false") (byte 'f' :: rest) := by
  rw [JsonValidator.value, if_neg (by decide), if_neg (by decide),
    if_neg (by decide), if_neg (by decide), if_pos rfl]

theorem value_null : JsonValidator.value (room + 1) (byte 'n' :: rest) =
    JsonValidator.literal (ascii "null") (byte 'n' :: rest) := by
  rw [JsonValidator.value, if_neg (by decide), if_neg (by decide),
    if_neg (by decide), if_neg (by decide), if_neg (by decide), if_pos rfl]

theorem value_number {first : UInt8}
    (leading : first ∈ ascii "-0123456789") :
    JsonValidator.value (room + 1) (first :: rest) =
      JsonValidator.number (first :: rest) := by
  have other : ∀ first ∈ ascii "-0123456789",
      first ≠ byte '\x7b' ∧ first ≠ byte '[' ∧ first ≠ byte '"' ∧
        first ≠ byte 't' ∧ first ≠ byte 'f' ∧ first ≠ byte 'n' :=
    forall_mem_of_all (by decide)
  obtain ⟨brace, bracket, quote, t, f, n⟩ := other first leading
  rw [JsonValidator.value, if_neg brace, if_neg bracket, if_neg quote,
    if_neg t, if_neg f, if_neg n]

end Dispatch

/-- The validator reads every text of the grammar, up to its end. -/
theorem derives_accepted {phrase : Phrase} {containers levels : Nat}
    (derived : Derives phrase containers levels text) {room : Nat}
    (enough : levels ≤ room) : Accepted phrase room text := by
  -- a value is read as long as there is a level left for it
  have level : ∀ {levels room : Nat}, levels + 1 ≤ room →
      ∃ inner, room = inner + 1 ∧ levels ≤ inner := by
    intro levels room enough
    exact ⟨room - 1, by omega, by omega⟩
  induction derived generalizing room with
  | true =>
    obtain ⟨room, rfl, _⟩ := level enough
    intro rest _
    exact (value_true room _).trans (literal_accepted (ascii "true") rest)
  | false =>
    obtain ⟨room, rfl, _⟩ := level enough
    intro rest _
    exact (value_false room _).trans (literal_accepted (ascii "false") rest)
  | null =>
    obtain ⟨room, rfl, _⟩ := level enough
    intro rest _
    exact (value_null room _).trans (literal_accepted (ascii "null") rest)
  | string token =>
    obtain ⟨room, rfl, _⟩ := level enough
    intro rest _
    have accepted := token.accepted rest
    obtain ⟨later, rfl⟩ := stringToken_head token
    exact (value_string room _).trans accepted
  | number token =>
    obtain ⟨room, rfl, _⟩ := level enough
    intro rest stop
    have accepted := Number.accepted token stop
    obtain ⟨first, later, rfl, leading⟩ := number_head token
    exact (value_number room _ leading).trans accepted
  | @emptyArray containers levels spaces blank =>
    obtain ⟨room, rfl, _⟩ := level enough
    intro rest _
    have skipped : skipWhitespace (spaces ++ [byte ']'] ++ rest) =
        byte ']' :: rest := by
      rw [List.append_assoc]
      exact skipWhitespace_byte blank (by decide) rest
    rw [List.cons_append, value_array, JsonValidator.array, skipped]
    exact if_pos rfl
  | @array containers levels before elements after front inside back
      induction =>
      obtain ⟨room, rfl, fewer⟩ := level enough
      intro rest _
      have accepted := induction fewer
      have skipped := skipWhitespace_derived front inside
        (after ++ byte ']' :: rest)
      obtain ⟨first, later, same, member⟩ := derives_head inside
      have others : ∀ first ∈ valueCharacters, first ≠ byte ']' :=
        forall_mem_of_all (by decide)
      have read := accepted
        ((later ++ (after ++ byte ']' :: rest)).length + 1) after rest
        (by simp only [same, List.length_append, List.length_cons]; omega)
        back
      rw [same, List.cons_append] at skipped read
      rw [List.cons_append, value_array, JsonValidator.array]
      simp only [same, List.append_assoc, List.cons_append, List.nil_append,
        skipped, if_neg (others first member)]
      exact read
  | @emptyObject containers levels spaces blank =>
    obtain ⟨room, rfl, _⟩ := level enough
    intro rest _
    have skipped : skipWhitespace (spaces ++ [byte '\x7d'] ++ rest) =
        byte '\x7d' :: rest := by
      rw [List.append_assoc]
      exact skipWhitespace_byte blank (by decide) rest
    rw [List.cons_append, value_object, JsonValidator.object, skipped]
    exact if_pos rfl
  | @object containers levels before members after front inside back
      induction =>
      obtain ⟨room, rfl, fewer⟩ := level enough
      intro rest _
      have accepted := induction fewer
      have skipped := skipWhitespace_derived front inside
        (after ++ byte '\x7d' :: rest)
      obtain ⟨first, later, same, member⟩ := derives_head inside
      have others : ∀ first ∈ ascii "\"", first ≠ byte '\x7d' :=
        forall_mem_of_all (by decide)
      have read := accepted
        ((later ++ (after ++ byte '\x7d' :: rest)).length + 1) after rest
        (by simp only [same, List.length_append, List.length_cons]; omega)
        back
      rw [same, List.cons_append] at skipped read
      rw [List.cons_append, value_object, JsonValidator.object]
      simp only [same, List.append_assoc, List.cons_append, List.nil_append,
        skipped, if_neg (others first member)]
      exact read
  | element only induction =>
    intro fuel after rest long back
    obtain ⟨fuel, rfl, _⟩ := level (Nat.succ_le_of_lt long)
    rw [elements_step (induction enough) back (.inl rfl), if_pos rfl]
  | @elements containers levels value before after others first front back
      later inductionFirst inductionLater =>
      intro fuel last rest long closing
      obtain ⟨fuel, rfl, shorter⟩ := level (Nat.succ_le_of_lt long)
      have shape : value ++ (before ++ byte ',' :: (after ++ others)) ++
          (last ++ byte ']' :: rest) =
        value ++ (before ++ byte ',' ::
          (after ++ (others ++ (last ++ byte ']' :: rest)))) := by simp
      rw [shape, elements_step (inductionFirst enough) front (.inr rfl),
        if_neg (by decide), if_neg (by decide),
        skipWhitespace_derived back later]
      apply inductionLater enough
      · simp only [List.length_append, List.length_cons] at shorter
        omega
      · exact closing
  | @member containers levels name before after value token front back only
      induction =>
      intro fuel last rest long closing
      obtain ⟨fuel, rfl, _⟩ := level (Nat.succ_le_of_lt long)
      have shape : name ++ (before ++ byte ':' :: (after ++ value)) ++
          (last ++ byte '\x7d' :: rest) =
        name ++ (before ++ byte ':' :: (after ++
          (value ++ (last ++ byte '\x7d' :: rest)))) := by simp
      rw [shape, members_step token front back only (induction enough) closing
        (.inl rfl), if_pos rfl]
  | @members containers levels name before after value front back others
      token beforeColon behindColon first beforeComma behindComma later
      inductionFirst inductionLater =>
      intro fuel last rest long closing
      obtain ⟨fuel, rfl, shorter⟩ := level (Nat.succ_le_of_lt long)
      have shape : name ++ (before ++ byte ':' :: (after ++
            (value ++ (front ++ byte ',' :: (back ++ others))))) ++
          (last ++ byte '\x7d' :: rest) =
        name ++ (before ++ byte ':' :: (after ++ (value ++ (front ++ byte ',' ::
            (back ++ (others ++ (last ++ byte '\x7d' :: rest))))))) := by
        simp
      rw [shape, members_step token beforeColon behindColon first
        (inductionFirst enough) beforeComma (.inr rfl),
        if_neg (by decide), if_neg (by decide),
        skipWhitespace_derived behindComma later]
      apply inductionLater enough
      · simp only [List.length_append, List.length_cons] at shorter
        omega
      · exact closing

/-! ## Exactness -/

/--
The validator accepts the texts of the grammar whose values stand on at most
seventeen levels; their containers nest at most seventeen deep.
-/
theorem jsonValid_iff (json : Bytes) (utf8 : validUtf8 json = true) :
    jsonValid json = true ↔ JsonText 17 17 json := by
  constructor
  · intro valid
    obtain ⟨before, split, front, utf8⟩ := skipWhitespace_reads utf8
    rw [jsonValid] at valid
    split at valid
    · rename_i rest read
      obtain ⟨text, same, derived, utf8⟩ := value_reads 17 utf8 read
      obtain ⟨after, behind, back, _⟩ := skipWhitespace_reads utf8
      rw [beq_iff_eq.mp valid, List.append_nil] at behind
      rw [split, same, behind]
      exact .value front derived back
    · cases valid
  · intro text
    cases text with
    | @value before text after front derived back =>
      have read := derives_accepted derived (Nat.le_refl 17) after
        (behind_blank back)
      rw [jsonValid, skipWhitespace_derived front derived, read]
      simp only [skipWhitespace_all back]
      rfl

/-- A number inside of this many arrays. -/
def nestedArrays (count : Nat) : Bytes :=
  List.replicate count (byte '[') ++
    (byte '1' :: List.replicate count (byte ']'))

theorem sixteen_arrays_accepted : JsonText 17 17 (nestedArrays 16) :=
  (jsonValid_iff (nestedArrays 16) (by decide)).mp (by decide)

/-- The text is JSON, and its containers nest at most this deep. -/
def NestedJson (containers : Nat) (json : Bytes) : Prop :=
  ∃ levels, JsonText containers levels json

theorem nestedArrays_derived (count : Nat) :
    Derives .value count (count + 1) (nestedArrays count) := by
  induction count with
  | zero =>
    have one : Integer [byte '1'] := .positive (by decide) nofun
    exact .number (.positive one .absent .absent)
  | succ count induction =>
    have shape : nestedArrays (count + 1) =
        byte '[' :: ([] ++ (nestedArrays count ++ ([] ++ [byte ']']))) := by
      rw [nestedArrays, List.replicate_succ, List.replicate_succ']
      simp [nestedArrays]
    rw [shape]
    exact .array nofun (.element induction) nofun

/-- A number inside of seventeen arrays is JSON, and it is refused. -/
theorem nestedArrays_refused :
    ¬∀ json, validUtf8 json = true →
      (jsonValid json = true ↔ NestedJson 17 json) := by
  intro accepts
  have utf8 : validUtf8 (nestedArrays 17) = true := by decide
  have refused : jsonValid (nestedArrays 17) = false := by decide
  have nested : NestedJson 17 (nestedArrays 17) := by
    have text := @JsonText.value 17 18 [] _ [] nofun
      (nestedArrays_derived 17) nofun
    exact ⟨18, text⟩
  rw [(accepts _ utf8).mpr nested] at refused
  cases refused

end Kitsu.Companion.JsonAcceptance
