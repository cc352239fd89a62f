import Kitsu.Ble.Action
import Kitsu.Ble.ControlFrame
import Kitsu.Companion.JsonGrammar
import Mathlib.Data.List.TakeWhile

/-!
# What the object parsers accept

Control frames, envelopes and action bodies are read by three loops of the same
shape: a name, a colon, a value, and a comma or the closing brace.  `Loop` says
what such a loop has read; its values are constrained by a parameter.  With the
values of the JSON validator it is the grammar of an object, and the validator
accepts every object of the grammar.  All three loops also end where the input
does, behind a comma or the opening brace; and the parser of actions takes a
nested object by its braces alone.
-/

namespace Kitsu.Ble.ObjectParsers

open Kitsu.Lib.ByteString
open Kitsu.Companion.Base64Url
open Kitsu.Companion.Json

/-! ## Tokens in the input -/

/-- A string with its quotes. -/
def quoted (source : Bytes) : Bytes :=
  byte '"' :: (source ++ [byte '"'])

variable {span : Span}

/-- The source pushed in front of a span is in front of the input, too. -/
theorem pushSource_source {source rest behind : Bytes} {flag : Bool}
    (later : ∀ inner : Span, scanString rest = some (inner, behind) →
      rest = inner.bytes ++ byte '"' :: behind)
    (scanned : (scanString rest).map (pushSource source flag) =
      some (span, behind)) :
    source ++ rest = span.bytes ++ byte '"' :: behind := by
  obtain ⟨⟨inner, end_⟩, found, pushed⟩ := Option.map_eq_some_iff.mp scanned
  cases pushed
  rw [later inner found]
  simp

theorem scanString_source {input behind : Bytes}
    (scanned : scanString input = some (span, behind)) :
    input = span.bytes ++ byte '"' :: behind := by
  fun_induction scanString input generalizing span with
  | case2 rest =>
    cases scanned
    rfl
  | case4 =>
    rename_i later
    exact pushSource_source (fun _ => later) scanned
  | case6 =>
    rename_i later
    exact pushSource_source (fun _ => later) scanned
  | case12 =>
    rename_i later
    exact pushSource_source (fun _ => later) scanned
  | case15 =>
    rename_i later
    exact pushSource_source (fun _ => later) scanned
  | _ => cases scanned

theorem parseString_source {input behind : Bytes}
    (scanned : parseString input = some (span, behind)) :
    input = quoted span.bytes ++ behind := by
  cases input with
  | nil => cases scanned
  | cons character rest =>
    rw [parseString] at scanned
    split at scanned
    · rename_i quote
      rw [quote, scanString_source scanned]
      simp [quoted]
    · cases scanned

theorem scanSimpleString_source {input text behind : Bytes}
    (scanned : Companion.Envelope.scanSimpleString input = some (text, behind)) :
    scanString input = some (⟨text, false⟩, behind) := by
  induction input generalizing text with
  | nil => cases scanned
  | cons character rest induction =>
    rw [Companion.Envelope.scanSimpleString] at scanned
    rw [scanString.eq_def]
    simp only
    split at scanned
    · rename_i quote
      cases scanned
      rw [if_pos quote]
    rename_i quote
    split at scanned
    · cases scanned
    rename_i plain
    obtain ⟨⟨inner, end_⟩, found, pushed⟩ :=
      Option.map_eq_some_iff.mp scanned
    cases pushed
    rw [if_neg quote, if_neg (fun low => plain (.inl low)),
      if_pos (fun slash => plain (.inr slash)), induction found]
    rfl

/-- A string without escapes is a string. -/
theorem parseSimpleString_parseString {input text behind : Bytes}
    (scanned : Companion.Envelope.parseSimpleString input = some (text, behind)) :
    parseString input = some (⟨text, false⟩, behind) := by
  cases input with
  | nil => cases scanned
  | cons character rest =>
    rw [Companion.Envelope.parseSimpleString] at scanned
    rw [parseString]
    split at scanned
    · rename_i quote
      rw [if_pos quote]
      exact scanSimpleString_source scanned
    · cases scanned

variable {fuel : Nat}

theorem scanBraces_source {depth : Nat} {input text behind : Bytes}
    (scanned : Action.scanBraces fuel depth input = some (text, behind)) :
    input = text ++ behind := by
  -- a byte that is kept in front of what is scanned behind it
  have kept : ∀ {inner : Nat} {later : Nat} {character : UInt8}
      {rest text : Bytes},
      (∀ {text : Bytes}, Action.scanBraces inner later rest =
        some (text, behind) → rest = text ++ behind) →
      (Action.scanBraces inner later rest).map
        (fun found => (character :: found.1, found.2)) =
          some (text, behind) →
      character :: rest = text ++ behind := by
    intro inner later character rest text source mapped
    obtain ⟨⟨front, end_⟩, found, pushed⟩ :=
      Option.map_eq_some_iff.mp mapped
    cases pushed
    rw [source found]
    rfl
  fun_induction Action.scanBraces fuel depth input generalizing text with
  | case1 =>
    cases scanned
    rfl
  | case5 =>
    rename_i found later
    obtain ⟨⟨front, end_⟩, scannedLater, pushed⟩ :=
      Option.map_eq_some_iff.mp scanned
    cases pushed
    rw [parseString_source found, later scannedLater]
    simp [quoted]
  | case7 =>
    rename_i later
    exact kept later scanned
  | case8 =>
    rename_i later
    exact kept later scanned
  | case10 =>
    rename_i later
    exact kept later scanned
  | _ => cases scanned

theorem scanObject_source {input behind : Bytes}
    (scanned : Action.scanObject input = some (span, behind)) :
    input = span.bytes ++ behind ∧
      span.bytes.head? = some (byte '\x7b') ∧ span.escaped = false := by
  cases input with
  | nil => cases scanned
  | cons character rest =>
    rw [Action.scanObject] at scanned
    split at scanned
    · cases scanned
    rename_i brace
    obtain ⟨⟨front, end_⟩, found, pushed⟩ :=
      Option.map_eq_some_iff.mp scanned
    cases pushed
    rw [scanBraces_source found]
    exact ⟨rfl, congrArg some (not_not.mp brace), rfl⟩

/-! ## Loops -/

/--
A member stands at the front of the input: its name, a colon and its value,
which is followed by `afterValue`.  `Value` says which text is a value in front
of which rest.
-/
structure Member (Value : Bytes → Bytes → Prop)
    (input name value afterValue : Bytes) : Prop where
  named : ∃ afterName behindColon, input = name ++ afterName ∧
    JsonValidator.string input = some afterName ∧
    skipWhitespace afterName = byte ':' :: behindColon ∧
    skipWhitespace behindColon = value ++ afterValue
  accepted : Value value afterValue

/--
What a loop over members has read.  It ends behind a closing brace with the
rest of the input, or where the input ends.
-/
inductive Loop (Value : Bytes → Bytes → Prop) :
    Bytes → List (Bytes × Bytes) → Option Bytes → Prop where
  | ended : Loop Value [] [] none
  | closed {input name value afterValue rest : Bytes}
      (member : Member Value input name value afterValue)
      (brace : skipWhitespace afterValue = byte '\x7d' :: rest) :
      Loop Value input [(name, value)] (some rest)
  | comma {input name value afterValue behindComma : Bytes}
      {members : List (Bytes × Bytes)} {ending : Option Bytes}
      (member : Member Value input name value afterValue)
      (separator : skipWhitespace afterValue = byte ',' :: behindComma)
      (later : Loop Value (skipWhitespace behindComma) members ending) :
      Loop Value input ((name, value) :: members) ending

/-- A value of the JSON validator, inside of one object. -/
def JsonValue (token behind : Bytes) : Prop :=
  JsonValidator.value 16 (token ++ behind) = some behind

/-- The input is one JSON object with these members and nothing else. -/
def ObjectOf (json : Bytes) (members : List (Bytes × Bytes)) : Prop :=
  ∃ body rest, skipWhitespace json = byte '\x7b' :: body ∧
    skipWhitespace rest = [] ∧
    (members = [] ∧ skipWhitespace body = byte '\x7d' :: rest ∨
      Loop JsonValue (skipWhitespace body) members (some rest))

theorem string_head {input rest : Bytes}
    (scanned : JsonValidator.string input = some rest) :
    ∃ behind, input = byte '"' :: behind ∧ rest.length ≤ behind.length := by
  obtain ⟨⟨span, end_⟩, found, same⟩ := Option.map_eq_some_iff.mp scanned
  cases same
  refine ⟨span.bytes ++ byte '"' :: end_, ?_, ?_⟩
  · rw [parseString_source found]
    simp [quoted]
  · simp
    omega

theorem skipWhitespace_suffix (input : Bytes) : skipWhitespace input <:+ input :=
  List.dropWhile_suffix _

section Members

variable {Value : Bytes → Bytes → Prop}
  {input name value afterValue : Bytes}

theorem Member.length_lt (member : Member Value input name value afterValue) :
    afterValue.length < input.length := by
  obtain ⟨afterName, behindColon, _, named, colon, valued⟩ := member.named
  obtain ⟨behind, rfl, shorter⟩ := string_head named
  have colons := (skipWhitespace_suffix afterName).length_le
  have values := (skipWhitespace_suffix behindColon).length_le
  rw [colon] at colons
  rw [valued] at values
  simp only [List.length_cons, List.length_append] at colons values ⊢
  omega

theorem Member.suffix (member : Member Value input name value afterValue) :
    afterValue <:+ input := by
  obtain ⟨afterName, behindColon, split, _, colon, valued⟩ := member.named
  have first : afterName <:+ input := ⟨name, split.symm⟩
  have second : behindColon <:+ skipWhitespace afterName :=
    ⟨[byte ':'], by rw [colon]; rfl⟩
  have third : afterValue <:+ skipWhitespace behindColon :=
    ⟨value, valued.symm⟩
  exact third.trans ((skipWhitespace_suffix _).trans
    (second.trans ((skipWhitespace_suffix _).trans first)))

theorem Loop.length_le {members : List (Bytes × Bytes)}
    {ending : Option Bytes} (loop : Loop Value input members ending) :
    members.length ≤ input.length := by
  induction loop with
  | ended => exact Nat.le_refl _
  | closed member brace =>
    have shorter := member.length_lt
    simp only [List.length_singleton]
    omega
  | @comma input name value afterValue behindComma members ending member
      separator later induction =>
      have shorter := member.length_lt
      have separators := (skipWhitespace_suffix afterValue).length_le
      have spaces := (skipWhitespace_suffix behindComma).length_le
      rw [separator] at separators
      simp only [List.length_cons] at separators ⊢
      omega

end Members

/-- One round of the validator over a member of the grammar. -/
theorem members_step {input name value afterValue rest : Bytes} {next : UInt8}
    (member : Member JsonValue input name value afterValue)
    (behind : skipWhitespace afterValue = next :: rest) :
    JsonValidator.members (JsonValidator.value 16) (fuel + 1) input =
      if next = byte '\x7d' then some rest
      else if next ≠ byte ',' then none
      else
        JsonValidator.members (JsonValidator.value 16) fuel
          (skipWhitespace rest) := by
  obtain ⟨afterName, behindColon, _, named, colon, valued⟩ := member.named
  have accepted := member.accepted
  rw [JsonValue, ← valued] at accepted
  rw [JsonValidator.members, named]
  simp only [colon, ne_eq, not_true_eq_false, if_false, accepted, behind]

variable {ending : Option Bytes}

/-- The validator reads what the grammar describes. -/
theorem members_of_loop {input : Bytes} {members : List (Bytes × Bytes)}
    (loop : Loop JsonValue input members ending)
    (enough : members.length ≤ fuel) {rest : Bytes} (closed : ending = some rest) :
    JsonValidator.members (JsonValidator.value 16) fuel input =
      some rest := by
  induction loop generalizing fuel with
  | ended => cases closed
  | closed member brace =>
    cases closed
    obtain ⟨fuel, rfl⟩ := Nat.exists_eq_succ_of_ne_zero
      (Nat.pos_iff_ne_zero.mp enough)
    rw [members_step member brace, if_pos rfl]
  | comma member separator later induction =>
    obtain ⟨fuel, rfl⟩ := Nat.exists_eq_succ_of_ne_zero
      (Nat.pos_iff_ne_zero.mp (Nat.lt_of_lt_of_le (by simp) enough))
    rw [members_step member separator, if_neg (by decide),
      if_neg (by decide)]
    exact induction (by simpa using enough) closed

/-- The validator accepts the objects of the grammar. -/
theorem ObjectOf.valid {json : Bytes} {members : List (Bytes × Bytes)}
    (object : ObjectOf json members) : jsonValid json = true := by
  obtain ⟨body, rest, opened, spaces, shape⟩ := object
  have read : JsonValidator.object (JsonValidator.value 16) body =
      some rest := by
    rcases shape with ⟨_, closed⟩ | loop
    · rw [JsonValidator.object, closed]
      simp
    · have shorter := loop.length_le
      cases body_eq : skipWhitespace body with
      | nil =>
        rw [body_eq] at loop
        cases loop with
        | closed member brace =>
          have length_lt := member.length_lt
          simp at length_lt
        | comma member separator later =>
          have length_lt := member.length_lt
          simp at length_lt
      | cons next others =>
        rw [body_eq] at loop shorter
        have quote : next = byte '"' := by
          cases loop with
          | closed member brace =>
            obtain ⟨_, _, _, named, _⟩ := member.named
            obtain ⟨_, same, _⟩ := string_head named
            exact List.head_eq_of_cons_eq same
          | comma member separator later =>
            obtain ⟨_, _, _, named, _⟩ := member.named
            obtain ⟨_, same, _⟩ := string_head named
            exact List.head_eq_of_cons_eq same
        rw [JsonValidator.object, body_eq]
        simp only
        rw [quote, if_neg (by decide), ← quote]
        exact members_of_loop loop shorter rfl
  rw [jsonValid, opened]
  simp only [JsonValidator.value, if_true, read, spaces]
  rfl

/-! ## The last byte -/

/-- The last byte of an input that is not white space. -/
def lastVisible (json : Bytes) : Option UInt8 :=
  (json.reverse.dropWhile isSpace).head?

theorem lastVisible_suffix {json spaces : Bytes} {last : UInt8}
    (ends : last :: spaces <:+ json) (visible : isSpace last = false)
    (blank : skipWhitespace spaces = []) : lastVisible json = some last := by
  obtain ⟨front, rfl⟩ := ends
  have allSpace : ∀ character ∈ spaces.reverse,
      isSpace character = true := by
    intro character member
    exact List.dropWhile_eq_nil_iff.mp blank character
      (List.mem_reverse.mp member)
  rw [lastVisible, List.reverse_append, List.reverse_cons,
    List.append_assoc, List.dropWhile_append_of_pos allSpace]
  simp [visible]

section Endings

variable {Value : Bytes → Bytes → Prop} {input : Bytes}
  {members : List (Bytes × Bytes)}

/-- A loop that was closed leaves the rest behind a brace. -/
theorem Loop.brace_suffix (loop : Loop Value input members ending)
    {rest : Bytes} (closed : ending = some rest) :
    byte '\x7d' :: rest <:+ input := by
  induction loop with
  | ended => cases closed
  | closed member brace =>
    cases closed
    rw [← brace]
    exact (skipWhitespace_suffix _).trans member.suffix
  | @comma input name value afterValue behindComma members ending member
      separator later induction =>
      have separators : behindComma <:+ skipWhitespace afterValue :=
        ⟨[byte ','], by rw [separator]; rfl⟩
      exact (induction closed).trans ((skipWhitespace_suffix _).trans
        (separators.trans ((skipWhitespace_suffix _).trans member.suffix)))

/-- A loop that ended with the input read nothing or stands behind a comma. -/
theorem Loop.comma_suffix (loop : Loop Value input members ending)
    (open_ : ending = none) :
    input = [] ∨ ∃ spaces, byte ',' :: spaces <:+ input ∧
      skipWhitespace spaces = [] := by
  induction loop with
  | ended => exact .inl rfl
  | closed member brace => cases open_
  | @comma input name value afterValue behindComma members ending member
      separator later induction =>
      have front : byte ',' :: behindComma <:+ input := by
        rw [← separator]
        exact (skipWhitespace_suffix _).trans member.suffix
      rcases induction open_ with blank | ⟨spaces, ends, blank⟩
      · exact .inr ⟨behindComma, front, blank⟩
      · have separators : behindComma <:+ byte ',' :: behindComma :=
          List.suffix_cons _ _
        exact .inr ⟨spaces, ends.trans ((skipWhitespace_suffix _).trans
          (separators.trans front)), blank⟩

end Endings

/-! ## Values -/

/-- A string or an integer, as the loops read them. -/
inductive Scalar : Bytes → Bytes → Prop where
  | string {token behind : Bytes}
      (scanned : JsonValidator.string (token ++ behind) = some behind) :
      Scalar token behind
  | integer {sign digits behind : Bytes}
      (signed : sign = [] ∨ sign = [byte '-'])
      (scanned : parseUnsignedToken (digits ++ behind) = some (digits, behind)) :
      Scalar (sign ++ digits) behind

variable {digits : Bytes}

/-- Digits are a token without a sign. -/
theorem unsigned_scalar {input behind : Bytes}
    (scanned : parseUnsignedToken input = some (digits, behind)) :
    input = digits ++ behind ∧ Scalar digits behind := by
  have source : input = digits ++ behind := by
    unfold parseUnsignedToken at scanned
    simp only at scanned
    split at scanned
    · cases scanned
    · cases scanned
      exact List.takeWhile_append_dropWhile.symm
  rw [source] at scanned
  exact ⟨source, @Scalar.integer [] digits behind (.inl rfl) scanned⟩

/-- What follows a value in front of a comma or a brace. -/
def Delimited (behind : Bytes) : Prop :=
  ∃ next rest, skipWhitespace behind = next :: rest ∧
    (next = byte '\x7d' ∨ next = byte ',')

theorem Delimited.head {first : UInt8} {rest : Bytes}
    (delimited : Delimited (first :: rest)) :
    first ≠ byte '.' ∧ first ≠ byte 'e' ∧ first ≠ byte 'E' := by
  obtain ⟨next, later, skipped, separator⟩ := delimited
  by_cases space : isSpace first = true
  · have table : ∀ code < 256, isSpace (UInt8.ofNat code) = true →
        UInt8.ofNat code ≠ byte '.' ∧ UInt8.ofNat code ≠ byte 'e' ∧
          UInt8.ofNat code ≠ byte 'E' := by
      decide +kernel
    simpa using table first.toNat first.toNat_lt (by simpa using space)
  · have visible : skipWhitespace (first :: rest) = first :: rest := by
      simp [skipWhitespace, space]
    rw [visible] at skipped
    cases skipped
    rcases separator with rfl | rfl <;> decide

/-- The digits of a token, cut off where they end. -/
theorem parseUnsignedToken_cut {behind : Bytes}
    (scanned : parseUnsignedToken (digits ++ behind) = some (digits, behind)) :
    ∃ first others, digits = first :: others ∧ isDigit first = true ∧
      (others ++ behind).takeWhile isDigit = others ∧
      (others ++ behind).dropWhile isDigit = behind ∧
      (first = byte '0' → others = []) := by
  unfold parseUnsignedToken at scanned
  simp only at scanned
  split at scanned
  · cases scanned
  rename_i regular
  simp only [Option.some.injEq, Prod.mk.injEq] at scanned
  obtain ⟨taken, dropped⟩ := scanned
  rw [taken] at regular
  cases digits with
  | nil => exact absurd (.inl rfl) regular
  | cons first others =>
    rw [List.cons_append] at taken dropped
    by_cases digit : isDigit first = true
    · rw [List.takeWhile_cons_of_pos digit] at taken
      rw [List.dropWhile_cons_of_pos digit] at dropped
      refine ⟨first, others, rfl, digit, List.tail_eq_of_cons_eq taken,
        dropped, ?_⟩
      rintro rfl
      by_contra longer
      exact regular (.inr ⟨by
        have positive := List.length_pos_iff.mpr longer
        simp
        omega, rfl⟩)
    · rw [List.takeWhile_cons_of_neg digit] at taken
      cases taken

theorem integer_number {sign behind : Bytes}
    (signed : sign = [] ∨ sign = [byte '-'])
    (scanned : parseUnsignedToken (digits ++ behind) =
      some (digits, behind)) (delimited : Delimited behind) :
    JsonValidator.number (sign ++ digits ++ behind) = some behind := by
  obtain ⟨first, others, rfl, digit, taken, dropped, leading⟩ :=
    parseUnsignedToken_cut scanned
  have integral : JsonValidator.integer (first :: others ++ behind) =
      some behind := by
    rw [List.cons_append, JsonValidator.integer.eq_def]
    simp only
    split
    · rename_i zero
      rw [leading zero, List.nil_append] at taken ⊢
      cases behind with
      | nil => rfl
      | cons next later =>
        have ends : isDigit next = false := by
          by_contra digits
          rw [List.takeWhile_cons_of_pos (by simpa using digits)] at taken
          cases taken
        simp only [ends, Bool.false_eq_true, if_false]
    · rw [JsonValidator.digits, List.takeWhile_cons_of_pos digit,
        if_neg (by simp), List.dropWhile_cons_of_pos digit, dropped]
  have plain : JsonValidator.fraction behind = some behind ∧
      JsonValidator.exponent behind = some behind := by
    cases behind with
    | nil => exact ⟨rfl, rfl⟩
    | cons next later =>
      obtain ⟨dot, small, capital⟩ := delimited.head
      rw [JsonValidator.fraction, JsonValidator.exponent.eq_def, if_neg dot]
      simp only
      rw [if_neg (by simp [small, capital])]
      exact ⟨trivial, rfl⟩
  have minus : byte '-' ≠ first := by
    rintro rfl
    exact absurd digit (by decide)
  rcases signed with rfl | rfl
  · rw [JsonValidator.number.eq_def]
    simp only [List.nil_append, List.cons_append, if_neg minus.symm]
    rw [← List.cons_append, integral]
    simp only [Option.bind_some, plain]
  · rw [JsonValidator.number.eq_def]
    simp only [List.cons_append, List.nil_append, if_true]
    rw [← List.cons_append, integral]
    simp only [Option.bind_some, plain]

theorem integer_head {sign behind : Bytes} (signed : sign = [] ∨ sign = [byte '-'])
    (scanned : parseUnsignedToken (digits ++ behind) = some (digits, behind)) :
    ∃ first others, sign ++ digits ++ behind = first :: others ∧
      (isDigit first = true ∨ first = byte '-') := by
  obtain ⟨first, others, rfl, digit, _⟩ := parseUnsignedToken_cut scanned
  rcases signed with rfl | rfl
  · exact ⟨first, others ++ behind, rfl, .inl digit⟩
  · exact ⟨byte '-', first :: others ++ behind, rfl, .inr rfl⟩

theorem scalar_json {token behind : Bytes} (scalar : Scalar token behind)
    (delimited : Delimited behind) : JsonValue token behind := by
  cases scalar with
  | string scanned =>
    obtain ⟨source, same, _⟩ := string_head scanned
    rw [JsonValue, same, JsonValidator.value]
    rw [same] at scanned
    exact scanned
  | @integer sign digits behind signed scanned =>
    have number := integer_number signed scanned delimited
    obtain ⟨first, others, same, start⟩ := integer_head signed scanned
    rw [JsonValue, same]
    rw [same] at number
    have other : first ≠ byte '\x7b' ∧ first ≠ byte '[' ∧
        first ≠ byte '"' ∧ first ≠ byte 't' ∧ first ≠ byte 'f' ∧
        first ≠ byte 'n' := by
      rcases start with digit | rfl
      · refine ⟨?_, ?_, ?_, ?_, ?_, ?_⟩ <;>
          (rintro rfl; exact absurd digit (by decide))
      · decide
    obtain ⟨brace, bracket, quote, t, f, n⟩ := other
    rw [JsonValidator.value, if_neg brace, if_neg bracket, if_neg quote,
      if_neg t, if_neg f, if_neg n]
    exact number

/-- A value of the action parser: it takes an object by its braces. -/
inductive Scanned : Bytes → Bytes → Prop where
  | scalar {token behind : Bytes} (scalar : Scalar token behind) :
      Scanned token behind
  | object {token behind : Bytes}
      (scanned : Action.scanObject (token ++ behind) =
        some (⟨token, false⟩, behind)) :
      Scanned token behind

section Delimiters

variable {Value Other : Bytes → Bytes → Prop} {input name value
  afterValue : Bytes}

theorem Member.map (member : Member Value input name value afterValue)
    (other : Other value afterValue) : Member Other input name value afterValue :=
  ⟨member.named, other⟩

/-- Replace the constraint on the values of a loop, which are delimited. -/
theorem Loop.map {members : List (Bytes × Bytes)} {ending : Option Bytes}
    (loop : Loop Value input members ending)
    (weaker : ∀ token behind, Value token behind → Delimited behind →
      Other token behind) : Loop Other input members ending := by
  induction loop with
  | ended => exact .ended
  | closed member brace =>
    exact .closed (member.map (weaker _ _ member.accepted
      ⟨_, _, brace, .inl rfl⟩)) brace
  | comma member separator later induction =>
    exact .comma (member.map (weaker _ _ member.accepted
      ⟨_, _, separator, .inr rfl⟩)) separator induction

end Delimiters

/-! ## Accepted inputs -/

/-- The loop of a parser ended, and nothing is left behind its brace. -/
def Finished (Value : Bytes → Bytes → Prop) (json : Bytes)
    (members : List (Bytes × Bytes)) : Prop :=
  ∃ body, skipWhitespace json = byte '\x7b' :: body ∧
    ∃ ending, Loop Value (skipWhitespace body) members ending ∧
      ∀ rest, ending = some rest → skipWhitespace rest = []

theorem ObjectOf.last {json : Bytes} {members : List (Bytes × Bytes)}
    (object : ObjectOf json members) :
    lastVisible json = some (byte '\x7d') := by
  obtain ⟨body, rest, opened, blank, shape⟩ := object
  have inner : byte '\x7d' :: rest <:+ skipWhitespace body := by
    rcases shape with ⟨_, closed⟩ | loop
    · exact closed ▸ List.suffix_refl _
    · exact loop.brace_suffix rfl
  have outer : body <:+ json := by
    have brace : body <:+ skipWhitespace json :=
      ⟨[byte '\x7b'], by rw [opened]; rfl⟩
    exact brace.trans (skipWhitespace_suffix _)
  exact lastVisible_suffix
    (inner.trans ((skipWhitespace_suffix _).trans outer)) (by decide) blank

/-- An input that ends in a brace was closed by it. -/
theorem Finished.closed {Value : Bytes → Bytes → Prop} {json : Bytes}
    {members : List (Bytes × Bytes)} (finished : Finished Value json members)
    (last : lastVisible json = some (byte '\x7d')) :
    ∃ body rest, skipWhitespace json = byte '\x7b' :: body ∧
      skipWhitespace rest = [] ∧
      Loop Value (skipWhitespace body) members (some rest) := by
  obtain ⟨body, opened, ending, loop, blank⟩ := finished
  cases ending with
  | some rest => exact ⟨body, rest, opened, blank rest rfl, loop⟩
  | none =>
    exfalso
    have brace : byte '\x7b' :: body <:+ json := by
      rw [← opened]
      exact skipWhitespace_suffix _
    rcases loop.comma_suffix rfl with empty | ⟨spaces, ends, empty⟩
    · have other := lastVisible_suffix brace (by decide) empty
      rw [last] at other
      exact absurd (Option.some.inj other) (by decide)
    · have inner : body <:+ byte '\x7b' :: body := List.suffix_cons _ _
      have other := lastVisible_suffix
        (ends.trans ((skipWhitespace_suffix _).trans (inner.trans brace)))
        (by decide) empty
      rw [last] at other
      exact absurd (Option.some.inj other) (by decide)

/-- For scalar values the last byte decides. -/
theorem Finished.object_iff {json : Bytes} {members : List (Bytes × Bytes)}
    (finished : Finished Scalar json members) :
    ObjectOf json members ↔ lastVisible json = some (byte '\x7d') := by
  constructor
  · exact ObjectOf.last
  · intro last
    obtain ⟨body, rest, opened, blank, loop⟩ := finished.closed last
    exact ⟨body, rest, opened, blank,
      .inr (loop.map fun _ _ => scalar_json)⟩

/-! ## Nested objects -/

/--
In the input, outside of strings and of other nested objects, there is an object
with this text by its braces, and `behind` follows it.
-/
inductive Nested : Bytes → Bytes → Bytes → Prop where
  | here {input behind : Bytes} {span : Span}
      (scanned : Action.scanObject input = some (span, behind)) :
      Nested input span.bytes behind
  | string {input later text behind : Bytes} {span : Span}
      (scanned : parseString input = some (span, later))
      (nested : Nested later text behind) : Nested input text behind
  | object {input later text behind : Bytes} {span : Span}
      (scanned : Action.scanObject input = some (span, later))
      (nested : Nested later text behind) : Nested input text behind
  | other {rest text behind : Bytes} {first : UInt8}
      (plain : first ≠ byte '"' ∧ first ≠ byte '\x7b')
      (nested : Nested rest text behind) :
      Nested (first :: rest) text behind

section Nested

variable {input later text behind token : Bytes}

theorem parseString_head (scanned : parseString input = some (span, later)) :
    input.head? = some (byte '"') := by
  rw [parseString_source scanned]
  rfl

theorem scanObject_head (scanned : Action.scanObject input = some (span, later)) :
    input.head? = some (byte '\x7b') := by
  obtain ⟨source, head, _⟩ := scanObject_source scanned
  cases bytes : span.bytes with
  | nil =>
    rw [bytes] at head
    cases head
  | cons first rest =>
    rw [bytes] at head source
    rw [source]
    exact head

theorem Nested.behind_string (scanned : parseString input = some (span, later))
    (nested : Nested input text behind) : Nested later text behind := by
  have quote := parseString_head scanned
  cases nested with
  | here object =>
    rw [scanObject_head object] at quote
    exact absurd (Option.some.inj quote) (by decide)
  | string other nested =>
    rw [scanned] at other
    cases other
    exact nested
  | object object nested =>
    rw [scanObject_head object] at quote
    exact absurd (Option.some.inj quote) (by decide)
  | other plain nested => exact absurd (Option.some.inj quote) plain.1

theorem Nested.behind_object
    (scanned : Action.scanObject input = some (⟨token, false⟩, later))
    (nested : Nested input text behind) :
    text = token ∧ behind = later ∨ Nested later text behind := by
  have brace := scanObject_head scanned
  cases nested with
  | here object =>
    rw [scanned] at object
    cases object
    exact .inl ⟨rfl, rfl⟩
  | string string nested =>
    rw [parseString_head string] at brace
    exact absurd (Option.some.inj brace) (by decide)
  | object object nested =>
    rw [scanned] at object
    cases object
    exact .inr nested
  | other plain nested => exact absurd (Option.some.inj brace) plain.2

theorem Nested.behind_byte {first : UInt8}
    (plain : first ≠ byte '"' ∧ first ≠ byte '\x7b')
    (nested : Nested (first :: later) text behind) :
    Nested later text behind := by
  cases nested with
  | here object =>
    exact absurd (Option.some.inj (scanObject_head object)) plain.2
  | string string nested =>
    exact absurd (Option.some.inj (parseString_head string)) plain.1
  | object object nested =>
    exact absurd (Option.some.inj (scanObject_head object)) plain.2
  | other _ nested => exact nested

theorem nested_skip {front : Bytes} (plain : ∀ character ∈ front,
      character ≠ byte '"' ∧ character ≠ byte '\x7b') :
    Nested (front ++ later) text behind ↔ Nested later text behind := by
  induction front with
  | nil => exact Iff.rfl
  | cons first front induction =>
    have rest := induction fun character member =>
      plain character (List.mem_cons_of_mem _ member)
    have here := plain first List.mem_cons_self
    constructor
    · intro nested
      exact rest.mp (nested.behind_byte here)
    · intro nested
      exact .other here (rest.mpr nested)

theorem nested_whitespace :
    Nested (skipWhitespace input) text behind ↔ Nested input text behind := by
  have split : input = input.takeWhile isSpace ++ skipWhitespace input :=
    (List.takeWhile_append_dropWhile).symm
  conv => rhs; rw [split]
  apply (nested_skip _).symm
  intro character member
  have space := List.mem_takeWhile_imp member
  constructor
  · rintro rfl
    exact absurd space (by decide)
  · rintro rfl
    exact absurd space (by decide)

theorem not_nested_nil : ¬Nested [] text behind := by
  intro nested
  cases nested with
  | here object => cases scanObject_head object
  | string string nested => cases parseString_head string
  | object object nested => cases scanObject_head object

theorem integer_plain {sign : Bytes} (signed : sign = [] ∨ sign = [byte '-'])
    (scanned : parseUnsignedToken (digits ++ later) = some (digits, later)) :
    ∀ character ∈ sign ++ digits,
      character ≠ byte '"' ∧ character ≠ byte '\x7b' := by
  intro character member
  have digit : isDigit character = true ∨ character = byte '-' := by
    rcases List.mem_append.mp member with inSign | inDigits
    · rcases signed with rfl | rfl
      · cases inSign
      · exact .inr (List.mem_singleton.mp inSign)
    · obtain ⟨first, others, rfl, firstDigit, taken, _⟩ :=
        parseUnsignedToken_cut scanned
      rcases List.mem_cons.mp inDigits with rfl | inOthers
      · exact .inl firstDigit
      · rw [← taken] at inOthers
        exact .inl (List.mem_takeWhile_imp inOthers)
  constructor
  · rintro rfl
    exact absurd digit (by decide)
  · rintro rfl
    exact absurd digit (by decide)

/-- No object stands in a string or an integer. -/
theorem Scalar.nested_iff (scalar : Scalar token later) :
    Nested (token ++ later) text behind ↔ Nested later text behind := by
  cases scalar with
  | string scanned =>
    obtain ⟨⟨span, end_⟩, found, same⟩ :=
      Option.map_eq_some_iff.mp scanned
    cases same
    exact ⟨Nested.behind_string found, Nested.string found⟩
  | integer signed scanned => exact nested_skip (integer_plain signed scanned)

/-- The values of the action parser in which an object can stand. -/
theorem Scanned.nested (scanned : Scanned token later)
    (nested : Nested (token ++ later) text behind) :
    Action.scanObject (token ++ later) = some (⟨token, false⟩, later) ∧
        text = token ∧ behind = later ∨
      Nested later text behind := by
  cases scanned with
  | scalar scalar => exact .inr (scalar.nested_iff.mp nested)
  | object object =>
    rcases nested.behind_object object with here | behindObject
    · exact .inl ⟨object, here⟩
    · exact .inr behindObject

theorem Scanned.nested_of (scanned : Scanned token later)
    (nested : Nested later text behind) : Nested (token ++ later) text behind := by
  cases scanned with
  | scalar scalar => exact scalar.nested_iff.mpr nested
  | object object => exact .object object nested

/-- A nested object is the value of the member or stands behind it. -/
theorem Member.nested {name value afterValue : Bytes}
    (member : Member Scanned input name value afterValue)
    (nested : Nested input text behind) :
    Action.scanObject (value ++ afterValue) =
          some (⟨value, false⟩, afterValue) ∧
        text = value ∧ behind = afterValue ∨
      Nested afterValue text behind := by
  obtain ⟨afterName, behindColon, _, named, colon, valued⟩ := member.named
  obtain ⟨⟨span, end_⟩, found, same⟩ := Option.map_eq_some_iff.mp named
  cases same
  have behindName := nested.behind_string found
  rw [← nested_whitespace, colon] at behindName
  have atValue := behindName.behind_byte ⟨by decide, by decide⟩
  rw [← nested_whitespace, valued] at atValue
  exact member.accepted.nested atValue

/-- What stands behind a value stands in the whole input. -/
theorem Member.nested_of {name value afterValue : Bytes}
    (member : Member Scanned input name value afterValue)
    (nested : Nested (value ++ afterValue) text behind) :
    Nested input text behind := by
  obtain ⟨afterName, behindColon, _, named, colon, valued⟩ := member.named
  obtain ⟨⟨span, end_⟩, found, same⟩ := Option.map_eq_some_iff.mp named
  cases same
  apply Nested.string found
  rw [← nested_whitespace, colon]
  apply Nested.other ⟨by decide, by decide⟩
  rw [← nested_whitespace, valued]
  exact nested

theorem Member.unique {Value Other : Bytes → Bytes → Prop}
    {name value afterValue otherAfter : Bytes}
    (member : Member Value input name value afterValue)
    (other : Member Other input name value otherAfter) :
    afterValue = otherAfter := by
  obtain ⟨afterName, behindColon, _, named, colon, valued⟩ := member.named
  obtain ⟨otherName, otherColon, _, namedToo, colonToo, valuedToo⟩ :=
    other.named
  rw [named] at namedToo
  cases namedToo
  rw [colon] at colonToo
  cases colonToo
  rw [valued] at valuedToo
  exact List.append_cancel_left valuedToo

/-- A value is JSON when every nested object is. -/
theorem Member.json {name value afterValue : Bytes}
    (member : Member Scanned input name value afterValue)
    (delimited : Delimited afterValue)
    (objects : ∀ text behind, Nested input text behind → JsonValue text behind) :
    Member JsonValue input name value afterValue := by
  apply member.map
  cases member.accepted with
  | scalar scalar => exact scalar_json scalar delimited
  | object object => exact objects _ _ (member.nested_of (.here object))

/-- The members of the action parser are JSON when every nested object is. -/
theorem loop_json {members : List (Bytes × Bytes)}
    (loop : Loop Scanned input members ending)
    (objects : ∀ text behind, Nested input text behind →
      JsonValue text behind) : Loop JsonValue input members ending := by
  induction loop with
  | ended => exact .ended
  | closed member brace =>
    exact .closed (member.json ⟨_, _, brace, .inl rfl⟩ objects) brace
  | comma member separator later induction =>
    refine .comma (member.json ⟨_, _, separator, .inr rfl⟩ objects)
      separator (induction ?_)
    intro text behind nested
    apply objects
    apply member.nested_of
    apply member.accepted.nested_of
    rw [← nested_whitespace, separator]
    exact .other ⟨by decide, by decide⟩ (nested_whitespace.mp nested)

/-- The first member of a loop and what is read behind it. -/
theorem Loop.front {Value : Bytes → Bytes → Prop} {name value : Bytes}
    {members : List (Bytes × Bytes)}
    (loop : Loop Value input ((name, value) :: members) ending) :
    ∃ afterValue, Member Value input name value afterValue ∧
      ((∃ rest, skipWhitespace afterValue = byte '\x7d' :: rest) ∨ ∃ behindComma,
          skipWhitespace afterValue = byte ',' :: behindComma ∧
          Loop Value (skipWhitespace behindComma) members ending) := by
  cases loop with
  | closed member brace => exact ⟨_, member, .inl ⟨_, brace⟩⟩
  | comma member separator later =>
    exact ⟨_, member, .inr ⟨_, separator, later⟩⟩

/-- Conversely the objects of a JSON object are JSON. -/
theorem loop_objects {members : List (Bytes × Bytes)}
    {otherEnding : Option Bytes} (loop : Loop Scanned input members ending)
    (json : Loop JsonValue input members otherEnding)
    (blank : ∀ rest, ending = some rest → skipWhitespace rest = [])
    (nested : Nested input text behind) : JsonValue text behind := by
  induction loop generalizing otherEnding with
  | ended => exact absurd nested not_nested_nil
  | closed member brace =>
    obtain ⟨afterValue, other, _⟩ := json.front
    obtain rfl := member.unique other
    rcases member.nested nested with ⟨_, rfl, rfl⟩ | behindValue
    · exact other.accepted
    · rw [← nested_whitespace, brace] at behindValue
      have behindBrace := behindValue.behind_byte ⟨by decide, by decide⟩
      rw [← nested_whitespace, blank _ rfl] at behindBrace
      exact absurd behindBrace not_nested_nil
  | comma member separator later induction =>
    obtain ⟨afterValue, other, shape⟩ := json.front
    obtain rfl := member.unique other
    rcases member.nested nested with ⟨_, rfl, rfl⟩ | behindValue
    · exact other.accepted
    · rw [← nested_whitespace, separator] at behindValue
      have behindComma := behindValue.behind_byte ⟨by decide, by decide⟩
      rw [← nested_whitespace] at behindComma
      rcases shape with ⟨rest, brace⟩ | ⟨rest, same, others⟩
      · rw [separator] at brace
        exact absurd (List.head_eq_of_cons_eq brace) (by decide)
      · rw [separator] at same
        cases same
        exact induction others blank behindComma

end Nested

/-- Every object nested in the input is JSON where it stands. -/
def ObjectsAreJson (json : Bytes) : Prop :=
  ∀ body text behind, skipWhitespace json = byte '\x7b' :: body →
    Nested body text behind → JsonValue text behind

theorem Finished.nested_iff {json : Bytes} {members : List (Bytes × Bytes)}
    (finished : Finished Scanned json members) :
    ObjectOf json members ↔
      lastVisible json = some (byte '\x7d') ∧ ObjectsAreJson json := by
  constructor
  · intro object
    refine ⟨object.last, ?_⟩
    obtain ⟨body, opened, ending, loop, blank⟩ := finished
    intro other text behind sameOpened nested
    rw [opened] at sameOpened
    cases sameOpened
    rw [← nested_whitespace] at nested
    obtain ⟨_, rest, otherOpened, _, shape⟩ := object
    rw [opened] at otherOpened
    cases otherOpened
    rcases shape with ⟨rfl, closed⟩ | json
    · rw [closed] at loop
      cases loop
    · exact loop_objects loop json blank nested
  · rintro ⟨last, objects⟩
    obtain ⟨body, rest, opened, blank, loop⟩ := finished.closed last
    refine ⟨body, rest, opened, blank, .inr (loop_json loop ?_)⟩
    intro text behind nested
    exact objects body text behind opened (nested_whitespace.mp nested)

/-- An object without members. -/
theorem empty_object_iff {json body rest : Bytes}
    (opened : skipWhitespace json = byte '\x7b' :: body)
    (closed : skipWhitespace body = byte '\x7d' :: rest)
    (blank : skipWhitespace rest = []) :
    ObjectOf json [] ↔
      lastVisible json = some (byte '\x7d') ∧ ObjectsAreJson json := by
  have object : ObjectOf json [] :=
    ⟨body, rest, opened, blank, .inl ⟨rfl, closed⟩⟩
  constructor
  · intro _
    refine ⟨object.last, ?_⟩
    intro other text behind sameOpened nested
    rw [opened] at sameOpened
    cases sameOpened
    rw [← nested_whitespace, closed] at nested
    have behindBrace := nested.behind_byte ⟨by decide, by decide⟩
    rw [← nested_whitespace, blank] at behindBrace
    exact absurd behindBrace not_nested_nil
  · intro _
    exact object

/-- A member from the steps of a loop. -/
theorem member_of_scan {Value : Bytes → Bytes → Prop}
    {input afterName behindColon value afterValue : Bytes} {key : Span}
    (named : parseString input = some (key, afterName))
    (colon : skipWhitespace afterName = byte ':' :: behindColon)
    (valued : skipWhitespace behindColon = value ++ afterValue)
    (accepted : Value value afterValue) :
    Member Value input (quoted key.bytes) value afterValue := by
  refine ⟨⟨afterName, behindColon, parseString_source named, ?_, colon,
    valued⟩, accepted⟩
  rw [JsonValidator.string, named]
  rfl

/-- The rest behind a comma is shorter than the input of the round. -/
theorem Member.comma_length {Value : Bytes → Bytes → Prop}
    {input name value afterValue behindComma : Bytes}
    (member : Member Value input name value afterValue)
    (separator : skipWhitespace afterValue = byte ',' :: behindComma) :
    (skipWhitespace behindComma).length < input.length := by
  have shorter := member.length_lt
  have separators := (skipWhitespace_suffix afterValue).length_le
  have spaces := (skipWhitespace_suffix behindComma).length_le
  rw [separator, List.length_cons] at separators
  omega

/-- Every name occurs once. -/
def DistinctNames (members : List (Bytes × Bytes)) : Prop :=
  (members.map Prod.fst).Nodup

theorem DistinctNames.concat {members : List (Bytes × Bytes)}
    {name value : Bytes} (distinct : DistinctNames members)
    (unread : ∀ member ∈ members, member.1 ≠ name) :
    DistinctNames (members ++ [(name, value)]) := by
  rw [DistinctNames, List.map_append, List.nodup_append]
  refine ⟨distinct, by simp, ?_⟩
  intro other member same sameIn
  rw [List.mem_singleton.mp sameIn]
  obtain ⟨entry, entryIn, rfl⟩ := List.mem_map.mp member
  exact unread entry entryIn

theorem quoted_injective {first second : Bytes}
    (same : quoted first = quoted second) : first = second :=
  List.append_cancel_right (List.tail_eq_of_cons_eq same)

/-- A key that none of the fields has. -/
theorem DistinctNames.concat_unread {Field : Type} (key : Field → Span)
    (token : Field → Bytes) {fields : List Field} {field : Field}
    (distinct : DistinctNames
      (fields.map fun field => (quoted (key field).bytes, token field)))
    (unread : ¬ fields.any (fun other => (key other).bytes == (key field).bytes) = true) :
    DistinctNames ((fields ++ [field]).map
      fun field => (quoted (key field).bytes, token field)) := by
  rw [List.map_append]
  apply distinct.concat
  intro entry entryIn same
  obtain ⟨other, otherIn, rfl⟩ := List.mem_map.mp entryIn
  have equal := quoted_injective same
  simp only [List.any_eq_true, beq_iff_eq] at unread
  exact unread ⟨other, otherIn, equal⟩

/-- The members of a loop that ends an input. -/
theorem finished_of_loop {Value : Bytes → Bytes → Prop} {json body rest : Bytes}
    {members : List (Bytes × Bytes)}
    (opened : skipWhitespace json = byte '\x7b' :: body)
    (loop : Loop Value (skipWhitespace body) members ending)
    (ends : ending = some rest ∨ ending = none ∧ rest = [])
    (blank : skipWhitespace rest = []) : Finished Value json members := by
  refine ⟨body, opened, ending, loop, ?_⟩
  rintro other rfl
  rcases ends with same | ⟨impossible, _⟩
  · cases same
    exact blank
  · cases impossible

/-! ## Control frames -/

section ControlFrames

open ControlFrame

/-- The text of a field's value. -/
def flatToken (field : FlatField) : Bytes :=
  match field.kind with
  | .string => quoted field.value.bytes
  | .unsigned => field.value.bytes

/-- A field of a control frame as a member of JSON. -/
def flatMember (field : FlatField) : Bytes × Bytes :=
  (quoted field.key.bytes, flatToken field)

theorem scanFlatValue_scalar {input behind : Bytes} {value : Span}
    {kind : FlatValueKind} {key : Span}
    (scanned : scanFlatValue input = some (value, kind, behind)) :
    input = flatToken ⟨key, value, kind⟩ ++ behind ∧
      Scalar (flatToken ⟨key, value, kind⟩) behind := by
  unfold scanFlatValue at scanned
  split at scanned
  · obtain ⟨⟨span, end_⟩, found, same⟩ := Option.map_eq_some_iff.mp scanned
    cases same
    have source := parseString_source found
    refine ⟨source, .string ?_⟩
    rw [flatToken, ← source, JsonValidator.string, found]
    rfl
  · obtain ⟨⟨digits, end_⟩, found, same⟩ :=
      Option.map_eq_some_iff.mp scanned
    cases same
    exact unsigned_scalar found

/-- What the loop over the fields of a frame reads. -/
theorem parseFlatFields_loop {fields result : List FlatField}
    {input rest : Bytes} (enough : input.length < fuel)
    (distinct : DistinctNames (fields.map flatMember))
    (parsed : parseFlatFields fuel fields input = some (result, rest)) :
    ∃ read ending, result = fields ++ read ∧
      Loop Scalar input (read.map flatMember) ending ∧
      (ending = some rest ∨ ending = none ∧ rest = []) ∧
      DistinctNames (result.map flatMember) := by
  induction fuel generalizing fields input with
  | zero => cases enough
  | succ fuel induction =>
    cases input with
    | nil =>
      cases parsed
      exact ⟨[], none, by simp, .ended, .inr ⟨rfl, rfl⟩, distinct⟩
    | cons first others =>
      rw [parseFlatFields] at parsed
      · split at parsed
        · cases parsed
        split at parsed
        · cases parsed
        rename_i key afterName named
        split at parsed
        · cases parsed
        split at parsed
        · cases parsed
        rename_i unread
        split at parsed
        · cases parsed
        rename_i colon behindColon skipped
        split at parsed
        · cases parsed
        rename_i isColon
        obtain rfl := not_not.mp isColon
        split at parsed
        · cases parsed
        rename_i value kind afterValue scanned
        obtain ⟨valued, scalar⟩ := @scanFlatValue_scalar _ _ _ _ key scanned
        have member := member_of_scan named skipped valued scalar
        have distinctMore := @DistinctNames.concat_unread FlatField (·.key) flatToken
          fields ⟨key, value, kind⟩ distinct unread
        split at parsed
        · cases parsed
        rename_i next behind separated
        split at parsed
        · rename_i brace
          subst brace
          cases parsed
          exact ⟨[⟨key, value, kind⟩], _, rfl,
            .closed member separated, .inl rfl, distinctMore⟩
        split at parsed
        · cases parsed
        rename_i comma
        obtain rfl := not_not.mp comma
        have shorter := member.comma_length separated
        obtain ⟨read, ending, rfl, loop, ends, distinctAll⟩ :=
          induction (by omega) distinctMore parsed
        exact ⟨⟨key, value, kind⟩ :: read, ending, by simp,
          .comma member separated loop, ends, distinctAll⟩
      · simp

theorem parseFlatObject_finished {json : Bytes} {fields : List FlatField}
    (parsed : parseFlatObject json = some fields) :
    Finished Scalar json (fields.map flatMember) ∧
      DistinctNames (fields.map flatMember) := by
  unfold parseFlatObject at parsed
  split at parsed
  · cases parsed
  split at parsed
  · cases parsed
  split at parsed
  · cases parsed
  rename_i brace body opened
  split at parsed
  · cases parsed
  rename_i isBrace
  obtain rfl := not_not.mp isBrace
  simp only at parsed
  split at parsed
  · cases parsed
  split at parsed
  · cases parsed
  rename_i result rest read
  split at parsed
  · cases parsed
  rename_i blank
  cases parsed
  obtain ⟨fresh, ending, rfl, loop, ends, distinct⟩ :=
    @parseFlatFields_loop _ [] _ _ _ (Nat.lt_succ_self _) List.nodup_nil read
  exact ⟨finished_of_loop opened loop ends (not_not.mp blank), distinct⟩

end ControlFrames

/-! ## Envelopes -/

section Envelopes

open Companion.Envelope

/-- The text of a field's value. -/
def outerToken (field : Field) (text : Bytes) : Bytes :=
  if field.numeric then text else quoted text

/-- The decoder keeps the fields in the reverse order. -/
def outerMembers (fields : Fields) : List (Bytes × Bytes) :=
  fields.reverse.map fun entry =>
    (quoted (ascii entry.1.name), outerToken entry.1 entry.2)

theorem fieldIndex_some {key : Bytes} {field : Field}
    (found : fieldIndex key = some field) : key = ascii field.name := by
  have same := List.find?_some found
  exact (beq_iff_eq.mp same).symm

theorem scanOuterValue_scalar {input value behind : Bytes} {field : Field}
    (scanned : (if field.numeric then parseUnsignedToken input
      else parseSimpleString input) = some (value, behind)) :
    input = outerToken field value ++ behind ∧
      Scalar (outerToken field value) behind := by
  unfold outerToken
  split at scanned
  · rename_i numeric
    rw [if_pos numeric]
    exact unsigned_scalar scanned
  · rename_i textual
    rw [if_neg textual]
    have found := parseSimpleString_parseString scanned
    have source := parseString_source found
    refine ⟨source, .string ?_⟩
    rw [← source, JsonValidator.string, found]
    rfl

theorem name_injective {first second : Field}
    (same : ascii first.name = ascii second.name) : first = second := by
  have index : ∀ field : Field,
      fieldIndex (ascii field.name) = some field := by
    intro field
    cases field <;> decide +kernel
  have found := index first
  rw [same, index second] at found
  exact (Option.some.inj found).symm

theorem outerMembers_cons (field : Field) (text : Bytes) (fields : Fields) :
    outerMembers ((field, text) :: fields) =
      outerMembers fields ++
        [(quoted (ascii field.name), outerToken field text)] := by
  simp [outerMembers]

/-- What the loop over the fields of an envelope reads. -/
theorem parseFields_loop {fields result : Fields} {input rest : Bytes}
    (enough : input.length < fuel) (distinct : DistinctNames (outerMembers fields))
    (parsed : parseFields fuel fields input = .ok (result, rest)) :
    ∃ members ending, outerMembers result = outerMembers fields ++ members ∧
      Loop Scalar input members ending ∧
      (ending = some rest ∨ ending = none ∧ rest = []) ∧
      DistinctNames (outerMembers result) := by
  induction fuel generalizing fields input with
  | zero => cases enough
  | succ fuel induction =>
    cases input with
    | nil =>
      cases parsed
      exact ⟨[], none, by simp, .ended, .inr ⟨rfl, rfl⟩, distinct⟩
    | cons first others =>
      rw [parseFields] at parsed
      · split at parsed
        · cases parsed
        rename_i key afterName named
        split at parsed
        · cases parsed
        rename_i field indexed
        split at parsed
        · cases parsed
        rename_i unread
        split at parsed
        · cases parsed
        rename_i colon behindColon skipped
        split at parsed
        · cases parsed
        rename_i isColon
        obtain rfl := not_not.mp isColon
        simp only at parsed
        split at parsed
        · cases parsed
        rename_i value afterValue scanned
        obtain ⟨valued, scalar⟩ := scanOuterValue_scalar scanned
        have member := member_of_scan
          (parseSimpleString_parseString named) skipped valued scalar
        rw [fieldIndex_some indexed] at member
        have distinctMore :
            DistinctNames (outerMembers ((field, value) :: fields)) := by
          rw [outerMembers_cons]
          apply distinct.concat
          intro entry entryIn same
          obtain ⟨⟨other, text⟩, otherIn, rfl⟩ := List.mem_map.mp entryIn
          obtain rfl := name_injective (quoted_injective same)
          apply unread
          rw [List.lookup_isSome_iff]
          exact ⟨_, List.mem_reverse.mp otherIn, beq_self_eq_true _⟩
        split at parsed
        · cases parsed
        rename_i next behind separated
        split at parsed
        · rename_i brace
          subst brace
          cases parsed
          exact ⟨_, _, outerMembers_cons field value fields,
            .closed member separated, .inl rfl, distinctMore⟩
        split at parsed
        · cases parsed
        rename_i comma
        obtain rfl := not_not.mp comma
        have shorter := member.comma_length separated
        obtain ⟨members, ending, all, loop, ends, distinctAll⟩ :=
          induction (by omega) distinctMore parsed
        rw [outerMembers_cons, List.append_assoc] at all
        exact ⟨_, ending, all, .comma member separated loop, ends, distinctAll⟩
      · simp

theorem parseOuterObject_finished {json : Bytes} {fields : Fields}
    (parsed : parseOuterObject json = .ok fields) :
    Finished Scalar json (outerMembers fields) ∧
      DistinctNames (outerMembers fields) := by
  unfold parseOuterObject at parsed
  split at parsed
  · cases parsed
  rename_i brace body opened
  split at parsed
  · cases parsed
  rename_i isBrace
  obtain rfl := not_not.mp isBrace
  simp only at parsed
  split at parsed
  · cases parsed
  split at parsed
  · cases parsed
  rename_i result rest read
  split at parsed
  · cases parsed
  rename_i blank
  split at parsed
  · cases parsed
  cases parsed
  obtain ⟨members, ending, all, loop, ends, distinct⟩ :=
    @parseFields_loop _ [] _ _ _ (Nat.lt_succ_self _) List.nodup_nil read
  rw [all] at distinct ⊢
  exact ⟨finished_of_loop opened loop ends (not_not.mp blank), distinct⟩

end Envelopes

/-! ## Actions -/

section Actions

open Kitsu.Ble.Action

/-- The text of a field's value. -/
def actionToken (field : Action.Field) : Bytes :=
  match field.kind with
  | .string => quoted field.value.bytes
  | .integer | .object => field.value.bytes

def actionMember (field : Action.Field) : Bytes × Bytes :=
  (quoted field.key.bytes, actionToken field)

theorem scanInteger_scalar {input behind : Bytes} {value : Span}
    (scanned : scanInteger input = some (value, behind)) :
    input = value.bytes ++ behind ∧ Scalar value.bytes behind := by
  obtain ⟨⟨digits, end_⟩, found, same⟩ := Option.map_eq_some_iff.mp scanned
  cases same
  obtain ⟨source, _⟩ := unsigned_scalar found
  rw [source] at found
  by_cases minus : input.head? = some (byte '-')
  · rw [if_pos minus] at source ⊢
    obtain ⟨rest, rfl⟩ := List.head?_eq_some_iff.mp minus
    refine ⟨?_, .integer (.inr rfl) found⟩
    rw [show rest = digits ++ end_ from source]
    rfl
  · rw [if_neg minus] at source ⊢
    exact ⟨source, .integer (.inl rfl) found⟩

theorem scanValue_scanned {input behind : Bytes} {key value : Span}
    {kind : ValueKind} (scanned : scanValue input = some (value, kind, behind)) :
    input = actionToken ⟨key, value, kind⟩ ++ behind ∧
      Scanned (actionToken ⟨key, value, kind⟩) behind := by
  unfold scanValue at scanned
  split at scanned
  · cases scanned
  split at scanned
  · obtain ⟨⟨span, end_⟩, found, same⟩ := Option.map_eq_some_iff.mp scanned
    cases same
    have source := parseString_source found
    refine ⟨source, .scalar (.string ?_)⟩
    rw [actionToken, ← source, JsonValidator.string, found]
    rfl
  split at scanned
  · obtain ⟨⟨span, end_⟩, found, same⟩ := Option.map_eq_some_iff.mp scanned
    cases same
    obtain ⟨source, _, unescaped⟩ := scanObject_source found
    refine ⟨source, .object ?_⟩
    rw [actionToken, ← source, found, ← unescaped]
  · obtain ⟨⟨span, end_⟩, found, same⟩ := Option.map_eq_some_iff.mp scanned
    cases same
    obtain ⟨source, scalar⟩ := scanInteger_scalar found
    exact ⟨source, .scalar scalar⟩

/-- What the loop over the fields of an action reads. -/
theorem parseFields_scanned {capacity : Nat} {fields result : List Action.Field}
    {input rest : Bytes} (enough : input.length < fuel)
    (distinct : DistinctNames (fields.map actionMember))
    (parsed : Action.parseFields capacity fuel fields input = .ok (result, rest)) :
    ∃ read ending, result = fields ++ read ∧
      Loop Scanned input (read.map actionMember) ending ∧
      (ending = some rest ∨ ending = none ∧ rest = []) ∧
      DistinctNames (result.map actionMember) := by
  induction fuel generalizing fields input with
  | zero => cases enough
  | succ fuel induction =>
    cases input with
    | nil =>
      cases parsed
      exact ⟨[], none, by simp, .ended, .inr ⟨rfl, rfl⟩, distinct⟩
    | cons first others =>
      rw [Action.parseFields] at parsed
      · split at parsed
        · cases parsed
        split at parsed
        · cases parsed
        rename_i key afterName named
        split at parsed
        · cases parsed
        split at parsed
        · cases parsed
        rename_i unread
        split at parsed
        · cases parsed
        rename_i colon behindColon skipped
        split at parsed
        · cases parsed
        rename_i isColon
        obtain rfl := not_not.mp isColon
        split at parsed
        · cases parsed
        rename_i value kind afterValue scanned
        obtain ⟨valued, token⟩ := @scanValue_scanned _ _ key _ _ scanned
        have member := member_of_scan named skipped valued token
        have distinctMore := @DistinctNames.concat_unread Action.Field (·.key) actionToken
          fields ⟨key, value, kind⟩ distinct unread
        split at parsed
        · cases parsed
        rename_i next behind separated
        split at parsed
        · rename_i brace
          subst brace
          cases parsed
          exact ⟨[⟨key, value, kind⟩], _, rfl,
            .closed member separated, .inl rfl, distinctMore⟩
        split at parsed
        · cases parsed
        rename_i comma
        obtain rfl := not_not.mp comma
        have shorter := member.comma_length separated
        obtain ⟨read, ending, rfl, loop, ends, distinctAll⟩ :=
          induction (by omega) distinctMore parsed
        exact ⟨⟨key, value, kind⟩ :: read, ending, by simp,
          .comma member separated loop, ends, distinctAll⟩
      · simp

theorem parseObject_iff {json : Bytes} {capacity : Nat}
    {fields : List Action.Field}
    (parsed : parseObject json capacity = .ok fields) :
    (ObjectOf json (fields.map actionMember) ↔
        lastVisible json = some (byte '\x7d') ∧ ObjectsAreJson json) ∧
      DistinctNames (fields.map actionMember) := by
  unfold parseObject at parsed
  split at parsed
  · cases parsed
  split at parsed
  · cases parsed
  rename_i brace body opened
  split at parsed
  · cases parsed
  rename_i isBrace
  obtain rfl := not_not.mp isBrace
  simp only at parsed
  by_cases empty : (skipWhitespace body).head? = some (byte '\x7d')
  · rw [if_pos empty] at parsed
    simp only at parsed
    split at parsed
    · cases parsed
    rename_i blank
    cases parsed
    obtain ⟨rest, closed⟩ := List.head?_eq_some_iff.mp empty
    rw [closed] at blank
    exact ⟨empty_object_iff opened closed (not_not.mp blank), List.nodup_nil⟩
  · rw [if_neg empty] at parsed
    split at parsed
    · cases parsed
    rename_i result rest read
    split at parsed
    · cases parsed
    rename_i blank
    cases parsed
    obtain ⟨fresh, ending, rfl, loop, ends, distinct⟩ :=
      @parseFields_scanned _ _ [] _ _ _ (Nat.lt_succ_self _) List.nodup_nil
        read
    have finished := finished_of_loop opened loop ends (not_not.mp blank)
    exact ⟨finished.nested_iff, distinct⟩

end Actions

/-! ## The results -/

/--
The whole input is one JSON object that the validator accepts, every name occurs
once, and the members are exactly its names and value tokens.
-/
structure Reported (json : Bytes) (members : List (Bytes × Bytes)) :
    Prop where
  valid : jsonValid json = true
  object : ObjectOf json members
  distinct : DistinctNames members

theorem reported_iff {json : Bytes} {members : List (Bytes × Bytes)}
    (distinct : DistinctNames members) :
    Reported json members ↔ ObjectOf json members := by
  constructor
  · exact Reported.object
  · intro object
    exact ⟨object.valid, object, distinct⟩

/--
An input that one of the parsers accepts is a JSON object with exactly the
members that the parser returns if and only if its last byte apart from white
space is a closing brace and, for the parser of actions, every object nested in
it is JSON.
-/
theorem accepted_objects_are_json (json : Bytes) :
    (∀ fields, ControlFrame.parseFlatObject json = some fields →
      (Reported json (fields.map flatMember) ↔
        lastVisible json = some (byte '\x7d'))) ∧
    (∀ fields, Companion.Envelope.parseOuterObject json = .ok fields →
      (Reported json (outerMembers fields) ↔
        lastVisible json = some (byte '\x7d'))) ∧
    (∀ capacity fields, Action.parseObject json capacity = .ok fields →
      (Reported json (fields.map actionMember) ↔
        lastVisible json = some (byte '\x7d') ∧ ObjectsAreJson json)) := by
  refine ⟨?_, ?_, ?_⟩
  · intro fields parsed
    obtain ⟨finished, distinct⟩ := parseFlatObject_finished parsed
    rw [reported_iff distinct]
    exact finished.object_iff
  · intro fields parsed
    obtain ⟨finished, distinct⟩ := parseOuterObject_finished parsed
    rw [reported_iff distinct]
    exact finished.object_iff
  · intro capacity fields parsed
    obtain ⟨object_iff, distinct⟩ := parseObject_iff parsed
    rw [reported_iff distinct]
    exact object_iff

/-- A small frame with white space in it. -/
def sampleFrame : Bytes :=
  ascii "\x7b\"v\": 1, \"op\":\"hello\"\x7d"

def sampleFields : List ControlFrame.FlatField :=
  [⟨⟨ascii "v", false⟩, ⟨ascii "1", false⟩, .unsigned⟩,
    ⟨⟨ascii "op", false⟩, ⟨ascii "hello", false⟩, .string⟩]

theorem sample_frame_reported :
    ControlFrame.parseFlatObject sampleFrame = some sampleFields ∧
      Reported sampleFrame (sampleFields.map flatMember) := by
  have parsed : ControlFrame.parseFlatObject sampleFrame =
      some sampleFields := by
    decide +kernel
  refine ⟨parsed, ?_⟩
  exact ((accepted_objects_are_json sampleFrame).1 sampleFields parsed).mpr
    (by decide +kernel)

/-- Objects that are cut off behind a comma, or are not JSON inside. -/
theorem malformed_objects_accepted :
    (ControlFrame.parseFlatObject (ascii "\x7b\"v\":1,")).isSome = true ∧
      jsonValid (ascii "\x7b\"v\":1,") = false ∧
    (ControlFrame.parseFlatObject (ascii "\x7b")).isSome = true ∧
      jsonValid (ascii "\x7b") = false ∧
    (Action.parseObject (ascii "\x7b\"params\":\x7b?\x7d\x7d")
        4).isOk = true ∧
      jsonValid (ascii "\x7b\"params\":\x7b?\x7d\x7d") = false := by
  decide +kernel

end Kitsu.Ble.ObjectParsers
