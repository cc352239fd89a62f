import Kitsu.Ota.Request

/-!
# Versions accepted by the updater

The grammar of Semantic Versioning 2.0.0, written out production by production
over bytes, and the proof that `validSemver` accepts exactly the versions of at
most 32 bytes whose three core numbers fit 63 bits.  A parser of a part stops at
the first character that cannot belong to it, so each part has one reading.
-/

namespace Kitsu.Ota.Semver

open Kitsu.Lib.ByteString
open Kitsu.Companion.Base64Url (byte)

/-! ## Grammar -/

def Digit (character : UInt8) : Prop :=
  byte '0' ≤ character ∧ character ≤ byte '9'

/-- The letters, in either case. -/
def Letter (character : UInt8) : Prop :=
  (byte 'A' ≤ character ∧ character ≤ byte 'Z') ∨
    (byte 'a' ≤ character ∧ character ≤ byte 'z')

def NonDigit (character : UInt8) : Prop :=
  Letter character ∨ character = byte '-'

def IdentifierCharacter (character : UInt8) : Prop :=
  Digit character ∨ NonDigit character

/-- A number without leading zeros. -/
inductive NumericIdentifier : Bytes → Prop
  | zero : NumericIdentifier [byte '0']
  | positive {first : UInt8} {rest : Bytes} :
      Digit first → first ≠ byte '0' → (∀ character ∈ rest, Digit character) →
      NumericIdentifier (first :: rest)

/-- Identifier characters, at least one of which is no digit. -/
inductive AlphanumericIdentifier : Bytes → Prop
  | around {front back : Bytes} {character : UInt8} :
      (∀ character ∈ front, IdentifierCharacter character) →
      NonDigit character →
      (∀ character ∈ back, IdentifierCharacter character) →
      AlphanumericIdentifier (front ++ character :: back)

/-- An identifier behind the hyphen. -/
inductive PreReleaseIdentifier : Bytes → Prop
  | alphanumeric {text : Bytes} :
      AlphanumericIdentifier text → PreReleaseIdentifier text
  | numeric {text : Bytes} :
      NumericIdentifier text → PreReleaseIdentifier text

/-- An identifier behind the plus; its zeros may lead. -/
inductive BuildIdentifier : Bytes → Prop
  | alphanumeric {text : Bytes} :
      AlphanumericIdentifier text → BuildIdentifier text
  | digits {text : Bytes} :
      text ≠ [] → (∀ character ∈ text, Digit character) →
      BuildIdentifier text

/-- Identifiers with dots between them. -/
inductive DotSeparated (Identifier : Bytes → Prop) : Bytes → Prop
  | single {text : Bytes} :
      Identifier text → DotSeparated Identifier text
  | dot {text later : Bytes} :
      Identifier text → DotSeparated Identifier later →
      DotSeparated Identifier (text ++ byte '.' :: later)

/-- What follows the three numbers. -/
inductive Suffix : Bytes → Prop
  | none : Suffix []
  | preRelease {text : Bytes} :
      DotSeparated PreReleaseIdentifier text → Suffix (byte '-' :: text)
  | build {text : Bytes} :
      DotSeparated BuildIdentifier text → Suffix (byte '+' :: text)
  | both {text later : Bytes} :
      DotSeparated PreReleaseIdentifier text →
      DotSeparated BuildIdentifier later →
      Suffix (byte '-' :: (text ++ byte '+' :: later))

def number (digits : Bytes) : Nat :=
  digits.foldl (fun value digit => value * 10 + (digit.toNat - 48)) 0

/-- A number of the version core that fits 63 bits. -/
structure CoreNumber (text : Bytes) : Prop where
  numeric : NumericIdentifier text
  fits : number text < 2 ^ 63

/-- A version: three numbers and what may follow them. -/
inductive Version : Bytes → Prop
  | version {major minor patch suffix : Bytes} :
      CoreNumber major → CoreNumber minor → CoreNumber patch →
      Suffix suffix →
      Version (major ++ byte '.' :: (minor ++ byte '.' :: (patch ++ suffix)))

/-! ## Characters -/

theorem asciiDigit_iff (character : UInt8) :
    asciiDigit character = true ↔ Digit character := by
  simp [asciiDigit, Digit]

theorem identifierCharacter_iff (character : UInt8) :
    (asciiAlphaNumeric character || character == byte '-') = true ↔
      IdentifierCharacter character := by
  simp only [asciiAlphaNumeric, IdentifierCharacter, NonDigit, Letter,
    Bool.or_eq_true, Bool.and_eq_true, decide_eq_true_eq, beq_iff_eq,
    asciiDigit_iff, or_assoc]

theorem all_digits_iff (text : Bytes) :
    text.all asciiDigit = true ↔ ∀ character ∈ text, Digit character := by
  simp only [List.all_eq_true, asciiDigit_iff]

variable {character : UInt8}

theorem Digit.apart (digit : Digit character) :
    character ≠ byte '.' ∧ character ≠ byte '+' ∧ character ≠ byte '-' := by
  rcases digit with ⟨low, _⟩
  refine ⟨?_, ?_, ?_⟩
  all_goals
    rintro rfl
    exact absurd low (by decide)

theorem Digit.ne_nonDigit (digit : Digit character) : ¬ NonDigit character := by
  rcases digit with ⟨low, high⟩
  rintro ((⟨upper, _⟩ | ⟨lower, _⟩) | rfl)
  · have order := UInt8.le_trans upper high
    exact absurd order (by decide)
  · have order := UInt8.le_trans lower high
    exact absurd order (by decide)
  · exact absurd low (by decide)

/-- The characters that end an identifier. -/
def marks (character : UInt8) : Bool :=
  character == byte '.' || character == byte '+'

theorem IdentifierCharacter.unmarked
    (identifier : IdentifierCharacter character) : marks character = false := by
  unfold marks
  rw [Bool.or_eq_false_iff, beq_eq_false_iff_ne, beq_eq_false_iff_ne]
  rcases identifier with digit | (letter | rfl)
  · exact ⟨digit.apart.1, digit.apart.2.1⟩
  · constructor
    all_goals
      rintro rfl
      rcases letter with ⟨low, _⟩ | ⟨low, _⟩
      all_goals exact absurd low (by decide)
  · decide

/-! ## The longest part -/

section Longest

variable {allowed : UInt8 → Bool} {front rest : Bytes}

/-- What follows does not go on with the part in front of it. -/
def Stops (allowed : UInt8 → Bool) (rest : Bytes) : Prop :=
  ∀ first ∈ rest.head?, allowed first = false

theorem stops_dropWhile (allowed : UInt8 → Bool) (input : Bytes) :
    Stops allowed (input.dropWhile allowed) := by
  intro first member
  have stop := List.head?_dropWhile_not allowed input
  rw [Option.mem_def.mp member] at stop
  exact stop

theorem takeWhile_front (inside : ∀ character ∈ front,
    allowed character = true) (stops : Stops allowed rest) :
    (front ++ rest).takeWhile allowed = front := by
  rw [List.takeWhile_append_of_pos inside]
  cases rest with
  | nil => simp
  | cons first later =>
    rw [List.takeWhile_cons_of_neg (by simp [stops first rfl]),
      List.append_nil]

theorem dropWhile_front (inside : ∀ character ∈ front,
    allowed character = true) (stops : Stops allowed rest) :
    (front ++ rest).dropWhile allowed = rest := by
  rw [List.dropWhile_append_of_pos inside]
  cases rest with
  | nil => rfl
  | cons first later =>
    rw [List.dropWhile_cons_of_neg (by simp [stops first rfl])]

end Longest

/-! ## Numbers -/

section Numbers

variable {digits rest input : Bytes}

/-- A number that goes on from what was read of it. -/
def numberFrom (value : Nat) (digits : Bytes) : Nat :=
  digits.foldl (fun value digit => value * 10 + (digit.toNat - 48)) value

theorem le_numberFrom (value : Nat) (digits : Bytes) :
    value ≤ numberFrom value digits := by
  induction digits generalizing value with
  | nil => exact Nat.le_refl value
  | cons digit later induction =>
    have step := induction (value * 10 + (digit.toNat - 48))
    change value ≤ numberFrom (value * 10 + (digit.toNat - 48)) later
    omega

/-- The bound is checked before each digit is taken. -/
theorem componentValue_from {value : Nat} (small : value < 2 ^ 63)
    (all : ∀ character ∈ digits, Digit character) :
    (digits.foldlM (fun value digit =>
      let digit := digit.toNat - 48
      if value > (0x7fffffffffffffff - digit) / 10 then none
      else some (value * 10 + digit)) value).isSome = true ↔
      numberFrom value digits < 2 ^ 63 := by
  induction digits generalizing value with
  | nil => simpa [numberFrom] using small
  | cons digit later induction =>
    have isDigit := all digit List.mem_cons_self
    have high : digit.toNat ≤ 57 := UInt8.le_iff_toNat_le.mp isDigit.2
    rw [List.foldlM_cons]
    change _ ↔ numberFrom (value * 10 + (digit.toNat - 48)) later < 2 ^ 63
    simp only
    split
    · rename_i exceeds
      have grows := le_numberFrom (value * 10 + (digit.toNat - 48)) later
      simp only [Option.bind_eq_bind, Option.bind_none, Option.isSome_none,
        Bool.false_eq_true, false_iff]
      omega
    · rename_i fits
      apply induction
      · omega
      · intro character member
        exact all character (List.mem_cons_of_mem digit member)

theorem componentValue_isNone (all : ∀ character ∈ digits, Digit character) :
    (componentValue digits).isNone = false ↔ number digits < 2 ^ 63 := by
  rw [← Option.not_isSome, Bool.not_eq_false']
  exact componentValue_from (by decide) all

theorem numericIdentifier_iff (all : ∀ character ∈ digits, Digit character) :
    NumericIdentifier digits ↔
      digits ≠ [] ∧ leadingZero digits = false := by
  constructor
  · intro numeric
    cases numeric with
    | zero => decide
    | positive digit nonzero rest =>
      refine ⟨List.cons_ne_nil _ _, ?_⟩
      simp [leadingZero, nonzero]
  · rintro ⟨present, plain⟩
    cases digits with
    | nil => exact absurd rfl present
    | cons first later =>
      by_cases zero : first = byte '0'
      · subst zero
        cases later with
        | nil => exact .zero
        | cons second later => simp [leadingZero] at plain
      · refine .positive (all first List.mem_cons_self) zero ?_
        intro character member
        exact all character (List.mem_cons_of_mem first member)

theorem NumericIdentifier.all_digits (numeric : NumericIdentifier digits) :
    ∀ character ∈ digits, Digit character := by
  cases numeric with
  | zero =>
    intro character member
    rw [List.mem_singleton.mp member]
    exact ⟨by decide, by decide⟩
  | positive digit nonzero rest =>
    intro character member
    rcases List.mem_cons.mp member with rfl | later
    · exact digit
    · exact rest character later

theorem versionComponent_iff :
    versionComponent input = some rest ↔
      ∃ digits, input = digits ++ rest ∧ CoreNumber digits ∧
        Stops asciiDigit rest := by
  constructor
  · intro parsed
    have all : ∀ character ∈ input.takeWhile asciiDigit,
        Digit character := by
      intro character member
      exact (asciiDigit_iff character).mp (List.mem_takeWhile_imp member)
    unfold versionComponent at parsed
    simp only at parsed
    split at parsed
    · cases parsed
    · rename_i accepted
      cases parsed
      simp only [Bool.or_eq_true, beq_iff_eq, not_or, Bool.not_eq_true]
        at accepted
      obtain ⟨⟨fits, present⟩, plain⟩ := accepted
      exact ⟨_, List.takeWhile_append_dropWhile.symm,
        ⟨(numericIdentifier_iff all).mpr ⟨present, plain⟩,
          (componentValue_isNone all).mp fits⟩, stops_dropWhile _ _⟩
  · rintro ⟨digits, rfl, core, stops⟩
    have all := core.numeric.all_digits
    have inside : ∀ character ∈ digits, asciiDigit character = true :=
      fun character member => (asciiDigit_iff character).mpr (all _ member)
    obtain ⟨present, plain⟩ := (numericIdentifier_iff all).mp core.numeric
    unfold versionComponent
    rw [takeWhile_front inside stops, dropWhile_front inside stops]
    simp [present, plain, (componentValue_isNone all).mpr core.fits]

end Numbers

/-! ## Identifiers -/

variable {prerelease : Bool}

section Identifiers

variable {text rest input : Bytes}

/-- An identifier of one of the two kinds. -/
def Identifier (prerelease : Bool) : Bytes → Prop :=
  if prerelease then PreReleaseIdentifier else BuildIdentifier

theorem AlphanumericIdentifier.characters
    (alphanumeric : AlphanumericIdentifier text) :
    ∀ character ∈ text, IdentifierCharacter character := by
  rcases alphanumeric with ⟨front, mark, back⟩
  intro character member
  rcases List.mem_append.mp member with earlier | later
  · exact front character earlier
  rcases List.mem_cons.mp later with rfl | later
  · exact Or.inr mark
  · exact back character later

theorem AlphanumericIdentifier.not_digits
    (alphanumeric : AlphanumericIdentifier text) :
    ¬ ∀ character ∈ text, Digit character := by
  rcases alphanumeric with ⟨_, mark, _⟩
  intro all
  exact (all _ (by simp)).ne_nonDigit mark

theorem alphanumeric_of_not_digits
    (characters : ∀ character ∈ text, IdentifierCharacter character)
    (mixed : ¬ ∀ character ∈ text, Digit character) :
    AlphanumericIdentifier text := by
  push Not at mixed
  obtain ⟨character, member, other⟩ := mixed
  obtain ⟨front, back, rfl⟩ := List.append_of_mem member
  refine .around ?_ ((characters character member).resolve_left other) ?_
  · intro character member
    exact characters character (List.mem_append_left _ member)
  · intro character member
    exact characters character
      (List.mem_append_right _ (List.mem_cons_of_mem _ member))

/-- What the parser checks of one identifier. -/
theorem identifier_iff (prerelease : Bool) :
    Identifier prerelease text ↔
      (∀ character ∈ text, IdentifierCharacter character) ∧ text ≠ [] ∧
        (prerelease && text.all asciiDigit && leadingZero text) = false := by
  by_cases digits : ∀ character ∈ text, Digit character
  · have characters : ∀ character ∈ text, IdentifierCharacter character :=
      fun character member => Or.inl (digits character member)
    have all := (all_digits_iff text).mpr digits
    cases prerelease with
    | true =>
      constructor
      · rintro (alphanumeric | numeric)
        · exact absurd digits alphanumeric.not_digits
        · obtain ⟨present, plain⟩ :=
            (numericIdentifier_iff digits).mp numeric
          exact ⟨characters, present, by simp [plain]⟩
      · rintro ⟨_, present, plain⟩
        rw [all] at plain
        exact .numeric
          ((numericIdentifier_iff digits).mpr ⟨present, plain⟩)
    | false =>
      constructor
      · rintro (alphanumeric | ⟨present, _⟩)
        · exact absurd digits alphanumeric.not_digits
        · exact ⟨characters, present, rfl⟩
      · rintro ⟨_, present, _⟩
        exact .digits present digits
  · have some_other : text.all asciiDigit = false := by
      rw [← Bool.not_eq_true, all_digits_iff]
      exact digits
    have present : text ≠ [] := by
      rintro rfl
      exact digits nofun
    cases prerelease with
    | true =>
      constructor
      · rintro (alphanumeric | numeric)
        · exact ⟨alphanumeric.characters, present, by simp [some_other]⟩
        · exact absurd numeric.all_digits digits
      · rintro ⟨characters, _, _⟩
        exact .alphanumeric (alphanumeric_of_not_digits characters digits)
    | false =>
      constructor
      · rintro (alphanumeric | ⟨_, all⟩)
        · exact ⟨alphanumeric.characters, present, rfl⟩
        · exact absurd all digits
      · rintro ⟨characters, _, _⟩
        exact .alphanumeric (alphanumeric_of_not_digits characters digits)

/-- Identifiers end with the text or in front of a plus sign. -/
def Ends (rest : Bytes) : Prop :=
  rest = [] ∨ rest.head? = some (byte '+')

theorem Ends.stops (ends : Ends rest) :
    Stops (fun value => !marks value) rest := by
  intro first member
  rcases ends with rfl | plus
  · cases member
  · rw [plus] at member
    cases member
    decide

theorem stops_dot (later : Bytes) :
    Stops (fun value => !marks value) (byte '.' :: later) := by
  rintro _ ⟨⟩
  decide

theorem Identifier.inside (identifier : Identifier prerelease text) :
    ∀ character ∈ text, (!marks character) = true := by
  intro character member
  rw [((identifier_iff prerelease).mp identifier).1 character member
    |>.unmarked]
  rfl

theorem DotSeparated.present {prerelease : Bool}
    (separated : DotSeparated (Identifier prerelease) text) :
    ∃ first later, text = first :: later ∧ marks first = false := by
  have head {text : Bytes} (identifier : Identifier prerelease text)
      (rest : Bytes) :
      ∃ first later, text ++ rest = first :: later ∧
        marks first = false := by
    obtain ⟨characters, present, _⟩ := (identifier_iff prerelease).mp
      identifier
    cases text with
    | nil => exact absurd rfl present
    | cons first later =>
      exact ⟨first, later ++ rest, rfl,
        (characters first List.mem_cons_self).unmarked⟩
  cases separated with
  | single identifier => simpa using head identifier []
  | dot identifier _ => exact head identifier _

theorem validSemverIdentifiers_sound {fuel : Nat}
    (parsed : validSemverIdentifiers prerelease fuel input = some rest) :
    Ends rest ∧ ∃ text, input = text ++ rest ∧
      DotSeparated (Identifier prerelease) text := by
  induction fuel generalizing input with
  | zero => cases parsed
  | succ fuel induction =>
    unfold validSemverIdentifiers at parsed
    simp only at parsed
    split at parsed
    · cases parsed
    rename_i characters
    simp only [Bool.not_eq_true', Bool.not_eq_false,
      List.all_eq_true] at characters
    split at parsed
    · cases parsed
    rename_i accepted
    simp only [Bool.or_eq_true, beq_iff_eq, not_or,
      Bool.not_eq_true] at accepted
    have identifier : Identifier prerelease
        (input.takeWhile fun value => !marks value) := by
      refine (identifier_iff prerelease).mpr ⟨?_, accepted⟩
      intro character member
      exact (identifierCharacter_iff character).mp
        (characters character member)
    have parts : input.takeWhile (fun value => !marks value) ++
        input.dropWhile (fun value => !marks value) = input :=
      List.takeWhile_append_dropWhile
    split at parsed
    · rename_i behind
      cases parsed
      refine ⟨Or.inl rfl, _, ?_, .single identifier⟩
      rw [← behind]
      exact parts.symm
    · rename_i mark later behind
      change input.dropWhile (fun value => !marks value) = mark :: later
        at behind
      split at parsed
      · rename_i plus
        cases parsed
        refine ⟨Or.inr ?_, _, parts.symm, .single identifier⟩
        rw [plus] at behind
        exact (congrArg List.head? behind).trans rfl
      · rename_i noPlus
        split at parsed
        · cases parsed
        · have dot : mark = byte '.' := by
            have stop := stops_dropWhile (fun value => !marks value) input
              mark (by rw [behind]; rfl)
            simpa [marks, noPlus] using stop
          obtain ⟨ends, text, same, separated⟩ := induction parsed
          refine ⟨ends, _ ++ byte '.' :: text, ?_, .dot identifier separated⟩
          rw [List.append_assoc, List.cons_append, ← same, ← dot, ← behind]
          exact parts.symm

/-- One identifier is taken; what follows decides how it goes on. -/
theorem validSemverIdentifiers_step (identifier : Identifier prerelease text)
    (stops : Stops (fun value => !marks value) rest) (fuel : Nat) :
    validSemverIdentifiers prerelease (fuel + 1) (text ++ rest) =
      match rest with
      | [] => some []
      | mark :: later =>
        if mark = byte '+' then some rest
        else if later.head?.all marks then none
        else validSemverIdentifiers prerelease fuel later := by
  have front : (text ++ rest).takeWhile (fun value =>
      !(value == byte '.' || value == byte '+')) = text :=
    takeWhile_front identifier.inside stops
  have behind : (text ++ rest).dropWhile (fun value =>
      !(value == byte '.' || value == byte '+')) = rest :=
    dropWhile_front identifier.inside stops
  obtain ⟨characters, present, plain⟩ :=
    (identifier_iff prerelease).mp identifier
  have checked : (text.all fun value =>
      asciiAlphaNumeric value || value == byte '-') = true := by
    rw [List.all_eq_true]
    intro character member
    exact (identifierCharacter_iff character).mpr
      (characters character member)
  rw [validSemverIdentifiers]
  simp only [front, behind, checked, plain, Bool.not_true,
    Bool.false_eq_true, if_false, Bool.or_false, beq_iff_eq, present]
  cases rest <;> rfl

theorem validSemverIdentifiers_complete {fuel : Nat}
    (separated : DotSeparated (Identifier prerelease) text) (ends : Ends rest)
    (enough : text.length < fuel) :
    validSemverIdentifiers prerelease fuel (text ++ rest) = some rest := by
  induction separated generalizing fuel with
  | single identifier =>
    cases fuel with
    | zero => cases enough
    | succ fuel =>
      rw [validSemverIdentifiers_step identifier ends.stops]
      rcases ends with rfl | plus
      · rfl
      · cases rest with
        | nil => rfl
        | cons mark later =>
          cases plus
          exact if_pos rfl
  | @dot text later identifier separated induction =>
    cases fuel with
    | zero => cases enough
    | succ fuel =>
      obtain ⟨first, others, same, unmarked⟩ := separated.present
      rw [List.append_assoc, List.cons_append,
        validSemverIdentifiers_step identifier (stops_dot _)]
      simp only
      rw [if_neg (by decide), if_neg (by simp [same, unmarked])]
      apply induction
      simp only [List.length_append, List.length_cons] at enough
      omega

/-- The identifiers behind a mark, if the mark is there. -/
theorem optionalIdentifiers_marked {mark : Char} :
    optionalIdentifiers mark prerelease (byte mark :: input) = some rest ↔
      Ends rest ∧ ∃ text, input = text ++ rest ∧
        DotSeparated (Identifier prerelease) text := by
  have unfolded : optionalIdentifiers mark prerelease (byte mark :: input) =
      validSemverIdentifiers prerelease (input.length + 1) input :=
    if_pos rfl
  rw [unfolded]
  constructor
  · exact validSemverIdentifiers_sound
  · rintro ⟨ends, text, rfl, separated⟩
    apply validSemverIdentifiers_complete separated ends
    rw [List.length_append]
    omega

theorem optionalIdentifiers_absent {mark : Char}
    (absent : input.head? ≠ some (byte mark)) :
    optionalIdentifiers mark prerelease input = some input :=
  if_neg absent

end Identifiers

/-! ## Versions -/

section Versions

variable {input suffix : Bytes}

/-- Both optional parts of a version. -/
def suffixParsed (input : Bytes) : Option Bytes :=
  (optionalIdentifiers '-' true input).bind
    (optionalIdentifiers '+' false)

theorem build_parsed :
    optionalIdentifiers '+' false input = some [] ↔
      input = [] ∨ ∃ text, input = byte '+' :: text ∧
        DotSeparated BuildIdentifier text := by
  by_cases plus : input.head? = some (byte '+')
  · cases input with
    | nil => cases plus
    | cons first later =>
      cases plus
      rw [optionalIdentifiers_marked]
      constructor
      · rintro ⟨_, text, rfl, separated⟩
        rw [List.append_nil]
        exact Or.inr ⟨text, rfl, separated⟩
      · rintro (impossible | ⟨text, same, separated⟩)
        · cases impossible
        · cases same
          exact ⟨Or.inl rfl, later, (List.append_nil later).symm, separated⟩
  · rw [optionalIdentifiers_absent plus]
    constructor
    · intro same
      exact Or.inl (Option.some.inj same)
    · rintro (rfl | ⟨text, rfl, _⟩)
      · rfl
      · exact absurd rfl plus

theorem suffixParsed_iff : suffixParsed input = some [] ↔ Suffix input := by
  unfold suffixParsed
  by_cases minus : input.head? = some (byte '-')
  · cases input with
    | nil => cases minus
    | cons first later =>
      cases minus
      rw [Option.bind_eq_some_iff]
      constructor
      · rintro ⟨middle, parsed, built⟩
        obtain ⟨_, text, rfl, separated⟩ :=
          optionalIdentifiers_marked.mp parsed
        rcases build_parsed.mp built with rfl | ⟨build, rfl, builds⟩
        · rw [List.append_nil]
          exact .preRelease separated
        · exact .both separated builds
      · intro suffix
        cases suffix with
        | preRelease separated =>
          refine ⟨[], optionalIdentifiers_marked.mpr
            ⟨Or.inl rfl, later, (List.append_nil later).symm, separated⟩, rfl⟩
        | @both text build separated builds =>
          refine ⟨byte '+' :: build, optionalIdentifiers_marked.mpr
            ⟨Or.inr rfl, text, rfl, separated⟩, ?_⟩
          exact build_parsed.mpr (Or.inr ⟨build, rfl, builds⟩)
  · rw [optionalIdentifiers_absent minus, Option.bind_some, build_parsed]
    constructor
    · rintro (rfl | ⟨text, rfl, separated⟩)
      · exact .none
      · exact .build separated
    · intro suffix
      cases suffix with
      | none => exact Or.inl rfl
      | preRelease separated => exact absurd rfl minus
      | build separated => exact Or.inr ⟨_, rfl, separated⟩
      | both separated builds => exact absurd rfl minus

theorem Suffix.stops (suffixed : Suffix suffix) : Stops asciiDigit suffix := by
  intro first member
  cases suffixed with
  | none => cases member
  | preRelease => cases member; decide
  | build => cases member; decide
  | both => cases member; decide

theorem stops_point (rest : Bytes) : Stops asciiDigit (byte '.' :: rest) := by
  rintro _ ⟨⟩
  decide

theorem expect_iff {character : Char} {rest : Bytes} :
    expect character input = some rest ↔
      input = byte character :: rest := by
  cases input with
  | nil => simp [expect]
  | cons first later =>
    by_cases same : first = byte character
    · simp [expect, same]
    · simp [expect, same]

/--
A version is accepted exactly if it follows the grammar, is not longer than the
buffers for it and has numbers that fit 63 bits.
-/
theorem validSemver_iff (input : Bytes) :
    validSemver input = true ↔
      input.length ≤ kBleOtaVersionMaximumBytes ∧ Version input := by
  simp only [validSemver, Bool.and_eq_true, bne_iff_ne, decide_eq_true_eq,
    beq_iff_eq, Option.bind_eq_bind, Option.bind_eq_some_iff, expect_iff]
  constructor
  · rintro ⟨⟨_, short⟩, _, major, _, rfl, _, minor, _, rfl, suffix, patch,
      middle, first, second⟩
    refine ⟨short, ?_⟩
    obtain ⟨major, rfl, majorCore, _⟩ := versionComponent_iff.mp major
    obtain ⟨minor, rfl, minorCore, _⟩ := versionComponent_iff.mp minor
    obtain ⟨patch, rfl, patchCore, _⟩ := versionComponent_iff.mp patch
    refine .version majorCore minorCore patchCore
      (suffixParsed_iff.mp ?_)
    rw [suffixParsed, first, Option.bind_some, second]
  · rintro ⟨short, version⟩
    obtain ⟨majorCore, minorCore, patchCore, suffixed⟩ := version
    rename_i major minor patch suffix
    obtain ⟨middle, first, second⟩ :=
      Option.bind_eq_some_iff.mp (suffixParsed_iff.mpr suffixed)
    refine ⟨⟨by simp, short⟩,
      byte '.' :: (minor ++ byte '.' :: (patch ++ suffix)), ?_,
      minor ++ byte '.' :: (patch ++ suffix), rfl,
      byte '.' :: (patch ++ suffix), ?_, patch ++ suffix, rfl, suffix, ?_,
      middle, first, second⟩
    · exact versionComponent_iff.mpr ⟨major, rfl, majorCore, stops_point _⟩
    · exact versionComponent_iff.mpr ⟨minor, rfl, minorCore, stops_point _⟩
    · exact versionComponent_iff.mpr
        ⟨patch, rfl, patchCore, suffixed.stops⟩

end Versions

end Kitsu.Ota.Semver
