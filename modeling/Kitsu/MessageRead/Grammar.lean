import Kitsu.Companion.Json
import Kitsu.Lib.Layout

/-!
# The message-read contract

`parseCommand` and `plan` of `kitsu_message_read_contract.cpp`.  A reader takes the
input from the cursor on and returns what is left of it.  A plan fills its output
row by row, so that a request which fails may leave a part of it behind; the caller
in `main.cpp` applies a plan only when its status is `ok`, as `markRead` does here.
-/

namespace Kitsu.Chat

def kMaximumMessageIds : Nat := 24

/-- The messages to be marked as read, in a session of the journal. -/
structure Command where
  journalSession : UInt32
  messageIds : List UInt32

end Kitsu.Chat

namespace Kitsu.MessageRead

open Kitsu.Lib.ByteString
open Kitsu.Companion.Base64Url (byte)
open Kitsu.Companion.Json (isSpace skipWhitespace)
open Kitsu.Chat (Command kMaximumMessageIds)

/-- What a command is refused for. -/
inductive ParseStatus where
  | invalidArgument
  | duplicateMessageId
deriving DecidableEq, Repr

/-! ## Reading -/

/-- The mark that is expected next, behind white space. -/
def consume (input : Bytes) (expected : UInt8) : Option Bytes :=
  match skipWhitespace input with
  | [] => none
  | next :: rest => if next = expected then some rest else none

/-- The characters up to the closing quote, none of which may need an escape. -/
def stringBody : Bytes → Option (Bytes × Bytes)
  | [] => none
  | next :: rest =>
    if next = byte '"' then some ([], rest)
    else if next < 0x20 ∨ 0x7e < next ∨ next = byte '\\' then none
    else (stringBody rest).map fun read => (next :: read.1, read.2)

/-- A string of plain characters. -/
def parseAsciiString (input : Bytes) : Option (Bytes × Bytes) :=
  (consume input (byte '"')).bind stringBody

/-- The digits of a token, as long as their value fits 32 bits. -/
def digitsValue (value : Nat) : Bytes → Option Nat
  | [] => some value
  | next :: later =>
    if next < byte '0' ∨ byte '9' < next then none
    else
      let value := value * 10 + (next.toNat - 48)
      if 0xffffffff < value then none else digitsValue value later

/-- A number that is not zero, in its shortest spelling. -/
def parseCanonicalNonzeroUint32 (token : Bytes) : Option UInt32 :=
  if token.length = 0 ∨ 10 < token.length ∨ token.head? = some (byte '0') then
    none
  else
    (digitsValue 0 token).bind fun value =>
      if value = 0 then none else some (UInt32.ofNat value)

/-- A number between quotes. -/
def parseQuotedUint32 (input : Bytes) : Option (UInt32 × Bytes) :=
  (parseAsciiString input).bind fun read =>
    (parseCanonicalNonzeroUint32 read.1).map fun value => (value, read.2)

/-- The identifiers of an array behind those already `taken`. -/
def parseIds : Nat → List UInt32 → Bytes →
    Except ParseStatus (List UInt32 × Bytes)
  | 0, _, _ => .error .invalidArgument
  | room + 1, taken, input =>
    match parseQuotedUint32 input with
    | none => .error .invalidArgument
    | some (messageId, rest) =>
      if messageId ∈ taken then .error .duplicateMessageId
      else
        match skipWhitespace rest with
        | [] => .error .invalidArgument
        | next :: rest =>
          if next = byte ']' then .ok (taken ++ [messageId], rest)
          else if next ≠ byte ',' then .error .invalidArgument
          else parseIds room (taken ++ [messageId]) rest

/-- A list of identifiers that is not empty. -/
def parseMessageIds (input : Bytes) :
    Except ParseStatus (List UInt32 × Bytes) :=
  match consume input (byte '[') with
  | none => .error .invalidArgument
  | some rest =>
    let rest := skipWhitespace rest
    if rest.head? = some (byte ']') then .error .invalidArgument
    else parseIds kMaximumMessageIds [] rest

/-- The properties that were seen, with their values. -/
structure Seen where
  journalSession : Option UInt32 := none
  messageIds : Option (List UInt32) := none
deriving DecidableEq

/-- One of the two fields, unless it was there before. -/
def parseField (seen : Seen) (input : Bytes) :
    Except ParseStatus (Seen × Bytes) :=
  match parseAsciiString input with
  | none => .error .invalidArgument
  | some (key, rest) =>
    match consume rest (byte ':') with
    | none => .error .invalidArgument
    | some rest =>
      if key = ascii "journal_session" then
        if seen.journalSession.isSome then .error .invalidArgument
        else
          match parseQuotedUint32 rest with
          | none => .error .invalidArgument
          | some (session, rest) =>
            .ok ({ seen with journalSession := some session }, rest)
      else if key = ascii "message_ids" then
        if seen.messageIds.isSome then .error .invalidArgument
        else
          match parseMessageIds rest with
          | .error status => .error status
          | .ok (messageIds, rest) =>
            .ok ({ seen with messageIds := some messageIds }, rest)
      else .error .invalidArgument

/-- What stands behind the second property. -/
def parseEnd (seen : Seen) (input : Bytes) : Except ParseStatus Command :=
  match seen.journalSession, seen.messageIds, consume input (byte '\x7d') with
  | some journalSession, some messageIds, some rest =>
    if skipWhitespace rest = [] then .ok { journalSession, messageIds }
    else .error .invalidArgument
  | _, _, _ => .error .invalidArgument

/-- A command with both of its fields and nothing else. -/
def parseCommand (input : Bytes) : Except ParseStatus Command :=
  match consume input (byte '\x7b') with
  | none => .error .invalidArgument
  | some rest =>
    match parseField {} rest with
    | .error status => .error status
    | .ok (seen, rest) =>
      match consume rest (byte ',') with
      | none => .error .invalidArgument
      | some rest =>
        match parseField seen rest with
        | .error status => .error status
        | .ok (seen, rest) => parseEnd seen rest

/-! ## Planning -/

/-- A message of the journal. -/
structure Record where
  messageId : UInt32
  inbound : Bool
  unread : Bool
deriving DecidableEq

/-- What a plan is refused for. -/
inductive PlanStatus where
  | ok
  | journalSessionMismatch
  | snapshotChanged
  | messageNotInbound
deriving DecidableEq, Repr

/-- Which records are marked, and how many of them were unread. -/
structure Plan where
  recordIndexes : List Nat := []
  markedCount : Nat := 0
  unchangedCount : Nat := 0
deriving DecidableEq

/-- The first record with this identifier. -/
def matchOf (records : List Record) (messageId : UInt32) : Option Nat :=
  records.findIdx? fun candidate => candidate.messageId == messageId

/-- One more record; a read one is counted as unchanged. -/
def Plan.add (output : Plan) (position : Nat) (record : Record) : Plan where
  recordIndexes := output.recordIndexes ++ [position]
  markedCount :=
    if record.unread then output.markedCount + 1 else output.markedCount
  unchangedCount :=
    if record.unread then output.unchangedCount else output.unchangedCount + 1

/-- The plan for the identifiers, in their order. -/
def planIds (records : List Record) :
    Plan → List UInt32 → PlanStatus × Plan
  | output, [] => (.ok, output)
  | output, requested :: later =>
    match matchOf records requested with
    | none => (.snapshotChanged, output)
    | some position =>
      match records[position]? with
      | none => (.snapshotChanged, output)
      | some record =>
        if !record.inbound then (.messageNotInbound, output)
        else planIds records (output.add position record) later

/-- A table that is missing has no records to point to. -/
def plan (currentJournalSession : UInt32) (command : Command)
    (records : Option (List Record)) : PlanStatus × Plan :=
  if currentJournalSession = 0 ∨
      command.journalSession ≠ currentJournalSession then
    (.journalSessionMismatch, {})
  else
    match records with
    | none => (.snapshotChanged, {})
    | some records =>
      if kMaximumMessageIds < records.length ∨
          command.messageIds.length = 0 ∨
          kMaximumMessageIds < command.messageIds.length then
        (.snapshotChanged, {})
      else planIds records {} command.messageIds

/-! ## Applying -/

/-- A received message is read now. -/
def Record.markedRead (record : Record) : Record :=
  if record.inbound && record.unread then { record with unread := false }
  else record

/-- Mark the rows that a plan names. -/
def applyPlan (output : Plan) (records : List Record) : List Record :=
  output.recordIndexes.foldl
    (fun records position => records.modify position Record.markedRead) records

/-- The rows after a command, as its caller changes them. -/
def markRead (currentJournalSession : UInt32) (command : Command)
    (records : List Record) : List Record :=
  match plan currentJournalSession command (some records) with
  | (.ok, output) => applyPlan output records
  | _ => records

end Kitsu.MessageRead

/-!
# The documented form of a command

`{"journal_session":"<uint32>","message_ids":["<uint32>", ...]}`, with the two
properties in either order and blanks between the tokens.  `Documented` states the
form token by token; every reader of the parser is shown to read exactly the tokens
it is for, and the parser to accept exactly the documented inputs.
-/

namespace Kitsu.MessageRead

open Kitsu.Lib.ByteString
open Kitsu.Lib.Decimal
open Kitsu.Lib.Spaced
open Kitsu.Companion.Base64Url (byte)
open Kitsu.Companion.Json (isSpace skipWhitespace)
open Kitsu.Chat (Command kMaximumMessageIds)

/-! ## The form -/

/-- A text between quotes. -/
def quoted (text : Bytes) : Bytes :=
  byte '"' :: (text ++ [byte '"'])

/-- The token of an identifier or of a session. -/
def numeral (value : UInt32) : Bytes :=
  quoted (decimal value.toNat)

/-- The identifiers of an array, behind its opening bracket. -/
def idTokens : List UInt32 → List Bytes
  | [] => []
  | [messageId] => [numeral messageId, [byte ']']]
  | messageId :: later => numeral messageId :: [byte ','] :: idTokens later

def sessionTokens (journalSession : UInt32) : List Bytes :=
  [quoted (ascii "journal_session"), [byte ':'], numeral journalSession]

/-- The tokens of the identifiers field. -/
def messageIdsTokens (messageIds : List UInt32) : List Bytes :=
  quoted (ascii "message_ids") :: [byte ':'] :: [byte '['] :: idTokens messageIds

def objectTokens (first second : List Bytes) : List Bytes :=
  [byte '\x7b'] :: (first ++ [byte ','] :: (second ++ [[byte '\x7d']]))

/-- The values that the contract allows. -/
structure Allowed (command : Command) : Prop where
  session : command.journalSession ≠ 0
  nonempty : command.messageIds ≠ []
  bounded : command.messageIds.length ≤ kMaximumMessageIds
  nonzero : ∀ messageId ∈ command.messageIds, messageId ≠ 0
  distinct : command.messageIds.Nodup

/-- The input consists of the tokens and of blanks. -/
def Consists (tokens : List Bytes) (input : Bytes) : Prop :=
  ∃ behind, Reads isSpace tokens input behind ∧ Blanks isSpace behind

/-- A text of the documented form, its fields in either order. -/
structure Documented (command : Command) (input : Bytes) : Prop where
  allowed : Allowed command
  form :
    Consists (objectTokens (sessionTokens command.journalSession)
        (messageIdsTokens command.messageIds)) input ∨
      Consists (objectTokens (messageIdsTokens command.messageIds)
        (sessionTokens command.journalSession)) input

/-! ## Tokens -/

section Tokens

variable {input rest text : Bytes} {expected : UInt8}

theorem consume_eq_some (visible : isSpace expected = false) :
    consume input expected = some rest ↔ Leads isSpace [expected] input rest := by
  rw [← dropWhile_eq_cons visible, consume, skipWhitespace]
  cases input.dropWhile isSpace with
  | nil => simp
  | cons next later =>
    by_cases same : next = expected
    · simp [same]
    · simp [same]

/-- A character that a string may hold. -/
def Plain (next : UInt8) : Prop :=
  next ≠ byte '"' ∧ ¬ (next < 0x20 ∨ 0x7e < next ∨ next = byte '\\')

instance : DecidablePred Plain :=
  fun _ => inferInstanceAs (Decidable (_ ∧ _))

theorem stringBody_eq_some :
    stringBody input = some (text, rest) ↔
      input = text ++ byte '"' :: rest ∧ ∀ next ∈ text, Plain next := by
  induction input generalizing text with
  | nil => simp [stringBody]
  | cons next later induction =>
    rw [stringBody]
    by_cases closing : next = byte '"'
    · rw [if_pos closing, Option.some.injEq, Prod.mk.injEq]
      constructor
      · rintro ⟨rfl, rfl⟩
        exact ⟨by rw [closing, List.nil_append], nofun⟩
      · rintro ⟨same, plain⟩
        cases text with
        | nil => exact ⟨rfl, (List.cons.inj same).2⟩
        | cons first others =>
          have front := (List.cons.inj same).1
          exact absurd (front.symm.trans closing)
            (plain first List.mem_cons_self).1
    · rw [if_neg closing]
      by_cases escaped : next < 0x20 ∨ 0x7e < next ∨ next = byte '\\'
      · rw [if_pos escaped]
        constructor
        · nofun
        · rintro ⟨same, plain⟩
          cases text with
          | nil => exact absurd (List.cons.inj same).1 closing
          | cons first others =>
            have front := (List.cons.inj same).1
            exact absurd (front ▸ escaped)
              (plain first List.mem_cons_self).2
      · rw [if_neg escaped, Option.map_eq_some_iff]
        constructor
        · rintro ⟨⟨others, behind⟩, read, same⟩
          rcases Prod.mk.inj same with ⟨rfl, rfl⟩
          rcases induction.mp read with ⟨rfl, plain⟩
          refine ⟨rfl, ?_⟩
          intro other member
          rcases List.mem_cons.mp member with rfl | member
          · exact ⟨closing, escaped⟩
          · exact plain other member
        · rintro ⟨same, plain⟩
          cases text with
          | nil => exact absurd (List.cons.inj same).1 closing
          | cons first others =>
            rcases List.cons.inj same with ⟨rfl, remaining⟩
            refine ⟨(others, rest), induction.mpr ⟨remaining, ?_⟩, rfl⟩
            intro other member
            exact plain other (List.mem_cons_of_mem next member)

theorem parseAsciiString_eq_some :
    parseAsciiString input = some (text, rest) ↔
      Leads isSpace (quoted text) input rest ∧ ∀ next ∈ text, Plain next := by
  have visible : isSpace (byte '"') = false := by decide
  rw [parseAsciiString, Option.bind_eq_some_iff, quoted, leads_cons,
    List.append_assoc, List.singleton_append]
  constructor
  · rintro ⟨body, opened, read⟩
    rcases stringBody_eq_some.mp read with ⟨rfl, plain⟩
    exact ⟨(consume_eq_some visible).mp opened, plain⟩
  · rintro ⟨leads, plain⟩
    exact ⟨_, (consume_eq_some visible).mpr leads,
      stringBody_eq_some.mpr ⟨rfl, plain⟩⟩

end Tokens

/-! ## Numbers -/

variable {next : UInt8}

section Numbers

variable {input rest token : Bytes} {value : UInt32}

theorem isDigit_iff : IsDigit next ↔ ¬ (next < byte '0' ∨ byte '9' < next) := by
  rw [not_or, UInt8.not_lt, UInt8.not_lt, UInt8.le_iff_toNat_le,
    UInt8.le_iff_toNat_le]
  exact Iff.rfl

/-- The bound is checked behind every digit, and a value never shrinks. -/
theorem digitsValue_eq_some {before after : Nat} (small : before ≤ 0xffffffff) :
    digitsValue before token = some after ↔
      (∀ next ∈ token, IsDigit next) ∧ valueFrom before token = after ∧
        after ≤ 0xffffffff := by
  induction token generalizing before with
  | nil =>
    rw [digitsValue, Option.some.injEq]
    constructor
    · rintro rfl
      exact ⟨nofun, rfl, small⟩
    · rintro ⟨-, same, -⟩
      exact same
  | cons next later induction =>
    rw [digitsValue, List.forall_mem_cons, isDigit_iff]
    by_cases other : next < byte '0' ∨ byte '9' < next
    · simp [other]
    · have grows := le_valueFrom (before * 10 + (next.toNat - 48)) later
      change _ ↔ _ ∧ valueFrom (before * 10 + (next.toNat - 48)) later = _ ∧ _
      simp only [other, if_false, not_false_eq_true, true_and]
      by_cases large : 0xffffffff < before * 10 + (next.toNat - 48)
      · rw [if_pos large]
        constructor
        · nofun
        · rintro ⟨-, rfl, bounded⟩
          omega
      · rw [if_neg large]
        exact induction (by omega)

/-- A token is read as a number exactly when it is its numeral. -/
theorem parseCanonicalNonzeroUint32_eq_some :
    parseCanonicalNonzeroUint32 token = some value ↔
      value ≠ 0 ∧ token = decimal value.toNat := by
  have positive : value ≠ 0 ↔ value.toNat ≠ 0 := by
    rw [ne_eq, ne_eq, ← UInt32.toNat_inj]
    exact Iff.rfl
  have bounded := value.toNat_lt
  constructor
  · intro read
    rw [parseCanonicalNonzeroUint32] at read
    split at read
    · cases read
    · rename_i plain
      rw [not_or, not_or] at plain
      rcases Option.bind_eq_some_iff.mp read with ⟨number, digits, accepted⟩
      rcases (digitsValue_eq_some (by decide)).mp digits with
        ⟨allDigits, rfl, fits⟩
      split at accepted
      · cases accepted
      · rename_i nonzero
        cases accepted
        have same : (UInt32.ofNat (valueFrom 0 token)).toNat =
            valueFrom 0 token := by
          rw [UInt32.toNat_ofNat', Nat.mod_eq_of_lt (by omega)]
        rw [positive, same]
        exact ⟨nonzero, (decimal_valueFrom allDigits plain.2.2).symm⟩
  · rintro ⟨nonzero, rfl⟩
    have nonzero := positive.mp nonzero
    rw [parseCanonicalNonzeroUint32, if_neg, Option.bind_eq_some_iff]
    · refine ⟨value.toNat, (digitsValue_eq_some (by decide)).mpr
        ⟨decimal_digits, valueFrom_decimal, by omega⟩, ?_⟩
      rw [if_neg nonzero, UInt32.ofNat_toNat]
    · rw [not_or, not_or]
      refine ⟨?_, ?_, head_decimal nonzero⟩
      · intro empty
        exact decimal_ne_nil nonzero (List.length_eq_zero_iff.mp empty)
      · exact Nat.not_lt.mpr (length_decimal (by omega))

theorem plain_of_isDigit (digit : IsDigit next) : Plain next := by
  rcases digit with ⟨low, high⟩
  constructor
  · rintro rfl
    exact absurd low (by decide)
  · rintro (control | beyond | rfl)
    · have below : next.toNat < 32 := UInt8.lt_iff_toNat_lt.mp control
      omega
    · have above : 126 < next.toNat := UInt8.lt_iff_toNat_lt.mp beyond
      omega
    · exact absurd high (by decide)

theorem parseQuotedUint32_eq_some :
    parseQuotedUint32 input = some (value, rest) ↔
      value ≠ 0 ∧ Leads isSpace (numeral value) input rest := by
  rw [parseQuotedUint32, Option.bind_eq_some_iff]
  constructor
  · rintro ⟨⟨text, behind⟩, read, taken⟩
    rcases Option.map_eq_some_iff.mp taken with ⟨number, parsed, same⟩
    rcases Prod.mk.inj same with ⟨rfl, rfl⟩
    rcases parseCanonicalNonzeroUint32_eq_some.mp parsed with ⟨nonzero, rfl⟩
    exact ⟨nonzero, (parseAsciiString_eq_some.mp read).1⟩
  · rintro ⟨nonzero, leads⟩
    refine ⟨(decimal value.toNat, rest), parseAsciiString_eq_some.mpr ⟨leads, ?_⟩,
      Option.map_eq_some_iff.mpr ⟨value, ?_, rfl⟩⟩
    · intro next member
      exact plain_of_isDigit (decimal_digits next member)
    · exact parseCanonicalNonzeroUint32_eq_some.mpr ⟨nonzero, rfl⟩

end Numbers

/-! ## Arrays -/

variable {messageId : UInt32}

variable {room : Nat}

section Arrays

variable {input rest : Bytes} {taken result messageIds : List UInt32}

theorem idTokens_cons (more : messageIds ≠ []) :
    idTokens (messageId :: messageIds) =
      numeral messageId :: [byte ','] :: idTokens messageIds := by
  cases messageIds with
  | nil => exact absurd rfl more
  | cons next later => rfl

/-- A character behind blanks is the next token. -/
theorem skipWhitespace_eq_cons (visible : isSpace next = false) :
    skipWhitespace input = next :: rest ↔ Leads isSpace [next] input rest :=
  dropWhile_eq_cons visible

/-- Identifiers that may follow those already taken. -/
structure Follows (room : Nat) (taken messageIds : List UInt32) : Prop where
  nonempty : messageIds ≠ []
  bounded : messageIds.length ≤ room
  nonzero : ∀ messageId ∈ messageIds, messageId ≠ 0
  fresh : ∀ messageId ∈ messageIds, messageId ∉ taken
  distinct : messageIds.Nodup

theorem Follows.single (nonzero : messageId ≠ 0) (fresh : messageId ∉ taken) :
    Follows (room + 1) taken [messageId] where
  nonempty := List.cons_ne_nil _ _
  bounded := Nat.le_add_left _ _
  nonzero := by
    intro other member
    rwa [List.mem_singleton.mp member]
  fresh := by
    intro other member
    rwa [List.mem_singleton.mp member]
  distinct := List.nodup_singleton _

theorem follows_cons (more : messageIds ≠ []) :
    Follows (room + 1) taken (messageId :: messageIds) ↔
      messageId ≠ 0 ∧ messageId ∉ taken ∧
        Follows room (taken ++ [messageId]) messageIds := by
  constructor
  · intro follows
    have split := List.nodup_cons.mp follows.distinct
    refine ⟨follows.nonzero _ List.mem_cons_self,
      follows.fresh _ List.mem_cons_self, more,
      Nat.le_of_succ_le_succ follows.bounded, ?_, ?_, split.2⟩
    · intro other member
      exact follows.nonzero other (List.mem_cons_of_mem _ member)
    · intro other member seen
      rcases List.mem_append.mp seen with before | same
      · exact follows.fresh other (List.mem_cons_of_mem _ member) before
      · exact split.1 (List.mem_singleton.mp same ▸ member)
  · rintro ⟨nonzero, fresh, follows⟩
    refine ⟨List.cons_ne_nil _ _, Nat.succ_le_succ follows.bounded, ?_, ?_, ?_⟩
    · exact List.forall_mem_cons.mpr ⟨nonzero, follows.nonzero⟩
    · refine List.forall_mem_cons.mpr ⟨fresh, ?_⟩
      intro other member before
      exact follows.fresh other member (List.mem_append_left _ before)
    · refine List.nodup_cons.mpr ⟨?_, follows.distinct⟩
      intro member
      exact follows.fresh messageId member
        (List.mem_append_right _ List.mem_cons_self)

/-- The loop reads an array of new identifiers up to its closing bracket. -/
theorem parseIds_eq_ok :
    parseIds room taken input = .ok (result, rest) ↔
      ∃ messageIds, result = taken ++ messageIds ∧ Follows room taken messageIds ∧
        Reads isSpace (idTokens messageIds) input rest := by
  have bracket : isSpace (byte ']') = false := by decide
  have comma : isSpace (byte ',') = false := by decide
  induction room generalizing taken input with
  | zero =>
    constructor
    · nofun
    · rintro ⟨messageIds, -, follows, -⟩
      exact absurd (List.length_eq_zero_iff.mp
        (Nat.le_zero.mp follows.bounded)) follows.nonempty
  | succ room induction =>
    rw [parseIds]
    constructor
    · intro parsed
      split at parsed
      · cases parsed
      · rename_i messageId behind quotedRead
        rcases parseQuotedUint32_eq_some.mp quotedRead with ⟨nonzero, leads⟩
        split at parsed
        · cases parsed
        · rename_i fresh
          split at parsed
          · cases parsed
          · rename_i next later skipped
            split at parsed
            · rename_i closing
              subst closing
              cases parsed
              exact ⟨[messageId], rfl, .single nonzero fresh, behind, leads,
                reads_singleton.mpr ((skipWhitespace_eq_cons bracket).mp skipped)⟩
            · split at parsed
              · cases parsed
              · rename_i separator
                rw [not_not.mp separator, skipWhitespace_eq_cons comma]
                  at skipped
                rcases induction.mp parsed with
                  ⟨others, rfl, follows, reads⟩
                refine ⟨messageId :: others, by rw [List.append_assoc]; rfl,
                  (follows_cons follows.nonempty).mpr
                    ⟨nonzero, fresh, follows⟩, ?_⟩
                rw [idTokens_cons follows.nonempty]
                exact ⟨behind, leads, later, skipped, reads⟩
    · rintro ⟨messageIds, rfl, follows, reads⟩
      cases messageIds with
      | nil => exact absurd rfl follows.nonempty
      | cons messageId others =>
        by_cases more : others = []
        · subst more
          rcases reads with ⟨behind, leads, closing⟩
          rw [parseQuotedUint32_eq_some.mpr
            ⟨follows.nonzero _ List.mem_cons_self, leads⟩]
          simp only [follows.fresh _ List.mem_cons_self, if_false]
          rw [(skipWhitespace_eq_cons bracket).mpr (reads_singleton.mp closing)]
          exact if_pos rfl
        · rcases (follows_cons more).mp follows with
            ⟨nonzero, fresh, follows⟩
          rw [idTokens_cons more] at reads
          rcases reads with ⟨behind, leads, later, separated, reads⟩
          rw [parseQuotedUint32_eq_some.mpr ⟨nonzero, leads⟩]
          simp only [fresh, if_false]
          rw [(skipWhitespace_eq_cons comma).mpr separated]
          exact induction.mpr
            ⟨others, by rw [List.append_assoc]; rfl, follows, reads⟩

/-- No array begins with its closing bracket. -/
theorem head_idTokens
    (reads : Reads isSpace (idTokens (messageId :: messageIds)) input rest) :
    (skipWhitespace input).head? = some (byte '"') := by
  have leads : ∃ behind,
      Leads isSpace (quoted (decimal messageId.toNat)) input behind := by
    cases messageIds with
    | nil => exact ⟨_, reads.choose_spec.1⟩
    | cons next later => exact ⟨_, reads.choose_spec.1⟩
  rcases leads with ⟨behind, leads⟩
  rw [(skipWhitespace_eq_cons (by decide)).mpr (leads_cons.mp leads)]
  rfl

theorem parseMessageIds_eq_ok :
    parseMessageIds input = .ok (messageIds, rest) ↔
      Follows kMaximumMessageIds [] messageIds ∧
        Reads isSpace ([byte '['] :: idTokens messageIds) input rest := by
  have opening : isSpace (byte '[') = false := by decide
  have visible : isSpace (byte '"') = false := by decide
  have skipped (behind : Bytes) (nonempty : messageIds ≠ []) :
      Reads isSpace (idTokens messageIds) (skipWhitespace behind) rest ↔
        Reads isSpace (idTokens messageIds) behind rest := by
    cases messageIds with
    | nil => exact absurd rfl nonempty
    | cons messageId later =>
      cases later with
      | nil =>
        rw [idTokens, reads_cons, reads_cons, numeral, quoted]
        simp only [skipWhitespace, leads_dropWhile visible]
      | cons next others =>
        rw [idTokens, reads_cons, reads_cons, numeral, quoted]
        · simp only [skipWhitespace, leads_dropWhile visible]
        · nofun
  rw [parseMessageIds]
  constructor
  · intro parsed
    split at parsed
    · cases parsed
    · rename_i behind opened
      dsimp only at parsed
      split at parsed
      · cases parsed
      · rcases parseIds_eq_ok.mp parsed with ⟨others, rfl, follows, reads⟩
        exact ⟨follows, behind, (consume_eq_some opening).mp opened,
          (skipped behind follows.nonempty).mp reads⟩
  · rintro ⟨follows, behind, opened, reads⟩
    rw [(consume_eq_some opening).mpr opened]
    have head : (skipWhitespace behind).head? = some (byte '"') := by
      cases messageIds with
      | nil => exact absurd rfl follows.nonempty
      | cons messageId later => exact head_idTokens reads
    dsimp only
    rw [head, if_neg (by decide)]
    exact parseIds_eq_ok.mpr
      ⟨messageIds, rfl, follows, (skipped behind follows.nonempty).mpr reads⟩

end Arrays

/-! ## Properties and commands -/

variable {command : Command}

section Commands

variable {input rest : Bytes} {seen later : Seen}

/-- A property's name and its colon are read at the front. -/
theorem key_eq_some {key : Bytes} :
    (∃ behind, parseAsciiString input = some (key, behind) ∧
        consume behind (byte ':') = some rest) ↔
      (∀ next ∈ key, Plain next) ∧
        Reads isSpace [quoted key, [byte ':']] input rest := by
  have colon : isSpace (byte ':') = false := by decide
  constructor
  · rintro ⟨behind, read, separated⟩
    rcases parseAsciiString_eq_some.mp read with ⟨leads, plain⟩
    exact ⟨plain, behind, leads,
      reads_singleton.mpr ((consume_eq_some colon).mp separated)⟩
  · rintro ⟨plain, behind, leads, separated⟩
    exact ⟨behind, parseAsciiString_eq_some.mpr ⟨leads, plain⟩,
      (consume_eq_some colon).mpr (reads_singleton.mp separated)⟩

/-- A property is its name with the colon and its value. -/
theorem reads_property {key : Bytes} {value : List Bytes} :
    Reads isSpace (quoted key :: [byte ':'] :: value) input rest ↔
      ∃ middle, Reads isSpace [quoted key, [byte ':']] input middle ∧
        Reads isSpace value middle rest := by
  rw [← reads_append]
  exact Iff.rfl

theorem plain_journalSession : ∀ next ∈ ascii "journal_session", Plain next :=
  forall_mem_of_all (by decide)

theorem plain_messageIds : ∀ next ∈ ascii "message_ids", Plain next :=
  forall_mem_of_all (by decide)

/-- One of the two properties, neither of which may come twice. -/
theorem parseField_eq_ok :
    parseField seen input = .ok (later, rest) ↔
      (∃ session, seen.journalSession = none ∧ session ≠ 0 ∧
        later = { seen with journalSession := some session } ∧
        Reads isSpace (sessionTokens session) input rest) ∨
      (∃ messageIds, seen.messageIds = none ∧
        Follows kMaximumMessageIds [] messageIds ∧
        later = { seen with messageIds := some messageIds } ∧
        Reads isSpace (messageIdsTokens messageIds) input rest) := by
  constructor
  · intro parsed
    rw [parseField] at parsed
    split at parsed
    · cases parsed
    · rename_i key behind read
      split at parsed
      · cases parsed
      · rename_i value separated
        have front := (key_eq_some.mp ⟨behind, read, separated⟩).2
        split at parsed
        · rename_i isSession
          subst isSession
          split at parsed
          · cases parsed
          · rename_i unseen
            split at parsed
            · cases parsed
            · rename_i session after number
              cases parsed
              rcases parseQuotedUint32_eq_some.mp number with ⟨nonzero, leads⟩
              exact .inl ⟨session, Option.not_isSome_iff_eq_none.mp unseen,
                nonzero, rfl,
                reads_property.mpr ⟨value, front, reads_singleton.mpr leads⟩⟩
        · split at parsed
          · rename_i isIds
            subst isIds
            split at parsed
            · cases parsed
            · rename_i unseen
              split at parsed
              · cases parsed
              · rename_i messageIds after array
                cases parsed
                rcases parseMessageIds_eq_ok.mp array with ⟨follows, reads⟩
                exact .inr ⟨messageIds, Option.not_isSome_iff_eq_none.mp unseen,
                  follows, rfl, reads_property.mpr ⟨value, front, reads⟩⟩
          · cases parsed
  · rintro (⟨session, unseen, nonzero, rfl, reads⟩ |
      ⟨messageIds, unseen, follows, rfl, reads⟩)
    · rcases reads_property.mp reads with ⟨value, front, number⟩
      rcases key_eq_some.mpr ⟨plain_journalSession, front⟩ with
        ⟨behind, read, separated⟩
      rw [parseField, read]
      dsimp only
      rw [separated]
      dsimp only
      rw [if_pos rfl, if_neg (by rw [unseen]; exact Bool.false_ne_true),
        parseQuotedUint32_eq_some.mpr ⟨nonzero, reads_singleton.mp number⟩]
    · rcases reads_property.mp reads with ⟨value, front, array⟩
      rcases key_eq_some.mpr ⟨plain_messageIds, front⟩ with
        ⟨behind, read, separated⟩
      rw [parseField, read]
      dsimp only
      rw [separated]
      dsimp only
      rw [if_neg (by decide), if_pos rfl,
        if_neg (by rw [unseen]; exact Bool.false_ne_true),
        parseMessageIds_eq_ok.mpr ⟨follows, array⟩]

theorem parseEnd_eq_ok :
    parseEnd seen input = .ok command ↔
      seen = ⟨some command.journalSession, some command.messageIds⟩ ∧
        Consists [[byte '\x7d']] input := by
  have closing : isSpace (byte '\x7d') = false := by decide
  rcases seen with ⟨session, messageIds⟩
  constructor
  · intro parsed
    rw [parseEnd] at parsed
    split at parsed
    · rename_i session messageIds behind hasSession hasIds closed
      split at parsed
      · rename_i blanks
        cases parsed
        cases hasSession
        cases hasIds
        exact ⟨rfl, behind,
          reads_singleton.mpr ((consume_eq_some closing).mp closed),
          dropWhile_eq_nil.mp blanks⟩
      · cases parsed
    · cases parsed
  · rintro ⟨same, behind, reads, blanks⟩
    cases same
    rw [parseEnd, (consume_eq_some closing).mpr (reads_singleton.mp reads)]
    exact if_pos (dropWhile_eq_nil.mpr blanks)

theorem allowed_iff :
    Allowed command ↔ command.journalSession ≠ 0 ∧
      Follows kMaximumMessageIds [] command.messageIds := by
  constructor
  · intro allowed
    exact ⟨allowed.session, allowed.nonempty, allowed.bounded, allowed.nonzero,
      fun _ _ => List.not_mem_nil, allowed.distinct⟩
  · rintro ⟨session, follows⟩
    exact ⟨session, follows.nonempty, follows.bounded, follows.nonzero,
      follows.distinct⟩

/-- The tokens of an object, cut where the parser cuts them. -/
theorem consists_object {first second : List Bytes} :
    Consists (objectTokens first second) input ↔
      ∃ body middle next behind,
        Leads isSpace [byte '\x7b'] input body ∧
          Reads isSpace first body middle ∧
          Leads isSpace [byte ','] middle next ∧
          Reads isSpace second next behind ∧
          Consists [[byte '\x7d']] behind := by
  constructor
  · rintro ⟨last, ⟨body, opened, reads⟩, blanks⟩
    rcases reads_append.mp reads with ⟨middle, before, next, separated, after⟩
    rcases reads_append.mp after with ⟨behind, other, closed⟩
    exact ⟨body, middle, next, behind, opened, before, separated, other, last,
      closed, blanks⟩
  · rintro ⟨body, middle, next, behind, opened, before, separated, other, last,
      closed, blanks⟩
    exact ⟨last, ⟨body, opened, reads_append.mpr
      ⟨middle, before, next, separated, reads_append.mpr
        ⟨behind, other, closed⟩⟩⟩, blanks⟩

/-- The parser accepts the documented inputs, with their values, and no others. -/
theorem parseCommand_eq_ok :
    parseCommand input = .ok command ↔ Documented command input := by
  have opening : isSpace (byte '\x7b') = false := by decide
  have comma : isSpace (byte ',') = false := by decide
  constructor
  · intro parsed
    rw [parseCommand] at parsed
    split at parsed
    · cases parsed
    · rename_i body opened
      split at parsed
      · cases parsed
      · rename_i once middle first
        split at parsed
        · cases parsed
        · rename_i next separated
          split at parsed
          · cases parsed
          · rename_i both behind second
            have opened := (consume_eq_some opening).mp opened
            have separated := (consume_eq_some comma).mp separated
            rcases parseEnd_eq_ok.mp parsed with ⟨same, closed⟩
            rcases parseField_eq_ok.mp first with
              ⟨session, -, nonzero, rfl, before⟩ |
              ⟨messageIds, -, follows, rfl, before⟩
            · rcases parseField_eq_ok.mp second with
                ⟨_, seen, -⟩ | ⟨messageIds, -, follows, rfl, after⟩
              · cases seen
              · cases same
                exact ⟨allowed_iff.mpr ⟨nonzero, follows⟩, .inl
                  (consists_object.mpr ⟨body, middle, next, behind, opened,
                    before, separated, after, closed⟩)⟩
            · rcases parseField_eq_ok.mp second with
                ⟨session, -, nonzero, rfl, after⟩ | ⟨_, seen, -⟩
              · cases same
                exact ⟨allowed_iff.mpr ⟨nonzero, follows⟩, .inr
                  (consists_object.mpr ⟨body, middle, next, behind, opened,
                    before, separated, after, closed⟩)⟩
              · cases seen
  · rintro ⟨allowed, form⟩
    rcases allowed_iff.mp allowed with ⟨nonzero, follows⟩
    rcases form with form | form
    · rcases consists_object.mp form with ⟨body, middle, next, behind, opened,
        before, separated, after, closed⟩
      rw [parseCommand, (consume_eq_some opening).mpr opened]
      dsimp only
      rw [parseField_eq_ok.mpr (.inl ⟨_, rfl, nonzero, rfl, before⟩)]
      dsimp only
      rw [(consume_eq_some comma).mpr separated]
      dsimp only
      rw [parseField_eq_ok.mpr (.inr ⟨_, rfl, follows, rfl, after⟩)]
      exact parseEnd_eq_ok.mpr ⟨rfl, closed⟩
    · rcases consists_object.mp form with ⟨body, middle, next, behind, opened,
        before, separated, after, closed⟩
      rw [parseCommand, (consume_eq_some opening).mpr opened]
      dsimp only
      rw [parseField_eq_ok.mpr (.inr ⟨_, rfl, follows, rfl, before⟩)]
      dsimp only
      rw [(consume_eq_some comma).mpr separated]
      dsimp only
      rw [parseField_eq_ok.mpr (.inl ⟨_, rfl, nonzero, rfl, after⟩)]
      exact parseEnd_eq_ok.mpr ⟨rfl, closed⟩

end Commands

end Kitsu.MessageRead
