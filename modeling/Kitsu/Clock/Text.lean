import Kitsu.Clock.Civil
import Kitsu.Companion.Base64Url

/-!
# Times as text

The clock prints and reads ISO 8601 in one form only, with a zone that is never
left out.  An instant that was printed is read back as the same instant with the
same milliseconds and the same offset.
-/

namespace Kitsu.Clock

open Kitsu.Lib.ByteString
open Kitsu.Companion.Base64Url (byte)

/-- What a call of the clock answers. -/
inductive ClockResult where
  | ok
  | notSet
  | invalidArgument
  | invalidSource
  | invalidIso8601
  | invalidUnixText
  | outOfRange
  | networkTimeNotSynchronized
  | monotonicDiscontinuity
  | badSnapshotMagic
  | unsupportedSnapshot
  | corruptSnapshot
  | invalidSnapshot
deriving DecidableEq, Repr

/-- An instant as it was read, with its offset. -/
structure ParsedIso8601 where
  unixSeconds : Nat
  millisecond : Nat
  utcOffsetMinutes : Int
deriving DecidableEq, Repr

def kClockIso8601BufferBytes : Nat := 30

/-! ## Printing -/

def digitCode (digit : Nat) : UInt8 :=
  (48 + digit % 10).toUInt8

/-- An unsigned number with at least so many digits. -/
def printPadded : Nat → Nat → Bytes
  | 0, value =>
    if value = 0 then []
    else (Nat.toDigits 10 value).map byte
  | width + 1, value =>
    printPadded width (value / 10) ++ [digitCode (value % 10)]

/-- The zone at the end of a time. -/
def printZone (utcOffsetMinutes : Int) : Bytes :=
  if utcOffsetMinutes = 0 then ascii "Z"
  else
    let sign := if utcOffsetMinutes < 0 then byte '-' else byte '+'
    let magnitude := utcOffsetMinutes.natAbs
    sign :: (printPadded 2 (magnitude / 60) ++ ascii ":" ++
      printPadded 2 (magnitude % 60))

/-- The milliseconds behind a point, unless there are none. -/
def printMillisecond (millisecond : Nat) : Bytes :=
  if millisecond = 0 then [] else ascii "." ++ printPadded 3 millisecond

/-- The text that goes into a buffer of this size with its terminator. -/
def formatIso8601 (unixSeconds millisecond : Nat) (utcOffsetMinutes : Int)
    (outputBytes : Nat) : Except ClockResult Bytes :=
  if outputBytes = 0 then .error .invalidArgument
  else if !validOffset utcOffsetMinutes ||
      !validInstant unixSeconds millisecond then .error .outOfRange
  else
    let civil := unixToCivil unixSeconds utcOffsetMinutes
    let written := printPadded 4 civil.year ++ ascii "-" ++
      printPadded 2 civil.month ++ ascii "-" ++ printPadded 2 civil.day ++
      ascii "T" ++ printPadded 2 civil.hour ++ ascii ":" ++
      printPadded 2 civil.minute ++ ascii ":" ++
      printPadded 2 civil.second ++ printMillisecond millisecond ++
      printZone utcOffsetMinutes
    if written.length ≥ outputBytes then .error .invalidArgument
    else .ok written

/-! ## Reading -/

def isDigit (character : UInt8) : Bool :=
  byte '0' ≤ character && character ≤ byte '9'

def digitValue (character : UInt8) : Nat :=
  character.toNat - 48

/-- A number of so many digits, going on from a value. -/
def parseDigitsFrom : Nat → Nat → Bytes → Option (Nat × Bytes)
  | 0, value, rest => some (value, rest)
  | _ + 1, _, [] => none
  | count + 1, value, digit :: rest =>
    if isDigit digit then
      parseDigitsFrom count (value * 10 + digitValue digit) rest
    else none

/-- The value of so many digits. -/
def parseDigits (count : Nat) (cursor : Bytes) : Option (Nat × Bytes) :=
  parseDigitsFrom count 0 cursor

/-- The character that is expected next. -/
def consume (expected : Char) : Bytes → Option Bytes
  | [] => none
  | first :: rest => if first = byte expected then some rest else none

/-- Up to three digits behind a point; they are thousandths. -/
def parseMillisecond (cursor : Bytes) : Option (Nat × Bytes) :=
  if cursor.head? = some (byte '.') then
    let digits := (cursor.drop 1).takeWhile isDigit
    if digits.length > 3 || digits.length = 0 then none
    else
      some (digits.foldl (fun value digit => value * 10 + digitValue digit) 0 *
        10 ^ (3 - digits.length), (cursor.drop 1).dropWhile isDigit)
  else some (0, cursor)

/-- The offset of a time: none, or hours and minutes. -/
def parseZone (cursor : Bytes) : Option (Int × Bytes) :=
  if cursor.head? = some (byte 'Z') then some (0, cursor.drop 1)
  else if cursor.head? = some (byte '+') ∨
      cursor.head? = some (byte '-') then do
    let (offsetHour, rest) ← parseDigits 2 (cursor.drop 1)
    let rest ← consume ':' rest
    let (offsetMinute, rest) ← parseDigits 2 rest
    if offsetHour > 14 || offsetMinute > 59 ||
        (offsetHour = 14 && offsetMinute ≠ 0) then none
    else
      let magnitude : Int := offsetHour * 60 + offsetMinute
      some (if cursor.head? = some (byte '-') then -magnitude else magnitude,
        rest)
  else none

/-- The date and the time of day. -/
def parseCivil (cursor : Bytes) : Option (Civil × Bytes) := do
  let (year, rest) ← parseDigits 4 cursor
  let rest ← consume '-' rest
  let (month, rest) ← parseDigits 2 rest
  let rest ← consume '-' rest
  let (day, rest) ← parseDigits 2 rest
  let rest ← consume 'T' rest
  let (hour, rest) ← parseDigits 2 rest
  let rest ← consume ':' rest
  let (minute, rest) ← parseDigits 2 rest
  let rest ← consume ':' rest
  let (second, rest) ← parseDigits 2 rest
  some ({ year, month, day, hour, minute, second }, rest)

/-- What a text says, before the instant is computed. -/
def parseFields (input : Bytes) : Option (Civil × Nat × Int) := do
  let (civil, rest) ← parseCivil input
  let (millisecond, rest) ← parseMillisecond rest
  let (offsetMinutes, rest) ← parseZone rest
  -- A string ends at its terminator.
  if rest.headD 0 ≠ 0 then none
  else some (civil, millisecond, offsetMinutes)

/-- The instant that a date and time stand for. -/
def parseIso8601 (input : Bytes) : Except ClockResult ParsedIso8601 :=
  match parseFields input with
  | none => .error .invalidIso8601
  | some (civil, millisecond, utcOffsetMinutes) =>
    match civilToUnix civil utcOffsetMinutes with
    | none => .error .invalidIso8601
    | some unixSeconds =>
      if !validInstant unixSeconds millisecond then .error .outOfRange
      else .ok { unixSeconds, millisecond, utcOffsetMinutes }

/-- One more digit of an unsigned number of 64 bits. -/
def unixDigit (candidate : Nat) (character : UInt8) :
    Except ClockResult Nat :=
  if !isDigit character then .error .invalidUnixText
  else if candidate > (0xffffffffffffffff - digitValue character) / 10 then
    .error .outOfRange
  else .ok (candidate * 10 + digitValue character)

/-- The instant that decimal digits stand for. -/
def parseUnixText (input : Bytes) : Except ClockResult Nat :=
  let text := input.takeWhile (· != 0)
  if text = [] then .error .invalidUnixText
  else
    match text.foldlM unixDigit 0 with
    | .error result => .error result
    | .ok candidate =>
      if !validInstant candidate 0 then .error .outOfRange
      else .ok candidate

/-! ## Numbers -/

section Numbers

variable {width value start : Nat} {rest text : Bytes}

theorem digitCode_toNat (digit : Nat) :
    (digitCode digit).toNat = 48 + digit % 10 := by
  unfold digitCode
  rw [Nat.toUInt8, UInt8.toNat_ofNat']
  omega

theorem isDigit_iff {character : UInt8} :
    isDigit character = true ↔
      48 ≤ character.toNat ∧ character.toNat ≤ 57 := by
  have zero : byte '0' = 48 := by decide
  have nine : byte '9' = 57 := by decide
  rw [isDigit, Bool.and_eq_true, decide_eq_true_iff, decide_eq_true_iff,
    zero, nine, UInt8.le_iff_toNat_le, UInt8.le_iff_toNat_le]
  rfl

theorem isDigit_digitCode (digit : Nat) : isDigit (digitCode digit) = true := by
  rw [isDigit_iff, digitCode_toNat]
  omega

/-- The last digit can be read on its own. -/
theorem parseDigitsFrom_succ (count value : Nat) (cursor : Bytes) :
    parseDigitsFrom (count + 1) value cursor =
      (parseDigitsFrom count value cursor).bind fun read =>
        parseDigitsFrom 1 read.1 read.2 := by
  induction count generalizing value cursor with
  | zero => rfl
  | succ count induction =>
    cases cursor with
    | nil => rfl
    | cons digit later =>
      rw [parseDigitsFrom]
      conv => rhs; rw [parseDigitsFrom]
      split
      · exact induction _ _
      · rfl

theorem parseDigits_printPadded (small : value < 10 ^ width) :
    parseDigitsFrom width start (printPadded width value ++ rest) =
      some (start * 10 ^ width + value, rest) := by
  induction width generalizing value rest with
  | zero =>
    have zero : value = 0 := by omega
    simp [printPadded, parseDigitsFrom, zero]
  | succ width induction =>
    have front : value / 10 < 10 ^ width := by
      omega
    rw [printPadded, List.append_assoc, parseDigitsFrom_succ,
      induction front, Option.bind_some, List.singleton_append,
      parseDigitsFrom, if_pos (isDigit_digitCode _), parseDigitsFrom]
    have last : digitValue (digitCode (value % 10)) = value % 10 := by
      rw [digitValue, digitCode_toNat]
      omega
    have whole : (start * 10 ^ width + value / 10) * 10 + value % 10 =
        start * 10 ^ (width + 1) + value := by
      rw [Nat.pow_succ, ← Nat.mul_assoc]
      omega
    simp only [last, whole]

theorem length_printPadded (small : value < 10 ^ width) :
    (printPadded width value).length = width := by
  induction width generalizing value with
  | zero =>
    have zero : value = 0 := by omega
    simp [printPadded, zero]
  | succ width induction =>
    have front : value / 10 < 10 ^ width := by
      omega
    rw [printPadded, List.length_append, induction front]
    rfl

theorem isDigit_printPadded (small : value < 10 ^ width) :
    ∀ character ∈ printPadded width value, isDigit character = true := by
  induction width generalizing value with
  | zero =>
    have zero : value = 0 := by omega
    simp [printPadded, zero]
  | succ width induction =>
    have front : value / 10 < 10 ^ width := by
      omega
    intro character member
    rcases List.mem_append.mp member with earlier | last
    · exact induction front character earlier
    · rw [List.mem_singleton.mp last]
      exact isDigit_digitCode _

/-- Reading digits is a fold over them. -/
theorem parseDigitsFrom_fold (digits : ∀ character ∈ text,
    isDigit character = true) :
    parseDigitsFrom text.length start (text ++ rest) =
      some (text.foldl (fun value digit => value * 10 + digitValue digit)
        start, rest) := by
  induction text generalizing start with
  | nil => rfl
  | cons digit text induction =>
    rw [List.length_cons, List.cons_append, parseDigitsFrom,
      if_pos (digits digit List.mem_cons_self), List.foldl_cons]
    apply induction
    intro character member
    exact digits character (List.mem_cons_of_mem digit member)

theorem fold_printPadded (small : value < 10 ^ width) :
    (printPadded width value).foldl
      (fun value digit => value * 10 + digitValue digit) 0 = value := by
  have read := @parseDigits_printPadded width value 0 [] small
  have fold := @parseDigitsFrom_fold 0 [] _ (isDigit_printPadded small)
  rw [length_printPadded small, read] at fold
  simpa using fold.symm

end Numbers

/-! ## Round trip -/

variable {unixSeconds : Nat}

section RoundTrip

variable {civil : Civil} {millisecond : Nat} {utcOffsetMinutes : Int}
  {rest : Bytes}

theorem parseDigits_two {value : Nat} (small : value < 100) (rest : Bytes) :
    parseDigits 2 (printPadded 2 value ++ rest) = some (value, rest) := by
  have read := @parseDigits_printPadded 2 value 0 rest small
  rwa [Nat.zero_mul, Nat.zero_add] at read

theorem consume_mark (mark : Char) (rest : Bytes) :
    consume mark ([byte mark] ++ rest) = some rest :=
  if_pos rfl

/-- The columns of a date and a time of day. -/
def printCivil (civil : Civil) : Bytes :=
  printPadded 4 civil.year ++ (ascii "-" ++ (printPadded 2 civil.month ++
    (ascii "-" ++ (printPadded 2 civil.day ++ (ascii "T" ++
      (printPadded 2 civil.hour ++ (ascii ":" ++
        (printPadded 2 civil.minute ++ (ascii ":" ++
          printPadded 2 civil.second)))))))))

/-- The fields fit their columns. -/
structure Columns (civil : Civil) : Prop where
  year : civil.year < 10000
  month : civil.month < 100
  day : civil.day < 100
  hour : civil.hour < 100
  minute : civil.minute < 100
  second : civil.second < 100

theorem parseCivil_printCivil (columns : Columns civil) (rest : Bytes) :
    parseCivil (printCivil civil ++ rest) = some (civil, rest) := by
  have year := @parseDigits_printPadded 4 civil.year 0
    (ascii "-" ++ (printPadded 2 civil.month ++ (ascii "-" ++
      (printPadded 2 civil.day ++ (ascii "T" ++
        (printPadded 2 civil.hour ++ (ascii ":" ++
          (printPadded 2 civil.minute ++ (ascii ":" ++
            (printPadded 2 civil.second ++ rest)))))))))) columns.year
  have minus : ascii "-" = [byte '-'] := by decide
  have colon : ascii ":" = [byte ':'] := by decide
  have middle : ascii "T" = [byte 'T'] := by decide
  rw [Nat.zero_mul, Nat.zero_add] at year
  unfold parseCivil printCivil
  simp only [List.append_assoc]
  rw [parseDigits, year]
  simp only [Option.bind_eq_bind, Option.bind_some, minus, colon, middle,
    consume_mark, parseDigits_two columns.month,
    parseDigits_two columns.day, parseDigits_two columns.hour,
    parseDigits_two columns.minute, parseDigits_two columns.second]

theorem parseZone_printZone (valid : validOffset utcOffsetMinutes = true) :
    parseZone (printZone utcOffsetMinutes) = some (utcOffsetMinutes, []) := by
  have bounds := validOffset_iff.mp valid
  unfold printZone
  split
  · rename_i zero
    rw [zero]
    rfl
  · rename_i nonzero
    have colon : ascii ":" = [byte ':'] := by decide
    have hours : utcOffsetMinutes.natAbs / 60 < 100 := by omega
    have minutes : utcOffsetMinutes.natAbs % 60 < 100 := by omega
    have plus : byte '+' ≠ byte 'Z' ∧ byte '+' ≠ byte '-' := by decide
    have minus : byte '-' ≠ byte 'Z' := by decide
    have parsed : parseDigits 2 (printPadded 2
        (utcOffsetMinutes.natAbs / 60) ++ ([byte ':'] ++ printPadded 2
          (utcOffsetMinutes.natAbs % 60))) =
        some (utcOffsetMinutes.natAbs / 60, [byte ':'] ++ printPadded 2
          (utcOffsetMinutes.natAbs % 60)) := parseDigits_two hours _
    have later : parseDigits 2 (printPadded 2 (utcOffsetMinutes.natAbs % 60)) =
        some (utcOffsetMinutes.natAbs % 60, []) := by
      have read := parseDigits_two minutes []
      rwa [List.append_nil] at read
    have magnitude : ((utcOffsetMinutes.natAbs / 60 : Nat) : Int) * 60 +
        (utcOffsetMinutes.natAbs % 60 : Nat) = utcOffsetMinutes.natAbs := by
      omega
    unfold parseZone
    split
    · rename_i negative
      simp only [colon, List.head?_cons, List.drop_succ_cons,
        List.drop_zero, List.append_assoc, Option.some.injEq, minus,
        if_false, or_true, if_true, parsed, Option.bind_eq_bind,
        Option.bind_some, consume_mark, later, magnitude]
      rw [if_neg (by simp; omega)]
      congr 2
      omega
    · rename_i positive
      simp only [colon, List.head?_cons, List.drop_succ_cons,
        List.drop_zero, List.append_assoc, Option.some.injEq, plus.1,
        plus.2, if_false, true_or, if_true, parsed, Option.bind_eq_bind,
        Option.bind_some, consume_mark, later, magnitude]
      rw [if_neg (by simp; omega)]
      congr 2
      omega

/-- A zone starts with a letter or a sign, and has six characters at most. -/
theorem printZone_head (utcOffsetMinutes : Int) :
    ∃ mark rest, printZone utcOffsetMinutes = mark :: rest ∧
      mark ≠ byte '.' ∧ isDigit mark = false := by
  unfold printZone
  split
  · exact ⟨byte 'Z', [], by decide, by decide, by decide⟩
  · simp only
    split
    · exact ⟨byte '-', _, rfl, by decide, by decide⟩
    · exact ⟨byte '+', _, rfl, by decide, by decide⟩

theorem length_printZone (valid : validOffset utcOffsetMinutes = true) :
    (printZone utcOffsetMinutes).length ≤ 6 := by
  have bounds := validOffset_iff.mp valid
  unfold printZone
  split
  · decide
  · have hours : utcOffsetMinutes.natAbs / 60 < 10 ^ 2 := by omega
    have minutes : utcOffsetMinutes.natAbs % 60 < 10 ^ 2 := by omega
    have colon : (ascii ":").length = 1 := by decide
    simp [length_printPadded hours, length_printPadded minutes, colon]

/-- The milliseconds end where the zone starts. -/
theorem parseMillisecond_print (small : millisecond < 1000)
    (utcOffsetMinutes : Int) :
    parseMillisecond (printMillisecond millisecond ++ printZone utcOffsetMinutes) =
        some (millisecond, printZone utcOffsetMinutes) := by
  obtain ⟨mark, later, zone, noPoint, noDigit⟩ :=
    printZone_head utcOffsetMinutes
  unfold printMillisecond
  split
  · rename_i zero
    rw [List.nil_append, zone, parseMillisecond, if_neg, zero]
    rw [List.head?_cons, Option.some.injEq]
    exact noPoint
  · have digits := @isDigit_printPadded 3 millisecond (by omega)
    have length := @length_printPadded 3 millisecond (by omega)
    have value := @fold_printPadded 3 millisecond (by omega)
    have point : ascii "." = [byte '.'] := by decide
    have taken : (printPadded 3 millisecond ++
        printZone utcOffsetMinutes).takeWhile isDigit =
          printPadded 3 millisecond := by
      rw [List.takeWhile_append_of_pos digits, zone, List.takeWhile_cons, noDigit]
      exact List.append_nil _
    have dropped : (printPadded 3 millisecond ++
        printZone utcOffsetMinutes).dropWhile isDigit =
          printZone utcOffsetMinutes := by
      rw [List.dropWhile_append_of_pos digits, zone, List.dropWhile_cons, noDigit]
      rfl
    unfold parseMillisecond
    simp only [point, List.cons_append, List.nil_append, List.head?_cons,
      List.drop_succ_cons, List.drop_zero, if_true, taken, dropped, length, value]
    rw [if_neg (by decide), Nat.sub_self, Nat.pow_zero, Nat.mul_one]

theorem length_printMillisecond (small : millisecond < 1000) :
    (printMillisecond millisecond).length ≤ 4 := by
  unfold printMillisecond
  split
  · decide
  · have point : (ascii ".").length = 1 := by decide
    rw [List.length_append, point, length_printPadded (by omega)]

theorem length_printCivil (columns : Columns civil) :
    (printCivil civil).length = 19 := by
  have marks : (ascii "-").length = 1 ∧ (ascii "T").length = 1 ∧
      (ascii ":").length = 1 := by decide
  unfold printCivil
  simp only [List.length_append, marks.1, marks.2.1, marks.2.2]
  rw [length_printPadded columns.year, length_printPadded columns.month,
    length_printPadded columns.day, length_printPadded columns.hour,
    length_printPadded columns.minute, length_printPadded columns.second]

theorem validInstant_iff :
    validInstant unixSeconds millisecond = true ↔
      InRange unixSeconds ∧ millisecond < 1000 ∧
        (unixSeconds = kMaximumClockUnixSeconds → millisecond = 0) := by
  unfold validInstant InRange kMinimumClockUnixSeconds
    kMaximumClockUnixSeconds
  split
  · rename_i refused
    simp only [Bool.or_eq_true, decide_eq_true_eq] at refused
    constructor
    · intro impossible
      cases impossible
    · rintro ⟨⟨_, _⟩, _, _⟩
      omega
  · rename_i accepted
    simp only [Bool.or_eq_true, decide_eq_true_eq, not_or] at accepted
    rw [Bool.or_eq_true, decide_eq_true_iff, decide_eq_true_iff]
    omega

theorem columns_unixToCivil (inRange : InRange unixSeconds)
    (valid : validOffset utcOffsetMinutes = true) :
    Columns (unixToCivil unixSeconds utcOffsetMinutes) := by
  obtain ⟨year, month, day, hour, minute, second⟩ :=
    unixToCivil_bounds inRange valid
  exact ⟨year, month, day, hour, minute, second⟩

/-- What is printed for an instant, and that the buffer of the clock holds
it. -/
theorem formatIso8601_eq (instant : validInstant unixSeconds millisecond = true)
    (offset : validOffset utcOffsetMinutes = true) :
    formatIso8601 unixSeconds millisecond utcOffsetMinutes
      kClockIso8601BufferBytes =
        .ok (printCivil (unixToCivil unixSeconds utcOffsetMinutes) ++
          (printMillisecond millisecond ++ printZone utcOffsetMinutes)) := by
  obtain ⟨inRange, small, _⟩ := validInstant_iff.mp instant
  have columns := columns_unixToCivil inRange offset
  have front := length_printCivil columns
  have middle := length_printMillisecond small
  have last := length_printZone offset
  have written : printPadded 4 (unixToCivil unixSeconds
      utcOffsetMinutes).year ++ ascii "-" ++ printPadded 2 (unixToCivil
      unixSeconds utcOffsetMinutes).month ++ ascii "-" ++ printPadded 2
      (unixToCivil unixSeconds utcOffsetMinutes).day ++ ascii "T" ++
      printPadded 2 (unixToCivil unixSeconds utcOffsetMinutes).hour ++
      ascii ":" ++ printPadded 2 (unixToCivil unixSeconds
      utcOffsetMinutes).minute ++ ascii ":" ++ printPadded 2 (unixToCivil
      unixSeconds utcOffsetMinutes).second ++ printMillisecond millisecond ++
      printZone utcOffsetMinutes =
        printCivil (unixToCivil unixSeconds utcOffsetMinutes) ++
          (printMillisecond millisecond ++ printZone utcOffsetMinutes) := by
    unfold printCivil
    simp only [List.append_assoc]
  unfold formatIso8601
  rw [if_neg (by decide), if_neg (by simp [offset, instant])]
  simp only [written]
  rw [if_neg]
  rw [List.length_append, List.length_append, front, kClockIso8601BufferBytes]
  omega

/-- An instant of the clock is shown in the buffer that the clock keeps for it
and read back exactly, in every zone; and dates and instants determine each
other. -/
theorem iso8601_roundTrip :
    (∀ unixSeconds millisecond utcOffsetMinutes,
      validInstant unixSeconds millisecond = true →
      validOffset utcOffsetMinutes = true →
      ∃ text, formatIso8601 unixSeconds millisecond utcOffsetMinutes
          kClockIso8601BufferBytes = .ok text ∧ parseIso8601 text =
          .ok { unixSeconds, millisecond, utcOffsetMinutes }) ∧
      ∀ unixSeconds utcOffsetMinutes, InRange unixSeconds →
        validOffset utcOffsetMinutes = true →
        civilToUnix (unixToCivil unixSeconds utcOffsetMinutes)
            utcOffsetMinutes = some unixSeconds ∧
          ∀ civil, civilToUnix civil utcOffsetMinutes = some unixSeconds →
            unixToCivil unixSeconds utcOffsetMinutes = civil := by
  constructor
  · intro unixSeconds millisecond utcOffsetMinutes instant offset
    obtain ⟨inRange, small, _⟩ := validInstant_iff.mp instant
    refine ⟨_, formatIso8601_eq instant offset, ?_⟩
    have fields : parseFields (printCivil (unixToCivil unixSeconds
        utcOffsetMinutes) ++ (printMillisecond millisecond ++
          printZone utcOffsetMinutes)) =
        some (unixToCivil unixSeconds utcOffsetMinutes, millisecond,
          utcOffsetMinutes) := by
      unfold parseFields
      rw [parseCivil_printCivil (columns_unixToCivil inRange offset)]
      simp only [Option.bind_eq_bind, Option.bind_some,
        parseMillisecond_print small, parseZone_printZone offset]
      rfl
    rw [parseIso8601, fields]
    simp only [civilToUnix_unixToCivil inRange offset, instant]
    rfl
  · intro unixSeconds utcOffsetMinutes inRange offset
    constructor
    · exact civilToUnix_unixToCivil inRange offset
    · intro civil converted
      exact unixToCivil_civilToUnix converted inRange

end RoundTrip

end Kitsu.Clock
