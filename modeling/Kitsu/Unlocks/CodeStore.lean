import Kitsu.Crc32
import Kitsu.Lib.Run

/-!
# Unlock codes

The code functions of `kitsu_unlock_codes.cpp`.  A code is fifteen base-32
characters behind `K8`, in groups of five.  The normaliser drops separators, folds
case and strips the mark only from seventeen characters, so that a bare code may
begin with the same two characters.  Its output is the one form in which codes are
stored and compared.
-/

namespace Kitsu.Unlocks

open Kitsu.Lib.ByteString
open Kitsu.Crc32

abbrev kCodeCharacters : Nat := 15

/-- `K8-XXXXX-XXXXX-XXXXX` and its terminator. -/
abbrev kFormattedCodeBytes : Nat := 21

/-- The characters of a code; those that look alike are left out. -/
def kAlphabet : Bytes :=
  ascii "0123456789ABCDEFGHJKMNPQRSTVWXYZ"

def kDash : UInt8 := 0x2d

/-- A code in its stored form. -/
abbrev FormattedCode : Type := ByteVec kFormattedCodeBytes

/-! ## Texts in memory -/

/-- The bytes before the terminator. -/
def cString (stored : Bytes) : Bytes :=
  stored.takeWhile (· != 0)

/-- The length of a text, or one more than the capacity when it has no end. -/
def boundedLength (value : Bytes) (capacity : Nat) : Nat :=
  (cString (value.take (capacity + 1))).length

/-! ## Writing a code -/

/-- The characters with a dash after the fifth and the tenth. -/
def grouped (characters : Nat) : Bytes → Bytes
  | [] => []
  | character :: later =>
    let characters := characters + 1
    if (characters = 5 || characters = 10) && characters < kCodeCharacters then
      character :: kDash :: grouped characters later
    else character :: grouped characters later

/-- The code of these characters, when it fills its array. -/
def formatCode (characters : Bytes) : Option FormattedCode :=
  ByteVec.ofBytes? kFormattedCodeBytes
    (ascii "K8-" ++ grouped 0 characters ++ [0])

/-! ## Generating -/

/-- Shift bytes into the accumulator until it holds a character. -/
def fill (accumulator : UInt32) (bits : Nat) :
    Bytes → UInt32 × Nat × Bytes
  | [] => (accumulator, bits, [])
  | byte :: later =>
    if bits < 5 then
      fill (accumulator <<< 8 ||| byte.toUInt32) (bits + 8) later
    else (accumulator, bits, byte :: later)

/-- The characters that the bits of the entropy pick, five at a time. -/
def entropyCharacters : Nat → UInt32 → Nat → Bytes → Bytes
  | 0, _, _, _ => []
  | count + 1, accumulator, bits, entropy =>
    match fill accumulator bits entropy with
    | (accumulator, bits, entropy) =>
      let bits := bits - 5
      kAlphabet.getD (accumulator >>> .ofNat bits &&& 0x1f).toNat 0 ::
        entropyCharacters count accumulator bits entropy

def generateCode (entropy : ByteVec 10) : Option FormattedCode :=
  if entropy.bytes.foldl (· ||| ·) 0 == 0 then none
  else formatCode (entropyCharacters kCodeCharacters 0 0 entropy.bytes)

/-! ## Normalising -/

/-- What may stand between the characters of a code. -/
def isSeparator (c : UInt8) : Bool :=
  c == kDash || c == 0x20 || c == 0x09 || c == 0x0d || c == 0x0a

/-- The capital of a letter. -/
def upper (c : UInt8) : UInt8 :=
  if c ≥ 0x61 && c ≤ 0x7a then c - 0x20 else c

/-- The characters of an input behind those found so far, if they fit. -/
def gather (raw : Bytes) : Bytes → Option Bytes
  | [] => some raw
  | c :: later =>
    if c == 0 then some raw
    else if isSeparator c then gather raw later
    else if raw.length ≥ kCodeCharacters + 2 then none
    else gather (raw ++ [upper c]) later

/-- The characters of a code behind its mark, if there is one. -/
def unmarked (raw : Bytes) : Option Bytes :=
  if raw.length = kCodeCharacters + 2 && raw.take 2 == ascii "K8" then
    some (raw.drop 2)
  else if raw.length ≠ kCodeCharacters then none
  else some raw

/-- The code that was typed, with or without its mark and separators. -/
def normalizeCode (input : Bytes) : Option FormattedCode :=
  match gather [] input with
  | none => none
  | some raw =>
    match unmarked raw with
    | none => none
    | some characters =>
      if characters.all (kAlphabet.contains ·) then formatCode characters
      else none

/-- The name of a code, hashed from its text; never zero. -/
def codeId (normalizedCode : Bytes) : UInt32 :=
  if boundedLength normalizedCode (kFormattedCodeBytes - 1) ≠
      kFormattedCodeBytes - 1 then 0
  else
    let value := crc32 (normalizedCode.take (kFormattedCodeBytes - 1))
    if value == 0 then 1 else value

/-! ## The characters of a text -/

/-- The characters of an input, without separators and in upper case. -/
def letters (input : Bytes) : Bytes :=
  ((cString input).filter (!isSeparator ·)).map upper

theorem gather_eq (raw input : Bytes) (fits : raw.length ≤ kCodeCharacters + 2) :
    gather raw input =
      if (raw ++ letters input).length ≤ kCodeCharacters + 2 then
        some (raw ++ letters input)
      else none := by
  induction input generalizing raw with
  | nil => simp [gather, letters, cString, fits]
  | cons c later induction =>
    rw [gather]
    by_cases terminator : c = 0
    · simp [terminator, letters, cString, fits]
    · have step : cString (c :: later) = c :: cString later := by
        simp [cString, terminator]
      rw [if_neg (by simpa using terminator)]
      by_cases separator : isSeparator c = true
      · rw [if_pos separator, induction raw fits]
        simp [letters, step, separator]
      · have kept : letters (c :: later) = upper c :: letters later := by
          simp [letters, step, separator]
        rw [if_neg separator, kept]
        by_cases full : raw.length ≥ kCodeCharacters + 2
        · rw [if_pos full, if_neg]
          rw [List.length_append, List.length_cons]
          omega
        · have room : (raw ++ [upper c]).length ≤ kCodeCharacters + 2 := by
            rw [List.length_append, List.length_singleton]
            omega
          rw [if_neg full, induction _ room, List.append_assoc,
            List.singleton_append]

/-- The input spells these characters, with or without the mark. -/
def Spells (input characters : Bytes) : Prop :=
  letters input = characters ∨ letters input = ascii "K8" ++ characters

theorem unmarked_eq_some {raw characters : Bytes} :
    unmarked raw = some characters ↔ characters.length = kCodeCharacters ∧
      (raw = characters ∨ raw = ascii "K8" ++ characters) := by
  have mark : (ascii "K8").length = 2 := rfl
  rw [unmarked]
  constructor
  · intro read
    split at read
    · rename_i marked
      cases read
      simp only [Bool.and_eq_true, decide_eq_true_eq, beq_iff_eq] at marked
      constructor
      · rw [List.length_drop, marked.1]
        rfl
      · right
        rw [← marked.2, List.take_append_drop]
    · split at read
      · cases read
      · rename_i bare
        cases read
        exact ⟨not_not.mp bare, .inl rfl⟩
  · rintro ⟨length, rfl | rfl⟩
    · rw [if_neg (by simp [length]), if_neg (not_not.mpr length)]
    · rw [if_pos]
      · rw [List.drop_left' mark]
      · rw [List.take_left' mark, List.length_append, length, mark]
        rfl

/-- A text is normalised to the code of the characters it spells. -/
theorem normalizeCode_eq_some {input : Bytes} {code : FormattedCode} :
    normalizeCode input = some code ↔
      ∃ characters, Spells input characters ∧
        characters.length = kCodeCharacters ∧
        (∀ character ∈ characters, character ∈ kAlphabet) ∧
        formatCode characters = some code := by
  have mark : (ascii "K8").length = 2 := rfl
  rw [normalizeCode, gather_eq [] input (Nat.zero_le _), List.nil_append]
  constructor
  · intro normalized
    by_cases fits : (letters input).length ≤ kCodeCharacters + 2
    · rw [if_pos fits] at normalized
      cases read : unmarked (letters input) with
      | none => simp [read] at normalized
      | some characters =>
        simp only [read] at normalized
        split at normalized
        · rename_i known
          rcases unmarked_eq_some.mp read with ⟨length, spells⟩
          refine ⟨characters, spells, length, ?_, normalized⟩
          simpa using known
        · cases normalized
    · rw [if_neg fits] at normalized
      cases normalized
  · rintro ⟨characters, spells, length, known, formatted⟩
    have read := unmarked_eq_some.mpr ⟨length, spells⟩
    have fits : (letters input).length ≤ kCodeCharacters + 2 := by
      rcases spells with spells | spells
      · rw [spells]
        omega
      · rw [spells, List.length_append]
        omega
    rw [if_pos fits]
    simp only [read]
    rw [if_pos (by simpa using known)]
    exact formatted

/-! ## Stored codes -/

/-- A character of the alphabet is none of those the normaliser changes. -/
theorem alphabet_plain : ∀ character ∈ kAlphabet,
    character ≠ 0 ∧ isSeparator character = false ∧
      upper character = character :=
  forall_mem_of_all (by decide)

theorem grouped_nonzero {characters : Bytes} (written : Nat)
    (known : ∀ character ∈ characters, character ∈ kAlphabet) :
    ∀ byte ∈ grouped written characters, byte ≠ 0 := by
  induction characters generalizing written with
  | nil => nofun
  | cons character later induction =>
    rcases List.forall_mem_cons.mp known with ⟨first, rest⟩
    have plain := (alphabet_plain character first).1
    rw [grouped]
    split
    · simpa [plain, kDash] using induction (written + 1) rest
    · simpa [plain] using induction (written + 1) rest

/-- The dashes are what the normaliser drops. -/
theorem grouped_letters {characters : Bytes} (written : Nat)
    (known : ∀ character ∈ characters, character ∈ kAlphabet) :
    ((grouped written characters).filter (!isSeparator ·)).map upper =
      characters := by
  induction characters generalizing written with
  | nil => rfl
  | cons character later induction =>
    rcases List.forall_mem_cons.mp known with ⟨first, rest⟩
    rcases alphabet_plain character first with ⟨-, kept, same⟩
    rw [grouped]
    split
    · have dash : isSeparator kDash = true := rfl
      simp [kept, same, dash, induction (written + 1) rest]
    · simp [kept, same, induction (written + 1) rest]

theorem length_grouped {characters : Bytes}
    (length : characters.length = kCodeCharacters) :
    (grouped 0 characters).length = kCodeCharacters + 2 := by
  match characters, length with
  | [_, _, _, _, _, _, _, _, _, _, _, _, _, _, _], _ => rfl

/-- Fifteen characters always fill the array. -/
theorem formatCode_eq {characters : Bytes}
    (length : characters.length = kCodeCharacters) :
    ∃ code, formatCode characters = some code ∧
      code.bytes = ascii "K8-" ++ grouped 0 characters ++ [0] := by
  have mark : (ascii "K8-").length = 3 := rfl
  have filled : (ascii "K8-" ++ grouped 0 characters ++ [0]).length =
      kFormattedCodeBytes := by
    rw [List.length_append, List.length_append, length_grouped length, mark]
    rfl
  exact ⟨⟨_, filled⟩, dif_pos filled, rfl⟩

theorem formatCode_bytes {characters : Bytes} {code : FormattedCode}
    (formatted : formatCode characters = some code) :
    code.bytes = ascii "K8-" ++ grouped 0 characters ++ [0] := by
  rw [formatCode, ByteVec.ofBytes?] at formatted
  split at formatted
  · cases formatted
    rfl
  · cases formatted

section Formatted

variable {characters : Bytes} {code : FormattedCode}

/-- The text of a stored code ends where its array does. -/
theorem cString_formatted (known : ∀ character ∈ characters, character ∈ kAlphabet)
    (formatted : formatCode characters = some code) :
    cString code.bytes = ascii "K8-" ++ grouped 0 characters := by
  have plain : ∀ byte ∈ ascii "K8-", byte ≠ 0 := forall_mem_of_all (by decide)
  have nonzero : ∀ byte ∈ ascii "K8-" ++ grouped 0 characters,
      (byte != 0) = true := by
    intro byte member
    rw [bne_iff_ne]
    rcases List.mem_append.mp member with mark | body
    · exact plain byte mark
    · exact grouped_nonzero 0 known byte body
  rw [formatCode_bytes formatted, cString, List.takeWhile_append_of_pos nonzero]
  simp

theorem letters_formatted (known : ∀ character ∈ characters, character ∈ kAlphabet)
    (formatted : formatCode characters = some code) :
    letters code.bytes = ascii "K8" ++ characters := by
  rw [letters, cString_formatted known formatted, List.filter_append,
    List.map_append, grouped_letters 0 known]
  rfl

/-- The normaliser keeps a stored code. -/
theorem normalizeCode_formatted (length : characters.length = kCodeCharacters)
    (known : ∀ character ∈ characters, character ∈ kAlphabet)
    (formatted : formatCode characters = some code) :
    normalizeCode code.bytes = some code :=
  normalizeCode_eq_some.mpr ⟨characters,
    .inr (letters_formatted known formatted), length, known, formatted⟩

end Formatted

theorem normalizeCode_idempotent {input : Bytes} {code : FormattedCode}
    (normalized : normalizeCode input = some code) :
    normalizeCode code.bytes = some code := by
  rcases normalizeCode_eq_some.mp normalized with
    ⟨characters, -, length, known, formatted⟩
  exact normalizeCode_formatted length known formatted

/-- Two spellings of the same characters have one code. -/
theorem normalizeCode_spells {input other characters : Bytes}
    (length : characters.length = kCodeCharacters)
    (first : Spells input characters) (second : Spells other characters) :
    normalizeCode input = normalizeCode other := by
  have only {text another : Bytes} {code : FormattedCode}
      (spells : Spells text characters) (spelled : Spells another characters)
      (normalized : normalizeCode text = some code) :
      normalizeCode another = some code := by
    have known := unmarked_eq_some.mpr ⟨length, spells⟩
    rcases normalizeCode_eq_some.mp normalized with
      ⟨found, foundSpells, foundLength, alphabetic, formatted⟩
    have same := unmarked_eq_some.mpr ⟨foundLength, foundSpells⟩
    rw [known] at same
    cases same
    exact normalizeCode_eq_some.mpr
      ⟨characters, spelled, length, alphabetic, formatted⟩
  cases normalized : normalizeCode input with
  | some code => exact (only first second normalized).symm
  | none =>
    cases reverse : normalizeCode other with
    | none => rfl
    | some code =>
      rw [only second first reverse] at normalized
      cases normalized

/-! ## Generated codes -/

theorem length_entropyCharacters (count : Nat) (accumulator : UInt32)
    (bits : Nat) (entropy : Bytes) :
    (entropyCharacters count accumulator bits entropy).length = count := by
  induction count generalizing accumulator bits entropy with
  | zero => rfl
  | succ count induction =>
    rw [entropyCharacters, List.length_cons, induction]

theorem getD_kAlphabet (value : UInt32) :
    kAlphabet.getD (value &&& 0x1f).toNat 0 ∈ kAlphabet := by
  have bound : (value &&& 0x1f).toNat < kAlphabet.length := by
    exact Nat.lt_of_le_of_lt Nat.and_le_right (by decide)
  rw [List.getD_eq_getElem?_getD, List.getElem?_eq_getElem bound, Option.getD_some]
  exact List.getElem_mem bound

theorem entropyCharacters_known (count : Nat) (accumulator : UInt32)
    (bits : Nat) (entropy : Bytes) :
    ∀ character ∈ entropyCharacters count accumulator bits entropy,
      character ∈ kAlphabet := by
  induction count generalizing accumulator bits entropy with
  | zero => nofun
  | succ count induction =>
    exact List.forall_mem_cons.mpr ⟨getD_kAlphabet _, induction _ _ _⟩

/-- A generated code is in the stored form. -/
theorem normalizeCode_generateCode {entropy : ByteVec 10}
    {code : FormattedCode} (generated : generateCode entropy = some code) :
    normalizeCode code.bytes = some code := by
  rw [generateCode] at generated
  split at generated
  · cases generated
  · exact normalizeCode_formatted (length_entropyCharacters _ _ _ _)
      (entropyCharacters_known _ _ _ _) generated

end Kitsu.Unlocks

/-!
# The unlock code ledger

The store of `kitsu_unlock_codes.cpp` and its two persisted layouts.  The legacy
layout differs from the current one in its schema, its size and how many records it
has room for; one reader takes both.  The unused room behind the records is
covered by the checksum only.
-/

namespace Kitsu.Unlocks

open Kitsu.Lib Kitsu.Lib.Run
open Kitsu.Lib.ByteString
open Kitsu.Crc32

abbrev kLegacyCodeCapacity : Nat := 12

abbrev kCodeCapacity : Nat := 32

abbrev kCreatureNameBytes : Nat := 24

abbrev kSourceNameBytes : Nat := 16

def kLegacyStoreSchema : Nat := 1

def kStoreSchema : Nat := 2

def kStoreMagic : Nat := 0x4b554331

abbrev kPersistedHeaderBytes : Nat := 16

abbrev kPersistedRecordBytes : Nat := 78

abbrev kPersistedEnvelopeBytes : Nat := 20

abbrev kLegacyStoreSerializedBytes : Nat :=
  kPersistedEnvelopeBytes + kPersistedRecordBytes * kLegacyCodeCapacity

abbrev kStoreSerializedBytes : Nat :=
  kPersistedEnvelopeBytes + kPersistedRecordBytes * kCodeCapacity

/-- The byte of `Rarity::Mythical`, the last rarity. -/
def kMythical : UInt8 := 6

/-- A record; its rarity is a byte, since a cast may have given it any. -/
structure CodeRecord where
  codeId : UInt32
  code : FormattedCode
  packId : UInt32
  creatureName : ByteVec (kCreatureNameBytes + 1)
  rarity : UInt8
  source : ByteVec (kSourceNameBytes + 1)
  acquiredAtEpoch : UInt32
  redeemed : Bool
  installed : Bool
deriving DecidableEq

/-- What became of a code that was to be added. -/
inductive AddResult where
  | added
  | duplicate
  | full
  | invalid
deriving DecidableEq

/-- The records in use, with the proof that the array holds them. -/
structure CodeStore where
  records : List CodeRecord := []
  generation : UInt32 := 0
  migrationRequired : Bool := false
  bounded : records.length ≤ kCodeCapacity := by decide
deriving DecidableEq

/-- As it is constructed. -/
abbrev CodeStore.empty : CodeStore := {}

/-! ## Records -/

/-- What a name is made of. -/
def tokenByte (allowSpace : Bool) (c : UInt8) : Bool :=
  (c ≥ 0x41 && c ≤ 0x5a) || (c ≥ 0x61 && c ≤ 0x7a) ||
    (c ≥ 0x30 && c ≤ 0x39) || c == 0x5f || c == 0x2d ||
    (allowSpace && c == 0x20)

/-- A name that ends within its field. -/
def validToken (value : Bytes) (capacity : Nat) (allowSpace : Bool) : Bool :=
  let length := boundedLength value capacity
  if length = 0 || length > capacity then false
  else (value.take length).all (tokenByte allowSpace)

/-- A code in its normal form with its own name, and fields in range. -/
def validRecord (record : CodeRecord) : Bool :=
  record.codeId != 0 && record.packId != 0 &&
    boundedLength record.code.bytes (kFormattedCodeBytes - 1) ==
      kFormattedCodeBytes - 1 &&
    match normalizeCode record.code.bytes with
    | none => false
    | some normalized =>
      cString normalized.bytes == cString record.code.bytes &&
        Unlocks.codeId normalized.bytes == record.codeId &&
        record.rarity ≤ kMythical &&
        validToken record.creatureName.bytes kCreatureNameBytes true &&
        validToken record.source.bytes kSourceNameBytes false

/-! ## The store -/

/-- The last record of a code. -/
def CodeStore.find (store : CodeStore) (code : Bytes) : Option CodeRecord :=
  match normalizeCode code with
  | none => none
  | some normalized =>
    store.records.foldl
      (fun found record =>
        if normalized == record.code then some record else found) none

def CodeStore.findById (store : CodeStore) (value : UInt32) :
    Option CodeRecord :=
  store.records.find? (·.codeId == value)

/-- The next generation, which is never zero. -/
def nextGeneration (generation : UInt32) : UInt32 :=
  if generation + 1 == 0 then generation + 1 + 1 else generation + 1

/-- Add a record, unless its code is there or the store is full. -/
def CodeStore.add (store : CodeStore) (record : CodeRecord) :
    AddResult × CodeStore :=
  if !validRecord record then (.invalid, store)
  else if (store.findById record.codeId).isSome ||
      (store.find record.code.bytes).isSome then (.duplicate, store)
  else if room : store.records.length < kCodeCapacity then
    (.added, { store with
      records := store.records ++ [record]
      generation := nextGeneration store.generation
      bounded := by
        rw [List.length_append, List.length_singleton]
        omega })
  else (.full, store)

/-- One flag of a record: how to read and how to set it. -/
structure Flag where
  get : CodeRecord → Bool
  set : CodeRecord → Bool → CodeRecord

/-- Whether the code was redeemed. -/
def redeemedFlag : Flag where
  get := (·.redeemed)
  set := fun record redeemed => { record with redeemed }

/-- Whether its pack was installed. -/
def installedFlag : Flag where
  get := (·.installed)
  set := fun record installed => { record with installed }

/-- Set a flag of the first record with this id, if there is one. -/
def CodeStore.setFlag (flag : Flag) (store : CodeStore) (value : UInt32)
    (set : Bool) : Bool × CodeStore :=
  match store.findById value with
  | none => (false, store)
  | some record =>
    if flag.get record == set then (true, store)
    else
      (true, { store with
        records := store.records.modify
          (store.records.findIdx (·.codeId == value)) (flag.set · set)
        generation := nextGeneration store.generation
        bounded := by
          rw [List.length_modify]
          exact store.bounded })

def CodeStore.setRedeemed (store : CodeStore) (value : UInt32)
    (redeemed : Bool) : Bool × CodeStore :=
  store.setFlag redeemedFlag value redeemed

def CodeStore.setInstalled (store : CodeStore) (value : UInt32)
    (installed : Bool) : Bool × CodeStore :=
  store.setFlag installedFlag value installed

/-! ## The persisted layouts -/

/-- A record as the store is written. -/
structure PersistedRecord where
  codeId : UInt32
  code : FormattedCode
  packId : UInt32
  creatureName : ByteVec (kCreatureNameBytes + 1)
  rarity : UInt8
  source : ByteVec (kSourceNameBytes + 1)
  acquiredAtEpoch : UInt32
  redeemed : UInt8
  installed : UInt8

/-- What is written of a record. -/
def copyToPersisted (source : CodeRecord) : PersistedRecord where
  codeId := source.codeId
  code := source.code
  packId := source.packId
  creatureName := source.creatureName
  rarity := source.rarity
  source := source.source
  acquiredAtEpoch := source.acquiredAtEpoch
  redeemed := if source.redeemed then 1 else 0
  installed := if source.installed then 1 else 0

/-- The record that was written. -/
def copyFromPersisted (source : PersistedRecord) : CodeRecord where
  codeId := source.codeId
  code := source.code
  packId := source.packId
  creatureName := source.creatureName
  rarity := source.rarity
  source := source.source
  acquiredAtEpoch := source.acquiredAtEpoch
  redeemed := source.redeemed != 0
  installed := source.installed != 0

/-- The packed bytes of a record. -/
def PersistedRecord.bytes (record : PersistedRecord) : Bytes :=
  littleEndian 4 record.codeId.toNat ++ (record.code.bytes ++
    (littleEndian 4 record.packId.toNat ++ (record.creatureName.bytes ++
      (record.rarity :: (record.source.bytes ++
        (littleEndian 4 record.acquiredAtEpoch.toNat ++
          [record.redeemed, record.installed]))))))

/-- The record packed at the front of a buffer. -/
def PersistedRecord.read (buffer : Bytes) : PersistedRecord where
  codeId := .ofNat (getU32 buffer 0)
  code := ByteVec.slice kFormattedCodeBytes buffer 4
  packId := .ofNat (getU32 buffer 25)
  creatureName := ByteVec.slice (kCreatureNameBytes + 1) buffer 29
  rarity := buffer.getD 54 0
  source := ByteVec.slice (kSourceNameBytes + 1) buffer 55
  acquiredAtEpoch := .ofNat (getU32 buffer 72)
  redeemed := buffer.getD 76 0
  installed := buffer.getD 77 0

/-- The front of the store as it is written. -/
structure PersistedHeader where
  schema : Nat
  size : Nat
  generation : UInt32
  count : UInt8

/-- The packed bytes of a header. -/
def PersistedHeader.bytes (header : PersistedHeader) : Bytes :=
  littleEndian 4 kStoreMagic ++ (littleEndian 2 header.schema ++
    (littleEndian 2 header.size ++ (littleEndian 4 header.generation.toNat ++
      [header.count, 0, 0, 0])))

/-- The bytes with their checksum behind them. -/
def checksummed (body : Bytes) : Bytes :=
  body ++ littleEndian 4 (crc32 body).toNat

/-- The bytes of the store, with a checksum over all of them. -/
def CodeStore.serialize (store : CodeStore) (capacity : Nat) : Option Bytes :=
  if capacity < kStoreSerializedBytes then none
  else
    some (checksummed (PersistedHeader.bytes {
          schema := kStoreSchema
          size := kStoreSerializedBytes
          generation := store.generation
          count := store.records.length.toUInt8 } ++
        ((store.records.map fun record =>
            (copyToPersisted record).bytes).flatten ++
          .replicate (kPersistedRecordBytes *
            (kCodeCapacity - store.records.length)) 0)))

/-! ## Loading -/

/-- What the two layouts differ in. -/
structure Layout where
  expectedSchema : Nat
  expectedCapacity : Nat
  legacy : Bool

/-- The older format, with room for fewer codes. -/
def legacyLayout : Layout where
  expectedSchema := kLegacyStoreSchema
  expectedCapacity := kLegacyCodeCapacity
  legacy := true

/-- The format that is written. -/
def currentLayout : Layout where
  expectedSchema := kStoreSchema
  expectedCapacity := kCodeCapacity
  legacy := false

/-- The format of a store, told by its size. -/
def layoutOf (inputBytes : Nat) : Option Layout :=
  if inputBytes = kLegacyStoreSerializedBytes then some legacyLayout
  else if inputBytes = kStoreSerializedBytes then some currentLayout
  else none

/-- How many records the store says it has. -/
def headerCount (input : Bytes) : Nat :=
  (input.getD 12 0).toNat

/-- The checks of the envelope. -/
def envelopeValid (layout : Layout) (input : Bytes) : Bool :=
  getU32 input 0 == kStoreMagic && getU16 input 4 == layout.expectedSchema &&
    getU16 input 6 == input.length &&
    headerCount input ≤ layout.expectedCapacity &&
    input.getD 13 0 == 0 && input.getD 14 0 == 0 && input.getD 15 0 == 0 &&
    getU32 input (input.length - 4) ==
      (crc32 (input.take (input.length - 4))).toNat

def persistedAt (input : Bytes) (index : Nat) : PersistedRecord :=
  .read (input.drop (kPersistedHeaderBytes + index * kPersistedRecordBytes))

/-- The record may not share its id or its code with an earlier one. -/
def sharesIdentity (previous : PersistedRecord) (candidate : CodeRecord) : Bool :=
  previous.codeId == candidate.codeId ||
    cString previous.code.bytes == cString candidate.code.bytes

/-- A record that is valid and unlike the ones before it. -/
def recordAcceptable (input : Bytes) (index : Nat) : Bool :=
  let persisted := persistedAt input index
  let candidate := copyFromPersisted persisted
  persisted.redeemed ≤ 1 && persisted.installed ≤ 1 && validRecord candidate &&
    (List.range index).all fun prior =>
      !sharesIdentity (persistedAt input prior) candidate

/-- The capacity of either layout is within that of the store. -/
def CodeStore.load (store : CodeStore) (input : Bytes) : Bool × CodeStore :=
  match layoutOf input.length with
  | none => (false, store)
  | some layout =>
    if !envelopeValid layout input then (false, store)
    else if !(List.range (headerCount input)).all (recordAcceptable input) then
      (false, store)
    else if fits : headerCount input ≤ kCodeCapacity then
      (true, {
        records := (List.range (headerCount input)).map fun index =>
          copyFromPersisted (persistedAt input index)
        generation := .ofNat (getU32 input 8)
        migrationRequired := layout.legacy
        bounded := by rw [List.length_map, List.length_range]; exact fits })
    else (false, store)

/-! ## Calls -/

/-- The calls of the store. -/
inductive Call where
  | add (record : CodeRecord)
  | setRedeemed (value : UInt32) (redeemed : Bool)
  | setInstalled (value : UInt32) (installed : Bool)
  | load (input : Bytes)

/-- A call by its name. -/
def CodeStore.perform (store : CodeStore) : Call → CodeStore
  | .add record => (store.add record).2
  | .setRedeemed value redeemed => (store.setRedeemed value redeemed).2
  | .setInstalled value installed => (store.setInstalled value installed).2
  | .load input => (store.load input).2

/-- The store after calls from the constructor. -/
def storeAfter (history : List Call) : CodeStore :=
  exec CodeStore.perform {} history

end Kitsu.Unlocks
