import Kitsu.Lib.ByteString
import Mathlib.Data.List.Infix
import Mathlib.Data.Set.Function

/-!
# Prefix-free encodings

A field of a concatenated byte string can be told apart from what follows it
when no admissible encoding is a prefix of another.  Fields of a fixed length,
length-prefixed fields and terminated words of a finite alphabet are of this
kind, and a sequence of such fields is read back from the left, one `split` at
a time.
-/

namespace Kitsu.Lib.Framing

open Kitsu.Lib.ByteString

/-- No encoding of an admissible value is a prefix of that of another. -/
def PrefixFree {α : Type*} (admissible : Set α) (encode : α → Bytes) :
    Prop :=
  ∀ first ∈ admissible, ∀ second ∈ admissible,
    encode first <+: encode second → first = second

section General

variable {α : Type*} {admissible : Set α} {encode : α → Bytes}

/-- The front field of two equal strings is the same, and so is the rest. -/
theorem PrefixFree.split (free : PrefixFree admissible encode)
    {first second : α} {firstRest secondRest : Bytes}
    (firstIn : first ∈ admissible) (secondIn : second ∈ admissible)
    (same : encode first ++ firstRest = encode second ++ secondRest) :
    first = second ∧ firstRest = secondRest := by
  have equal : first = second := by
    have firstPrefix := List.prefix_append (encode first) firstRest
    have secondPrefix := List.prefix_append (encode second) secondRest
    rw [same] at firstPrefix
    rcases List.prefix_or_prefix_of_prefix firstPrefix secondPrefix with
      shorter | longer
    · exact free first firstIn second secondIn shorter
    · exact (free second secondIn first firstIn longer).symm
  subst equal
  exact ⟨rfl, List.append_cancel_left same⟩

theorem PrefixFree.injOn (free : PrefixFree admissible encode) :
    Set.InjOn encode admissible := by
  intro first firstIn second secondIn same
  apply free first firstIn second secondIn
  rw [same]

/-- Fields of one length are prefix-free when they are injective. -/
theorem PrefixFree.ofLength {count : Nat}
    (length_eq : ∀ value ∈ admissible, (encode value).length = count)
    (injective : Set.InjOn encode admissible) : PrefixFree admissible encode := by
  intro first firstIn second secondIn shorter
  apply injective firstIn secondIn
  apply shorter.eq_of_length
  rw [length_eq first firstIn, length_eq second secondIn]

end General

/-- Arrays of one size. -/
theorem prefixFree_byteVec (count : Nat) :
    PrefixFree Set.univ (ByteVec.bytes : ByteVec count → Bytes) := by
  apply PrefixFree.ofLength
  · intro array _
    exact array.length_eq
  · intro first _ second _ same
    exact ByteVec.ext same

/-- Numbers that fit into their field. -/
theorem prefixFree_bigEndian (count : Nat) :
    PrefixFree {value | value < 256 ^ count} (bigEndian count) := by
  apply @PrefixFree.ofLength _ _ _ count
  · intro value _
    rw [bigEndian, List.length_reverse, length_littleEndian]
  · intro first firstFits second secondFits same
    have low := congrArg ofLittleEndian (List.reverse_injective same)
    rw [ofLittleEndian_littleEndian, ofLittleEndian_littleEndian] at low
    rwa [Nat.mod_eq_of_lt firstFits, Nat.mod_eq_of_lt secondFits] at low

/-- Byte strings behind their own length. -/
theorem prefixFree_sized (count : Nat) :
    PrefixFree {field : Bytes | field.length < 256 ^ count}
      fun field => bigEndian count field.length ++ field := by
  intro first firstFits second secondFits shorter
  obtain ⟨rest, same⟩ := shorter
  rw [List.append_assoc] at same
  have parts := (prefixFree_bigEndian count).split firstFits secondFits same
  have whole : first <+: second := ⟨rest, parts.2⟩
  exact whole.eq_of_length parts.1

end Kitsu.Lib.Framing
