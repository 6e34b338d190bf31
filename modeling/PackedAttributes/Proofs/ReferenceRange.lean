import PackedAttributes.Proofs.FieldMeaning

/-! Which content a descriptor reaches. Reading it takes four steps in words of different widths and
signs, and each of them may leave its range; together they accept exactly what lies inside the buffer
when the positions are added up as integers. -/
namespace PackedAttributes.ReferenceRange
open Bytes ExactReading FieldMeaning

/-! ## Steps in words -/

def signed? (word : UInt64) : Option Int64 :=
  if word.toNat < 0x8000000000000000 then some word.toInt64 else none

def signedSum? (first second : Int64) : Option Int64 :=
  if first.toBitVec.saddOverflow second.toBitVec = false then some (first + second) else none

def unsigned? (word : Int64) : Option UInt64 :=
  if 0 ≤ word then some word.toUInt64 else none

def unsignedSum? (first second : UInt64) : Option UInt64 :=
  if first.toBitVec.uaddOverflow second.toBitVec = false then some (first + second) else none

/-- A checked step gives the word that stands for the exact result, and fails if there is none. -/
theorem checked_iff {fits : Prop} [Decidable fits] {value : Word → Number} {word result : Word}
    (injective : ∀ first second, value first = value second → first = second)
    (correct : fits → value word = target) (complete : ∀ other, value other = target → fits) :
    (if fits then some word else none) = some result ↔ value result = target := by
  constructor
  · intro checked
    split at checked
    · cases checked
      exact correct ‹_›
    · cases checked
  · intro same
    have room := complete result same
    rw [if_pos room, injective word result ((correct room).trans same.symm)]

theorem signed_iff : signed? word = some result ↔ result.toInt = word.toNat := by
  apply checked_iff fun _ _ => Int64.toInt_inj.mp
  · intro small
    exact BitVec.toInt_eq_toNat_of_lt (by change 2 * word.toNat < 2 ^ 64; omega)
  · intro other same
    have := other.toInt_lt
    omega

theorem signed_sum_iff :
    signedSum? first second = some result ↔ result.toInt = first.toInt + second.toInt := by
  apply checked_iff fun _ _ => Int64.toInt_inj.mp
  · intro fits
    exact BitVec.toInt_add_of_not_saddOverflow (Bool.eq_false_iff.mp fits)
  · intro other same
    have := other.toInt_lt
    have := other.le_toInt
    rw [BitVec.saddOverflow, Bool.or_eq_false_iff, decide_eq_false_iff_not, decide_eq_false_iff_not]
    change ¬first.toInt + second.toInt ≥ 2 ^ 63 ∧ ¬first.toInt + second.toInt < -2 ^ 63
    omega

theorem unsigned_iff : unsigned? word = some result ↔ (result.toNat : Int) = word.toInt := by
  apply checked_iff fun _ _ same => UInt64.toNat_inj.mp (Int.ofNat.inj same)
  · intro positive
    change (word.toUInt64.toNat : Int) = word.toInt
    rw [Int64.toNat_toUInt64_of_le positive]
    exact Int.toNat_of_nonneg (Int64.le_iff_toInt_le.mp positive)
  · intro other same
    apply Int64.le_iff_toInt_le.mpr
    exact same ▸ Int.natCast_nonneg _

theorem unsigned_sum_iff :
    unsignedSum? first second = some result ↔ result.toNat = first.toNat + second.toNat := by
  apply checked_iff fun _ _ => UInt64.toNat_inj.mp
  · intro fits
    exact BitVec.toNat_add_of_not_uaddOverflow (Bool.eq_false_iff.mp fits)
  · intro other same
    have := other.toNat_lt
    rw [BitVec.uaddOverflow, decide_eq_false_iff_not]
    change ¬first.toNat + second.toNat ≥ 2 ^ 64
    omega

/-! ## Content in words -/

/-- The bytes between two positions, if both of them lie inside the buffer, one behind the other. -/
def between? (bytes : Bytes) (first past : UInt64) : Option Bytes :=
  if first ≤ past ∧ past.toNat ≤ bytes.length then
    some (bytes.slice first.toNat (past.toNat - first.toNat))
  else
    none

/-- The content of a descriptor, found without ever leaving words of 64 bits. The origin counts from
zero, the offset is signed and the length is not. -/
def wordContent? (reference : Reference) (bytes : Bytes) : Option Bytes := do
  let origin ← signed? (UInt64.ofNat reference.origin)
  let start ← signedSum? origin reference.offset.toInt64
  let first ← unsigned? start
  let past ← unsignedSum? first reference.length.toUInt64
  between? bytes first past

/-- The content of the descriptor lies inside the buffer, in integers. -/
def Inside (reference : Reference) (bytes : Bytes) : Prop :=
  0 ≤ reference.start ∧ reference.start + reference.length.toNat ≤ bytes.length

theorem between_iff : between? bytes first past = some content ↔
    (first.toNat ≤ past.toNat ∧ past.toNat ≤ bytes.length) ∧
      content = bytes.slice first.toNat (past.toNat - first.toNat) := by
  rw [between?, Option.ite_none_right_eq_some, Option.some.injEq, eq_comm]
  rfl

theorem signed_word (low : -0x8000000000000000 ≤ number) (high : number < 0x8000000000000000) :
    ∃ word : Int64, word.toInt = number :=
  ⟨_, Int64.toInt_ofInt_of_le low high⟩

theorem unsigned_word (small : number < 0x10000000000000000) : ∃ word : UInt64, word.toNat = number :=
  ⟨_, UInt64.toNat_ofNat_of_lt' small⟩

theorem word_content_iff {reference : Reference} (origin_small : reference.origin < 0x8000000000000000)
    (buffer_small : bytes.length < 0x8000000000000000) :
    wordContent? reference bytes = some content ↔
      Inside reference bytes ∧
        content = bytes.slice reference.start.toNat reference.length.toNat := by
  have origin_word : (UInt64.ofNat reference.origin).toNat = reference.origin :=
    UInt64.toNat_ofNat_of_lt' (by change _ < 2 ^ 64; omega)
  unfold Inside Reference.start
  simp only [wordContent?, Option.bind_eq_bind, Option.bind_eq_some_iff, signed_iff, signed_sum_iff,
    unsigned_iff, unsigned_sum_iff, between_iff, origin_word, Int32.toInt_toInt64,
    UInt32.toNat_toUInt64]
  constructor
  · rintro ⟨origin, whole, start, sum, first, same, past, behind, ⟨_, room⟩, rfl⟩
    rw [← whole, ← sum, ← same]
    refine ⟨⟨by omega, by omega⟩, ?_⟩
    rw [behind, Nat.add_sub_cancel_left]
    rfl
  · rintro ⟨⟨positive, room⟩, rfl⟩
    -- All positions on the way lie in the buffer, so there are words for them.
    obtain ⟨origin, whole⟩ : ∃ word : Int64, word.toInt = reference.origin :=
      signed_word (by omega) (by omega)
    obtain ⟨start, sum⟩ : ∃ word : Int64, word.toInt = reference.origin + reference.offset.toInt :=
      signed_word (by omega) (by omega)
    obtain ⟨first, same⟩ : ∃ word : UInt64, word.toNat = start.toInt.toNat :=
      unsigned_word (by omega)
    obtain ⟨past, behind⟩ : ∃ word : UInt64, word.toNat = first.toNat + reference.length.toNat :=
      unsigned_word (by omega)
    refine ⟨origin, whole, start, whole ▸ sum, first, by omega, past, behind,
      ⟨by omega, by omega⟩, ?_⟩
    rw [behind, Nat.add_sub_cancel_left, same, sum]

/-! ## Content in integers -/

theorem content_inside (inside : Inside reference bytes) : reference.content bytes =
    .ok (bytes.slice reference.start.toNat reference.length.toNat) :=
  if_pos inside

theorem content_outside (outside : ¬Inside reference bytes) : reference.content bytes =
    .error (.referenceOutOfBounds reference.origin reference.offset reference.length bytes.length) :=
  if_neg outside

/-- A stretch of the buffer is what lies behind as many bytes as its position says. -/
theorem slice_eq_iff {bytes : Bytes} (room : start + length ≤ bytes.length) :
    bytes.slice start length = content ↔
      ∃ front back, bytes = front ++ content ++ back ∧ front.length = start ∧
        content.length = length := by
  constructor
  · rintro rfl
    refine ⟨bytes.take start, bytes.drop (start + length), ?_, ?_, slice_length room⟩
    · rw [slice, List.append_assoc, ← List.drop_drop, List.take_append_drop, List.take_append_drop]
    · exact List.length_take_of_le (by omega)
  · rintro ⟨front, back, rfl, rfl, rfl⟩
    exact lies_at_iff_slice.mp (lies_at_middle front content back rfl)

theorem content_ok_iff_between {reference : Reference} :
    reference.content bytes = .ok content ↔
      ∃ front back, bytes = front ++ content ++ back ∧ (front.length : Int) = reference.start ∧
        ((front ++ content).length : Int) = reference.start + reference.length.toNat := by
  by_cases inside : Inside reference bytes
  · have ⟨positive, room⟩ := inside
    rw [content_inside inside, Except.ok.injEq, slice_eq_iff (by omega)]
    refine exists_congr fun front => exists_congr fun back => and_congr_right fun _ => ?_
    rw [List.length_append]
    omega
  · rw [content_outside inside]
    refine iff_of_false nofun ?_
    rintro ⟨front, back, rfl, start, past⟩
    refine inside ⟨start ▸ Int.natCast_nonneg _, ?_⟩
    rw [← past]
    simp only [List.length_append]
    omega

theorem content_error_iff {reference : Reference} :
    reference.content bytes = .error fault ↔ ¬Inside reference bytes ∧
      fault = .referenceOutOfBounds reference.origin reference.offset reference.length
        bytes.length := by
  by_cases inside : Inside reference bytes
  · rw [content_inside inside]
    exact iff_of_false nofun fun held => held.1 inside
  · rw [content_outside inside, Except.error.injEq, eq_comm, and_iff_right inside]

/-! ## Values -/

theorem resolve_refused {reference : Reference} (refused : reference.content bytes = .error fault) :
    reference.resolve bytes format objectType = .error fault := by
  rw [Reference.resolve, refused]
  rfl

theorem resolve_parsed {reference : Reference} (found : reference.content bytes = .ok content) :
    reference.resolve bytes format objectType =
      format.parse content (objectType.any ObjectType.isDirectory) := by
  rw [Reference.resolve, found]
  rfl

/-- In a buffer that can be addressed, the steps in words find exactly the content that lies inside the
buffer in integers, be it empty or in front of the descriptor. Content that does not lie there is
refused with the descriptor and the length of the buffer, whatever was to be made of it, and the value
of other content depends on nothing but its bytes, its format and whether the object is a directory. -/
theorem content_found_inside (reference : Reference) (bytes : Bytes)
    (origin_small : reference.origin < 0x8000000000000000)
    (buffer_small : bytes.length < 0x8000000000000000) :
    let start : Int := reference.origin + reference.offset.toInt
    let past : Int := start + reference.length.toNat
    let outOfBounds : Fault := .referenceOutOfBounds reference.origin reference.offset
      reference.length bytes.length
    reference.content bytes = (wordContent? reference bytes).elim (.error outOfBounds) .ok ∧
    ((∃ content, reference.content bytes = .ok content) ↔ 0 ≤ start ∧ past ≤ bytes.length) ∧
    (∀ content, reference.content bytes = .ok content ↔ ∃ front back,
      bytes = front ++ content ++ back ∧ (front.length : Int) = start ∧
        ((front ++ content).length : Int) = past) ∧
    (∀ fault, reference.content bytes = .error fault ↔
      ¬(0 ≤ start ∧ past ≤ bytes.length) ∧ fault = outOfBounds) ∧
    (∀ format objectType fault, reference.content bytes = .error fault →
      reference.resolve bytes format objectType = .error fault) ∧
    (∀ (other : Reference) otherBytes format objectType otherType content,
      reference.content bytes = .ok content → other.content otherBytes = .ok content →
      (objectType = some .directory ↔ otherType = some .directory) →
        reference.resolve bytes format objectType =
          other.resolve otherBytes format otherType) := by
  refine ⟨?_, ⟨?_, ?_⟩, ?_, ?_, ?_, ?_⟩
  · by_cases inside : Inside reference bytes
    · rw [content_inside inside,
        (word_content_iff origin_small buffer_small).mpr ⟨inside, rfl⟩]
      rfl
    · have none : wordContent? reference bytes = none := Option.eq_none_iff_forall_ne_some.mpr
        fun content found => inside ((word_content_iff origin_small buffer_small).mp found).1
      rw [content_outside inside, none]
      rfl
  · rintro ⟨content, found⟩
    by_cases inside : Inside reference bytes
    · exact inside
    · cases (content_outside inside).symm.trans found
  · intro inside
    exact ⟨_, content_inside inside⟩
  · intro content
    exact content_ok_iff_between
  · intro fault
    exact content_error_iff
  · intro format objectType fault refused
    exact resolve_refused refused
  · intro other otherBytes format objectType otherType content found otherFound alike
    have folder : objectType.any ObjectType.isDirectory = otherType.any ObjectType.isDirectory := by
      rw [Bool.eq_iff_iff, directory_iff, directory_iff]
      exact alike
    rw [resolve_parsed found, resolve_parsed otherFound, folder]

/-- A descriptor behind its own content, which is empty and lies at the end of the buffer, and one whose
position leaves the signed words. -/
theorem empty_content_at_end :
    let bytes : Bytes := [1, 2, 3, 4]
    let empty : Reference := ⟨8, -4, 0⟩
    let far : Reference := ⟨0x7FFFFFFFFFFFFFFF, 1, 4⟩
    let outOfBounds : Fault := .referenceOutOfBounds 0x7FFFFFFFFFFFFFFF 1 4 4
    empty.content bytes = .ok [] ∧ wordContent? far bytes = none ∧
    far.content bytes = .error outOfBounds ∧
    far.resolve bytes .text (some .directory) = .error outOfBounds := by
  intro bytes empty far outOfBounds
  obtain ⟨_, _, found, _⟩ := content_found_inside empty bytes (by decide) (by decide)
  obtain ⟨words, _, _, _, values, _⟩ := content_found_inside far bytes (by decide) (by decide)
  have left : wordContent? far bytes = none := by decide +kernel
  rw [left] at words
  exact ⟨(found []).mpr ⟨bytes, [], rfl, by decide, by decide⟩, left, words, values _ _ _ words⟩

end PackedAttributes.ReferenceRange
