import Mathlib.Order.Bounds.Defs
import PackedAttributes.Proofs.FieldMeaning

/-! Which content is a text, and where other content stops being one. Well-formed bytes are the
encodings of texts; a fault lies behind the longest well-formed part, and its length tells whether the
bytes end inside a character or go on with a byte that no character has there. -/
namespace PackedAttributes.TextDecoding
open Utf8 Utf8RoundTrip FieldMeaning ActivityOutcomes
open String (utf8EncodeChar)

/-! ## Beginnings of characters -/

/-- The bytes are the encoding of a text. -/
def WellFormed (bytes : Bytes) : Prop :=
  ∃ text, encode text = bytes

/-- Some character has an encoding that begins with the bytes. -/
def BeginsCharacter (bytes : Bytes) : Prop :=
  ∃ c, bytes <+: utf8EncodeChar c

/-- How many bytes lie in the ranges, one after the other, before the first one that does not. -/
def fitting : List ByteRange → Bytes → Nat
  | range :: ranges, byte :: bytes => if range.contains byte then fitting ranges bytes + 1 else 0
  | _, _ => 0

theorem fitting_le (ranges : List ByteRange) (bytes : Bytes) :
    fitting ranges bytes ≤ ranges.length ∧ fitting ranges bytes ≤ bytes.length := by
  induction ranges generalizing bytes with
  | nil => simp [fitting]
  | cons range ranges ih =>
    cases bytes with
    | nil => simp [fitting]
    | cons byte bytes =>
      have bound := ih bytes
      rw [fitting]
      split <;> simp_all

theorem fitting_take (ranges : List ByteRange) (bytes : Bytes) (count : Nat) :
    fitting ranges (bytes.take count) = min count (fitting ranges bytes) := by
  induction ranges generalizing bytes count with
  | nil => simp [fitting]
  | cons range ranges ih =>
    cases bytes with
    | nil => simp [fitting]
    | cons byte bytes =>
      cases count with
      | zero => simp [fitting]
      | succ count =>
        rw [List.take_succ_cons, fitting, fitting, ih]
        split <;> omega

theorem completes_fitting (completes : Completes bits ranges bytes c) :
    fitting ranges bytes = bytes.length ∧ bytes.length = ranges.length := by
  induction ranges generalizing bits bytes with
  | nil =>
    cases bytes with
    | nil => simp [fitting]
    | cons byte bytes => exact completes.elim
  | cons range ranges ih =>
    cases bytes with
    | nil => exact completes.elim
    | cons byte bytes =>
      obtain ⟨inside, completes⟩ := completes
      have fitted := ih completes
      rw [fitting, if_pos inside, List.length_cons, List.length_cons, fitted.1, fitted.2]
      exact ⟨rfl, rfl⟩

/-- Bytes that fit as far as they go can be continued to a character, with the least byte of each
range that is left. -/
theorem fitting_completes (inhabited : ∀ range ∈ ranges, range.contains range.low = true)
    (fits : fitting ranges front = front.length) (bits : Nat) :
    ∃ back c, Completes bits ranges (front ++ back) c := by
  induction ranges generalizing bits front with
  | nil =>
    cases front with
    | nil => exact ⟨[], _, rfl⟩
    | cons byte front => simp [fitting] at fits
  | cons range ranges ih =>
    obtain ⟨least, others⟩ := List.forall_mem_cons.mp inhabited
    cases front with
    | nil =>
      have nothing : fitting ranges [] = ([] : Bytes).length := by simp [fitting]
      obtain ⟨back, c, completes⟩ := ih others nothing (bits * 64 + range.low.toNat % 64)
      exact ⟨range.low :: back, c, least, completes⟩
    | cons byte front =>
      by_cases inside : range.contains byte = true
      · rw [fitting, if_pos inside, List.length_cons, Nat.add_right_cancel_iff] at fits
        obtain ⟨back, c, completes⟩ := ih others fits (bits * 64 + byte.toNat % 64)
        exact ⟨back, c, inside, completes⟩
      · simp [fitting, inside] at fits

theorem lead_ranges (lead : lead? first = some (bits, ranges)) :
    ranges.length ≤ 3 ∧ ∀ range ∈ ranges, range.contains range.low = true := by
  have table : ∀ byte : Fin 256, ∀ known ∈ lead? (UInt8.ofFin byte), known.2.length ≤ 3 ∧
      ∀ range ∈ known.2, range.contains range.low = true := by decide +kernel
  exact table first.toFin _ lead

theorem begins_lead (begins : BeginsCharacter (first :: front)) :
    ∃ bits ranges, lead? first = some (bits, ranges) ∧ fitting ranges front = front.length := by
  obtain ⟨c, begins⟩ := begins
  obtain ⟨byte, behind, bits, ranges, encoded, lead, completes⟩ := encode_completes c
  rw [encoded, List.cons_prefix_cons] at begins
  obtain ⟨rfl, begins⟩ := begins
  refine ⟨bits, ranges, lead, ?_⟩
  rw [List.prefix_iff_eq_take.mp begins, fitting_take, (completes_fitting completes).1,
    List.length_take]

theorem begins_character_iff (lead : lead? first = some (bits, ranges)) :
    BeginsCharacter (first :: front) ↔ fitting ranges front = front.length := by
  constructor
  · intro begins
    obtain ⟨_, _, same, fits⟩ := begins_lead begins
    cases lead.symm.trans same
    exact fits
  · intro fits
    obtain ⟨back, c, completes⟩ := fitting_completes (lead_ranges lead).2 fits bits
    refine ⟨c, ?_⟩
    rw [completes_encodes lead completes, List.cons_prefix_cons]
    exact ⟨rfl, List.prefix_append ..⟩

theorem foreign_begins_none (foreign : lead? first = none) (front : Bytes) :
    ¬BeginsCharacter (first :: front) := by
  intro begins
  obtain ⟨_, _, lead, _⟩ := begins_lead begins
  cases foreign.symm.trans lead

/-- Where all ranges are met, the bytes begin with a whole character. -/
theorem fitting_whole (lead : lead? first = some (bits, ranges))
    (whole : fitting ranges rest = ranges.length) :
    ∃ c later, first :: rest = utf8EncodeChar c ++ later := by
  have inside := (fitting_le ranges rest).2
  have front : fitting ranges (rest.take ranges.length) = (rest.take ranges.length).length := by
    rw [fitting_take, List.length_take]
    omega
  obtain ⟨back, c, completes⟩ := fitting_completes (lead_ranges lead).2 front bits
  have exhausted : back = [] := by
    have width := (completes_fitting completes).2
    rw [List.length_append, List.length_take] at width
    apply List.eq_nil_of_length_eq_zero
    omega
  subst exhausted
  refine ⟨c, rest.drop ranges.length, ?_⟩
  rw [completes_encodes lead completes, List.append_nil, List.cons_append, List.take_append_drop]

/-! ## Faults -/

/-- A character breaks off behind the last byte that fits, or in front of the first one that does
not. -/
theorem decode_pending_breaks (pending : Pending) (position : Nat) (bytes : Bytes)
    (short : fitting (pending.next :: pending.later) bytes ≤ pending.later.length) :
    decodeFrom position (some pending) bytes = .error ⟨pending.start,
      if fitting (pending.next :: pending.later) bytes = bytes.length then none
      else some (pending.read + fitting (pending.next :: pending.later) bytes)⟩ := by
  induction bytes generalizing pending position with
  | nil => rfl
  | cons byte bytes ih =>
    by_cases inside : pending.next.contains byte = true
    · rw [fitting, if_pos inside] at short ⊢
      rw [decodeFrom, if_pos inside]
      cases later : pending.later with
      | nil => simp [later] at short
      | cons next ranges =>
        rw [later, List.length_cons, Nat.add_le_add_iff_right] at short
        simp only [Pending.advance, later]
        rw [ih _ _ short]
        simp only [List.length_cons, Nat.add_right_cancel_iff, Nat.add_assoc, Nat.add_comm 1]
    · rw [fitting, if_neg inside, decodeFrom, if_neg inside]
      simp

/-- The length of a fault tells how bytes that begin with no whole character go wrong. There is none
if they end inside a character; otherwise it covers the longest part that some character begins with,
or the first byte alone where no character begins with it. -/
def TellsBreak (bytes : Bytes) : Option Nat → Prop
  | none => BeginsCharacter bytes
  | some length => ¬BeginsCharacter bytes ∧ 1 ≤ length ∧ length ≤ 3 ∧
    IsGreatest {count | count ≤ bytes.length ∧
      (count = 1 ∨ BeginsCharacter (bytes.take count))} length

theorem tells_break_of_foreign (foreign : lead? first = none) (rest : Bytes) :
    TellsBreak (first :: rest) (some 1) := by
  refine ⟨foreign_begins_none foreign rest, by decide, by decide, ⟨by simp, .inl rfl⟩, ?_⟩
  rintro count ⟨_, single | begins⟩
  · omega
  · cases count with
    | zero => exact Nat.zero_le _
    | succ count => exact absurd begins (foreign_begins_none foreign _)

theorem tells_break_of_fitting (lead : lead? first = some (bits, ranges))
    (short : fitting ranges rest < ranges.length) :
    TellsBreak (first :: rest)
      (if fitting ranges rest = rest.length then none else some (1 + fitting ranges rest)) := by
  have begins (count : Nat) : BeginsCharacter ((first :: rest).take (count + 1)) ↔
      min count (fitting ranges rest) = min count rest.length := by
    rw [List.take_succ_cons, begins_character_iff lead, fitting_take, List.length_take]
  have few := (lead_ranges lead).1
  have inside := (fitting_le ranges rest).2
  split
  · rename_i whole
    exact (begins_character_iff lead).mpr whole
  · rename_i refused
    refine ⟨mt (begins_character_iff lead).mp refused, by omega, by omega, ⟨?_, .inr ?_⟩, ?_⟩
    · rw [List.length_cons]
      omega
    · rw [Nat.add_comm, begins]
      omega
    · rintro count ⟨within, single | further⟩
      · omega
      · cases count with
        | zero => exact Nat.zero_le _
        | succ count =>
          rw [begins] at further
          rw [List.length_cons] at within
          omega

/-- From a first byte on, there is either a whole character or a fault right there. -/
theorem decode_starts (position : Nat) (first : UInt8) (rest : Bytes) :
    (∃ c later, first :: rest = utf8EncodeChar c ++ later) ∨
      ∃ length, decodeFrom position none (first :: rest) = .error ⟨position, length⟩ ∧
        TellsBreak (first :: rest) length := by
  cases lead : lead? first with
  | none =>
    refine .inr ⟨some 1, ?_, tells_break_of_foreign lead rest⟩
    rw [decodeFrom, start?, lead]
  | some known =>
    obtain ⟨bits, ranges⟩ := known
    rcases Nat.lt_or_eq_of_le (fitting_le ranges rest).1 with short | whole
    · refine .inr ⟨_, ?_, tells_break_of_fitting lead short⟩
      cases ranges with
      | nil => cases short
      | cons next later =>
        simp only [decodeFrom, start?, lead]
        exact decode_pending_breaks ⟨position, 1, bits, next, later⟩ _ _ (Nat.le_of_lt_succ short)
    · exact .inl (fitting_whole lead whole)

/-- A fault lies behind some whole characters, at bytes that begin with no further one. -/
theorem decode_error (failed : decodeFrom position none bytes = .error fault) :
    ∃ (chars : List Char) (rest : Bytes), bytes = chars.flatMap utf8EncodeChar ++ rest ∧
      fault.validUpTo = position + (chars.flatMap utf8EncodeChar).length ∧
      (∀ c later, rest ≠ utf8EncodeChar c ++ later) ∧ TellsBreak rest fault.length := by
  induction size : bytes.length using Nat.strongRecOn generalizing position bytes with
  | ind total ih =>
    cases bytes with
    | nil => cases failed
    | cons first rest =>
      by_cases whole : ∃ c later, first :: rest = utf8EncodeChar c ++ later
      · obtain ⟨c, later, whole⟩ := whole
        have positive : 0 < (utf8EncodeChar c).length := by
          obtain ⟨_, _, _, _, encoded, _⟩ := encode_completes c
          simp [encoded]
        have shorter : later.length < total := by
          rw [← size, whole, List.length_append]
          omega
        rw [whole, decode_character, except_map_error_iff] at failed
        obtain ⟨chars, behind, rfl, place, broken⟩ := ih _ shorter failed rfl
        refine ⟨c :: chars, behind, ?_, ?_, broken⟩
        · rw [whole, List.flatMap_cons, List.append_assoc]
        · rw [place, List.flatMap_cons, List.length_append, Nat.add_assoc]
      · obtain ⟨length, faulty, told⟩ := (decode_starts position first rest).resolve_left whole
        cases faulty.symm.trans failed
        exact ⟨[], first :: rest, rfl, rfl, fun c later same => whole ⟨c, later, same⟩, told⟩

/-! ## The longest well-formed part -/

theorem well_formed_iff : WellFormed bytes ↔ ∃ chars : List Char, chars.flatMap utf8EncodeChar = bytes := by
  constructor
  · rintro ⟨text, encoded⟩
    exact ⟨text.toList, encoded⟩
  · rintro ⟨chars, encoded⟩
    exact ⟨String.ofList chars, by rw [encode, String.toList_ofList, encoded]⟩

/-- What stands behind whole characters in well-formed bytes is well-formed itself. -/
theorem well_formed_behind (chars : List Char)
    (whole : WellFormed (chars.flatMap utf8EncodeChar ++ bytes)) : WellFormed bytes := by
  obtain ⟨others, encoded⟩ := well_formed_iff.mp whole
  induction chars generalizing others with
  | nil => exact well_formed_iff.mpr ⟨others, encoded⟩
  | cons c chars ih =>
    have read : decodeFrom 0 none ((c :: chars).flatMap utf8EncodeChar ++ bytes) = .ok others :=
      decode_from_ok_iff.mpr encoded
    rw [List.flatMap_cons, List.append_assoc, decode_character] at read
    obtain ⟨later, read, _⟩ := except_map_ok_iff.mp read
    have encoded := decode_from_ok_iff.mp read
    exact ih (well_formed_iff.mpr ⟨later, encoded⟩) later encoded

/-- A fault lies behind the longest part that is well-formed. -/
theorem valid_part_greatest {chars : List Char}
    (broken : ∀ c later, rest ≠ utf8EncodeChar c ++ later) :
    let bytes := chars.flatMap utf8EncodeChar ++ rest
    IsGreatest {count | count ≤ bytes.length ∧ WellFormed (bytes.take count)}
      (chars.flatMap utf8EncodeChar).length := by
  refine ⟨⟨?_, ?_⟩, ?_⟩
  · rw [List.length_append]
    omega
  · rw [List.take_left]
    exact well_formed_iff.mpr ⟨chars, rfl⟩
  · rintro count ⟨inside, formed⟩
    apply Nat.le_of_not_lt
    intro beyond
    rw [List.take_append, List.take_of_length_le (by omega)] at formed
    obtain ⟨others, encoded⟩ := well_formed_iff.mp (well_formed_behind chars formed)
    cases others with
    | nil =>
      have nothing := congrArg List.length encoded
      rw [List.length_append] at inside
      rw [List.flatMap_nil, List.length_nil, List.length_take] at nothing
      omega
    | cons c others =>
      apply broken c (others.flatMap utf8EncodeChar ++ rest.drop (count - (chars.flatMap utf8EncodeChar).length))
      rw [← List.append_assoc, ← List.flatMap_cons, encoded, List.take_append_drop]

/-! ## Content -/

theorem text_of_content_error (nonempty : content ≠ []) :
    textOfContent content = .error fault ↔
      ∃ broken, decodeFrom 0 none (withoutTerminator content) = .error broken ∧
        fault = .invalidUtf8 broken := by
  rw [textOfContent, withoutTerminator]
  cases last : content.getLast? with
  | none => exact absurd (List.getLast?_eq_none_iff.mp last) nonempty
  | some byte =>
    simp only [Option.some.injEq, decode]
    cases decodeFrom 0 none (if byte = 0 then content.dropLast else content) with
    | error broken =>
      change Except.error (Fault.invalidUtf8 broken) = .error fault ↔
        ∃ other, Except.error broken = .error other ∧ fault = .invalidUtf8 other
      simp [eq_comm]
    | ok chars =>
      constructor
      · intro refused
        cases refused
      · rintro ⟨_, refused, _⟩
        cases refused

/-- Content that is not empty is refused only for its encoding, where the longest well-formed part
ends. -/
theorem malformed_content (nonempty : content ≠ [])
    (malformed : ¬WellFormed (withoutTerminator content)) :
    ∃ fault, textOfContent content = .error (.invalidUtf8 fault) ∧
      IsGreatest {count | count ≤ (withoutTerminator content).length ∧
        WellFormed ((withoutTerminator content).take count)} fault.validUpTo ∧
      (withoutTerminator content).drop fault.validUpTo ≠ [] ∧
      TellsBreak ((withoutTerminator content).drop fault.validUpTo) fault.length := by
  cases decoded : decodeFrom 0 none (withoutTerminator content) with
  | ok chars => exact absurd (well_formed_iff.mpr ⟨chars, decode_from_ok_iff.mp decoded⟩) malformed
  | error fault =>
    refine ⟨fault, (text_of_content_error nonempty).mpr ⟨fault, decoded, rfl⟩, ?_⟩
    obtain ⟨chars, rest, whole, place, broken, told⟩ := decode_error decoded
    rw [Nat.zero_add] at place
    rw [whole, place, List.drop_left]
    refine ⟨valid_part_greatest broken, ?_, told⟩
    rintro rfl
    rw [List.append_nil] at whole
    exact malformed (well_formed_iff.mpr ⟨chars, whole.symm⟩)

/-- Content is a text exactly if it has a byte and is well-formed up to its terminator, and the text is
the one that is encoded there. Other content is refused at the end of its longest well-formed part. -/
theorem content_read_as_text (content : Bytes) :
    (textOfContent content = .error .emptyText ↔ content = []) ∧
    (content ≠ [] →
      let spelled := withoutTerminator content
      (∀ text, textOfContent content = .ok text ↔ encode text = spelled) ∧
      ((∃ text, textOfContent content = .ok text) ↔ WellFormed spelled) ∧
      (¬WellFormed spelled → ∃ fault, textOfContent content = .error (.invalidUtf8 fault) ∧
        IsGreatest {count | count ≤ spelled.length ∧ WellFormed (spelled.take count)}
          fault.validUpTo ∧
        spelled.drop fault.validUpTo ≠ [] ∧
        TellsBreak (spelled.drop fault.validUpTo) fault.length)) ∧
    ∀ text, textOfContent (encode text ++ [0]) = .ok text := by
  refine ⟨⟨?_, ?_⟩, ?_, ?_⟩
  · intro missing
    apply Decidable.byContradiction
    intro nonempty
    obtain ⟨_, _, ⟨⟩⟩ := (text_of_content_error nonempty).mp missing
  · rintro rfl
    rfl
  · intro nonempty spelled
    have read (text : String) : textOfContent content = .ok text ↔ encode text = spelled := by
      rw [text_of_content_ok_iff, and_iff_right nonempty]
    exact ⟨read, exists_congr read, malformed_content nonempty⟩
  · intro text
    rw [text_of_content_ok_iff]
    simp [withoutTerminator]

/-- Two bytes of three: with one NUL byte behind them the text ends inside a character, with two of
them it goes on with a byte that cannot stand there. -/
theorem interrupted_character_refused :
    let cut : Bytes := [0x61, 0xE2, 0x82, 0]
    let followed : Bytes := [0x61, 0xE2, 0x82, 0, 0]
    cut ≠ [] ∧ ¬WellFormed (withoutTerminator cut) ∧
    textOfContent cut = .error (.invalidUtf8 ⟨1, none⟩) ∧ BeginsCharacter [0xE2, 0x82] ∧
    followed ≠ [] ∧ ¬WellFormed (withoutTerminator followed) ∧
    textOfContent followed = .error (.invalidUtf8 ⟨1, some 2⟩) ∧
    ¬BeginsCharacter [0xE2, 0x82, 0] := by
  intro cut followed
  have cutRefused : textOfContent cut = .error (.invalidUtf8 ⟨1, none⟩) := rfl
  have followedRefused : textOfContent followed = .error (.invalidUtf8 ⟨1, some 2⟩) := rfl
  obtain ⟨_, cutRead, _⟩ := content_read_as_text cut
  obtain ⟨_, followedRead, _⟩ := content_read_as_text followed
  obtain ⟨_, cutFormed, cutBroken⟩ := cutRead (by decide)
  obtain ⟨_, followedFormed, followedBroken⟩ := followedRead (by decide)
  have cutMalformed : ¬WellFormed (withoutTerminator cut) := by
    rw [← cutFormed, cutRefused]
    nofun
  have followedMalformed : ¬WellFormed (withoutTerminator followed) := by
    rw [← followedFormed, followedRefused]
    nofun
  obtain ⟨_, told, _, _, begins⟩ := cutBroken cutMalformed
  cases cutRefused.symm.trans told
  obtain ⟨_, told, _, _, refused⟩ := followedBroken followedMalformed
  cases followedRefused.symm.trans told
  exact ⟨by decide, cutMalformed, cutRefused, begins, by decide, followedMalformed, followedRefused,
    refused.1⟩

end PackedAttributes.TextDecoding
