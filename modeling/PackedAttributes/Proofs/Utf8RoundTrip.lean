import PackedAttributes.Bytes.Basic

/-! Decoding UTF-8 accepts exactly the encodings of texts and gives those texts back. The first byte
of a character fixes the bits it carries and the ranges of the bytes behind it; the table of first
bytes is compared with the standard encoding of characters once, and all else is induction. -/
namespace PackedAttributes.Utf8RoundTrip
open Utf8
open String (utf8EncodeChar)

/-! ## One character -/

/-- The bytes lie in the ranges one after the other and complete the bits to the character. -/
def Completes : (bits : Nat) → List ByteRange → Bytes → Char → Prop
  | bits, [], [], c => c = Char.ofNat bits
  | bits, range :: ranges, byte :: bytes, c =>
    range.contains byte = true ∧ Completes (bits * 64 + byte.toNat % 64) ranges bytes c
  | _, _, _, _ => False

private theorem scalar_value (valid : n.isValidChar) : (Char.ofNat n).val.toNat = n := by
  rw [Char.ofNat, dif_pos valid]
  rfl

private theorem contains_iff {range : ByteRange} :
    range.contains byte = true ↔ range.low.toNat ≤ byte.toNat ∧ byte.toNat ≤ range.high.toNat := by
  simp [ByteRange.contains, UInt8.le_iff_toNat_le]

private theorem byte_eq (byte : UInt8) (value : n % 256 = byte.toNat) : UInt8.ofNat n = byte :=
  UInt8.toNat_inj.mp (by rw [UInt8.toNat_ofNat']; exact value)

private theorem encode_one (low : n ≤ 0x7F) : utf8EncodeChar (Char.ofNat n) = [UInt8.ofNat n] := by
  have valid : n.isValidChar := by omega
  simp only [utf8EncodeChar, scalar_value valid, low, if_true]

private theorem encode_two {first second : UInt8} (value : n = (first.toNat - 0xC0) * 64 + second.toNat % 64)
    (lead : 0xC2 ≤ first.toNat ∧ first.toNat ≤ 0xDF)
    (next : 0x80 ≤ second.toNat ∧ second.toNat ≤ 0xBF) :
    utf8EncodeChar (Char.ofNat n) = [first, second] := by
  have valid : n.isValidChar := by omega
  rw [utf8EncodeChar, scalar_value valid, if_neg (by omega), if_pos (by omega),
    byte_eq first (by omega), byte_eq second (by omega)]

private theorem encode_three {first second third : UInt8}
    (value : n = ((first.toNat - 0xE0) * 64 + second.toNat % 64) * 64 + third.toNat % 64)
    (lead : 0xE0 ≤ first.toNat ∧ first.toNat ≤ 0xEF)
    (next : 0x80 ≤ second.toNat ∧ second.toNat ≤ 0xBF)
    (last : 0x80 ≤ third.toNat ∧ third.toNat ≤ 0xBF)
    (long : 0x800 ≤ n) (valid : n.isValidChar) :
    utf8EncodeChar (Char.ofNat n) = [first, second, third] := by
  rw [utf8EncodeChar, scalar_value valid, if_neg (by omega), if_neg (by omega), if_pos (by omega),
    byte_eq first (by omega), byte_eq second (by omega), byte_eq third (by omega)]

private theorem encode_four {first second third fourth : UInt8}
    (value : n = (((first.toNat - 0xF0) * 64 + second.toNat % 64) * 64 + third.toNat % 64) * 64 +
      fourth.toNat % 64)
    (lead : 0xF0 ≤ first.toNat ∧ first.toNat ≤ 0xF4)
    (next : 0x80 ≤ second.toNat ∧ second.toNat ≤ 0xBF)
    (later : 0x80 ≤ third.toNat ∧ third.toNat ≤ 0xBF)
    (last : 0x80 ≤ fourth.toNat ∧ fourth.toNat ≤ 0xBF)
    (long : 0x10000 ≤ n) (valid : n.isValidChar) :
    utf8EncodeChar (Char.ofNat n) = [first, second, third, fourth] := by
  rw [utf8EncodeChar, scalar_value valid, if_neg (by omega), if_neg (by omega), if_neg (by omega),
    byte_eq first (by omega), byte_eq second (by omega), byte_eq third (by omega),
    byte_eq fourth (by omega)]

private theorem completes_nil : Completes bits [] rest c ↔ rest = [] ∧ c = Char.ofNat bits := by
  cases rest <;> simp [Completes]

private theorem completes_cons : Completes bits (range :: ranges) rest c ↔
    ∃ byte later, rest = byte :: later ∧
      (range.low.toNat ≤ byte.toNat ∧ byte.toNat ≤ range.high.toNat) ∧
      Completes (bits * 64 + byte.toNat % 64) ranges later c := by
  cases rest with
  | nil => simp [Completes]
  | cons byte later =>
    rw [Completes, contains_iff]
    constructor
    · intro held
      exact ⟨byte, later, rfl, held⟩
    · rintro ⟨_, _, ⟨⟩, held⟩
      exact held

private theorem lead_eq (first : UInt8) : lead? first =
    if first.toNat ≤ 0x7F then some (first.toNat, [])
    else if first.toNat < 0xC2 then none
    else if first.toNat ≤ 0xDF then some (first.toNat - 0xC0, [tail])
    else if first.toNat = 0xE0 then some (0, [⟨0xA0, 0xBF⟩, tail])
    else if first.toNat = 0xED then some (0xD, [⟨0x80, 0x9F⟩, tail])
    else if first.toNat ≤ 0xEF then some (first.toNat - 0xE0, [tail, tail])
    else if first.toNat = 0xF0 then some (0, [⟨0x90, 0xBF⟩, tail, tail])
    else if first.toNat ≤ 0xF3 then some (first.toNat - 0xF0, [tail, tail, tail])
    else if first.toNat = 0xF4 then some (4, [⟨0x80, 0x8F⟩, tail, tail])
    else none := by
  simp only [lead?, beq_iff_eq, UInt8.le_iff_toNat_le, UInt8.lt_iff_toNat_lt, ← UInt8.toNat_inj,
    UInt8.reduceToNat]

/-- What the table of first bytes allows is the encoding of the character that it spells. -/
theorem completes_encodes (lead : lead? first = some (bits, ranges))
    (completes : Completes bits ranges rest c) : utf8EncodeChar c = first :: rest := by
  have small := first.toNat_lt
  simp only [lead_eq, tail] at lead
  split at lead
  · simp only [Option.some.injEq, Prod.mk.injEq] at lead
    obtain ⟨rfl, rfl⟩ := lead
    obtain ⟨rfl, rfl⟩ := completes_nil.mp completes
    rw [encode_one (by omega), byte_eq first (by omega)]
  split at lead
  · cases lead
  split at lead
  · simp only [Option.some.injEq, Prod.mk.injEq] at lead
    obtain ⟨rfl, rfl⟩ := lead
    simp only [completes_cons, completes_nil, UInt8.reduceToNat] at completes
    obtain ⟨second, _, rfl, next, rfl, rfl⟩ := completes
    exact encode_two rfl (by omega) next
  split at lead
  · simp only [Option.some.injEq, Prod.mk.injEq] at lead
    obtain ⟨rfl, rfl⟩ := lead
    simp only [completes_cons, completes_nil, UInt8.reduceToNat] at completes
    obtain ⟨second, _, rfl, next, third, _, rfl, last, rfl, rfl⟩ := completes
    exact encode_three (by omega) (by omega) (by omega) last (by omega) (by omega)
  split at lead
  · simp only [Option.some.injEq, Prod.mk.injEq] at lead
    obtain ⟨rfl, rfl⟩ := lead
    simp only [completes_cons, completes_nil, UInt8.reduceToNat] at completes
    obtain ⟨second, _, rfl, next, third, _, rfl, last, rfl, rfl⟩ := completes
    exact encode_three (by omega) (by omega) (by omega) last (by omega) (by omega)
  split at lead
  · simp only [Option.some.injEq, Prod.mk.injEq] at lead
    obtain ⟨rfl, rfl⟩ := lead
    simp only [completes_cons, completes_nil, UInt8.reduceToNat] at completes
    obtain ⟨second, _, rfl, next, third, _, rfl, last, rfl, rfl⟩ := completes
    exact encode_three rfl (by omega) next last (by omega) (by omega)
  split at lead
  · simp only [Option.some.injEq, Prod.mk.injEq] at lead
    obtain ⟨rfl, rfl⟩ := lead
    simp only [completes_cons, completes_nil, UInt8.reduceToNat] at completes
    obtain ⟨second, _, rfl, next, third, _, rfl, later, fourth, _, rfl, last, rfl, rfl⟩ := completes
    exact encode_four (by omega) (by omega) (by omega) later last (by omega) (by omega)
  split at lead
  · simp only [Option.some.injEq, Prod.mk.injEq] at lead
    obtain ⟨rfl, rfl⟩ := lead
    simp only [completes_cons, completes_nil, UInt8.reduceToNat] at completes
    obtain ⟨second, _, rfl, next, third, _, rfl, later, fourth, _, rfl, last, rfl, rfl⟩ := completes
    exact encode_four rfl (by omega) next later last (by omega) (by omega)
  split at lead
  · simp only [Option.some.injEq, Prod.mk.injEq] at lead
    obtain ⟨rfl, rfl⟩ := lead
    simp only [completes_cons, completes_nil, UInt8.reduceToNat] at completes
    obtain ⟨second, _, rfl, next, third, _, rfl, later, fourth, _, rfl, last, rfl, rfl⟩ := completes
    exact encode_four (by omega) (by omega) (by omega) later last (by omega) (by omega)
  · cases lead

private theorem byte_value (small : n < 256) : (UInt8.ofNat n).toNat = n :=
  UInt8.toNat_ofNat_of_lt' small

private theorem tail_contains (byte : UInt8) (low : 0x80 ≤ byte.toNat) (high : byte.toNat ≤ 0xBF) :
    tail.contains byte = true :=
  contains_iff.mpr ⟨low, high⟩

private theorem lead_two (first : UInt8) (low : 0xC2 ≤ first.toNat) (high : first.toNat ≤ 0xDF) :
    lead? first = some (first.toNat - 0xC0, [tail]) := by
  rw [lead_eq, if_neg (by omega), if_neg (by omega), if_pos high]

/-- The second byte of three has a narrower range behind the smallest first byte, which could spell
shorter characters, and behind the one that could spell surrogates. -/
private theorem lead_three (first second : UInt8) (low : 0xE0 ≤ first.toNat)
    (high : first.toNat ≤ 0xEF) (next : 0x80 ≤ second.toNat ∧ second.toNat ≤ 0xBF)
    (long : first.toNat = 0xE0 → 0xA0 ≤ second.toNat)
    (scalar : first.toNat = 0xED → second.toNat ≤ 0x9F) :
    ∃ range, lead? first = some (first.toNat - 0xE0, [range, tail]) ∧
      range.contains second = true := by
  rw [lead_eq, if_neg (by omega), if_neg (by omega), if_neg (by omega)]
  by_cases least : first.toNat = 0xE0
  · rw [if_pos least, least]
    exact ⟨_, rfl, contains_iff.mpr ⟨long least, next.2⟩⟩
  by_cases surrogate : first.toNat = 0xED
  · rw [if_neg least, if_pos surrogate, surrogate]
    exact ⟨_, rfl, contains_iff.mpr ⟨next.1, scalar surrogate⟩⟩
  · rw [if_neg least, if_neg surrogate, if_pos high]
    exact ⟨_, rfl, contains_iff.mpr next⟩

/-- The second byte of four has a narrower range behind the smallest first byte, which could spell
shorter characters, and behind the largest one, which could spell too large ones. -/
private theorem lead_four (first second : UInt8) (low : 0xF0 ≤ first.toNat)
    (high : first.toNat ≤ 0xF4) (next : 0x80 ≤ second.toNat ∧ second.toNat ≤ 0xBF)
    (long : first.toNat = 0xF0 → 0x90 ≤ second.toNat)
    (scalar : first.toNat = 0xF4 → second.toNat ≤ 0x8F) :
    ∃ range, lead? first = some (first.toNat - 0xF0, [range, tail, tail]) ∧
      range.contains second = true := by
  rw [lead_eq, if_neg (by omega), if_neg (by omega), if_neg (by omega), if_neg (by omega),
    if_neg (by omega), if_neg (by omega)]
  by_cases least : first.toNat = 0xF0
  · rw [if_pos least, least]
    exact ⟨_, rfl, contains_iff.mpr ⟨long least, next.2⟩⟩
  by_cases largest : first.toNat = 0xF4
  · rw [if_neg least, if_neg (by omega), if_pos largest, largest]
    exact ⟨_, rfl, contains_iff.mpr ⟨next.1, scalar largest⟩⟩
  · rw [if_neg least, if_pos (by omega)]
    exact ⟨_, rfl, contains_iff.mpr next⟩

/-- Every encoding starts with a byte of the table and keeps to the ranges that it sets. -/
theorem encode_completes (c : Char) : ∃ first rest bits ranges,
    utf8EncodeChar c = first :: rest ∧ lead? first = some (bits, ranges) ∧
      Completes bits ranges rest c := by
  have valid : c.val.toNat.isValidChar := c.valid
  have whole : Char.ofNat c.val.toNat = c := Char.ofNat_toNat c
  rw [utf8EncodeChar]
  generalize c.val.toNat = n at valid whole
  subst whole
  by_cases one : n ≤ 0x7F
  · have first := byte_value (n := n) (by omega)
    rw [if_pos one]
    refine ⟨_, _, n, [], rfl, ?_, rfl⟩
    rw [lead_eq, first, if_pos one]
  by_cases two : n ≤ 0x7FF
  · have first := byte_value (n := n / 64 % 0x20 + 0xC0) (by omega)
    have second := byte_value (n := n % 0x40 + 0x80) (by omega)
    rw [if_neg one, if_pos two]
    refine ⟨_, _, _, _, rfl, lead_two _ (by omega) (by omega),
      tail_contains _ (by omega) (by omega), ?_⟩
    rw [Completes, first, second]
    exact congrArg Char.ofNat (by omega)
  by_cases three : n ≤ 0xFFFF
  · have first := byte_value (n := n / 4096 % 0x10 + 0xE0) (by omega)
    have second := byte_value (n := n / 64 % 0x40 + 0x80) (by omega)
    have third := byte_value (n := n % 0x40 + 0x80) (by omega)
    obtain ⟨range, lead, next⟩ := lead_three (UInt8.ofNat (n / 4096 % 0x10 + 0xE0))
      (UInt8.ofNat (n / 64 % 0x40 + 0x80)) (by omega) (by omega) (by omega) (by omega) (by omega)
    rw [if_neg one, if_neg two, if_pos three]
    refine ⟨_, _, _, _, rfl, lead, next, tail_contains _ (by omega) (by omega), ?_⟩
    rw [Completes, first, second, third]
    exact congrArg Char.ofNat (by omega)
  · have first := byte_value (n := n / 262144 % 0x08 + 0xF0) (by omega)
    have second := byte_value (n := n / 4096 % 0x40 + 0x80) (by omega)
    have third := byte_value (n := n / 64 % 0x40 + 0x80) (by omega)
    have fourth := byte_value (n := n % 0x40 + 0x80) (by omega)
    obtain ⟨range, lead, next⟩ := lead_four (UInt8.ofNat (n / 262144 % 0x08 + 0xF0))
      (UInt8.ofNat (n / 4096 % 0x40 + 0x80)) (by omega) (by omega) (by omega) (by omega) (by omega)
    rw [if_neg one, if_neg two, if_neg three]
    refine ⟨_, _, _, _, rfl, lead, next, tail_contains _ (by omega) (by omega),
      tail_contains _ (by omega) (by omega), ?_⟩
    rw [Completes, first, second, third, fourth]
    exact congrArg Char.ofNat (by omega)

/-! ## Texts -/

/-- The rest of a character that is being read is taken off the bytes. -/
theorem decode_pending (pending : Pending) (position : Nat)
    (completes : Completes pending.bits (pending.next :: pending.later) bytes c) :
    decodeFrom position (some pending) (bytes ++ rest) =
      (decodeFrom (position + bytes.length) none rest).map (c :: ·) := by
  induction bytes generalizing pending position with
  | nil => simp [Completes] at completes
  | cons byte bytes ih =>
    obtain ⟨inside, completes⟩ := completes
    rw [List.cons_append, decodeFrom, if_pos inside]
    cases later : pending.later with
    | nil =>
      rw [later] at completes
      obtain ⟨rfl, rfl⟩ := completes_nil.mp completes
      simp [Pending.advance, later]
    | cons next ranges =>
      rw [later] at completes
      have further := ih ⟨pending.start, pending.read + 1, _, next, ranges⟩ (position + 1) completes
      simp only [Pending.advance, later]
      rw [further, List.length_cons, Nat.add_assoc, Nat.add_comm 1]

/-- Whatever is read from the middle of a character on completes that character first. -/
theorem decode_pending_completes
    (read : decodeFrom position (some pending) bytes = .ok chars) :
    ∃ front rest c others, bytes = front ++ rest ∧ chars = c :: others ∧
      Completes pending.bits (pending.next :: pending.later) front c ∧
      decodeFrom (position + front.length) none rest = .ok others := by
  induction bytes generalizing pending position with
  | nil => simp [decodeFrom] at read
  | cons byte bytes ih =>
    rw [decodeFrom] at read
    split at read
    · rename_i inside
      cases later : pending.later with
      | nil =>
        simp only [Pending.advance, later] at read
        cases rest : decodeFrom (position + 1) none bytes with
        | error fault => simp [rest, Except.map] at read
        | ok others =>
          simp only [rest, Except.map, Except.ok.injEq] at read
          exact ⟨[byte], bytes, _, others, rfl, read.symm, ⟨inside, rfl⟩, rest⟩
      | cons next ranges =>
        simp only [Pending.advance, later] at read
        obtain ⟨front, rest, c, others, rfl, rfl, completes, further⟩ := ih read
        refine ⟨byte :: front, rest, c, others, rfl, rfl, ⟨inside, completes⟩, ?_⟩
        rwa [List.length_cons, Nat.add_comm front.length, ← Nat.add_assoc]
    · cases read

/-- Reading from the start of a character takes off its encoding. -/
theorem decode_character (c : Char) (rest : Bytes) :
    decodeFrom position none (utf8EncodeChar c ++ rest) =
      (decodeFrom (position + (utf8EncodeChar c).length) none rest).map (c :: ·) := by
  obtain ⟨first, behind, bits, ranges, encoded, lead, completes⟩ := encode_completes c
  rw [encoded, List.cons_append, decodeFrom]
  cases ranges with
  | nil =>
    obtain ⟨rfl, rfl⟩ := completes_nil.mp completes
    simp [start?, lead]
  | cons next later =>
    have further : decodeFrom (position + 1) (some ⟨position, 1, bits, next, later⟩)
        (behind ++ rest) = _ := decode_pending _ _ completes
    simp only [start?, lead]
    rw [further, List.length_cons, Nat.add_assoc, Nat.add_comm 1]

/-- Whatever is read from a byte on begins with a character that this byte starts. -/
theorem decode_first (read : decodeFrom position none (first :: bytes) = .ok chars) :
    ∃ c others rest, chars = c :: others ∧ first :: bytes = utf8EncodeChar c ++ rest ∧
      decodeFrom (position + (utf8EncodeChar c).length) none rest = .ok others := by
  rw [decodeFrom] at read
  cases lead : lead? first with
  | none => simp [start?, lead] at read
  | some known =>
    obtain ⟨bits, ranges⟩ := known
    cases ranges with
    | nil =>
      have complete : Completes bits [] [] (Char.ofNat bits) := rfl
      have encoded := completes_encodes lead complete
      simp only [start?, lead] at read
      cases later : decodeFrom (position + 1) none bytes with
      | error fault => simp [later, Except.map] at read
      | ok others =>
        simp only [later, Except.map, Except.ok.injEq] at read
        exact ⟨_, others, bytes, read.symm, by rw [encoded]; rfl, by rw [encoded]; exact later⟩
    | cons next later =>
      simp only [start?, lead] at read
      obtain ⟨front, rest, c, others, rfl, rfl, completes, further⟩ :=
        decode_pending_completes read
      have encoded := completes_encodes lead completes
      refine ⟨c, others, rest, rfl, by rw [encoded]; rfl, ?_⟩
      rwa [encoded, List.length_cons, Nat.add_comm front.length, ← Nat.add_assoc]

theorem decode_from_ok_iff :
    decodeFrom position none bytes = .ok chars ↔ chars.flatMap utf8EncodeChar = bytes := by
  induction chars generalizing position bytes with
  | nil =>
    constructor
    · intro read
      cases bytes with
      | nil => rfl
      | cons first bytes =>
        obtain ⟨_, _, _, ⟨⟩, _⟩ := decode_first read
    · rintro rfl
      rfl
  | cons c others ih =>
    rw [List.flatMap_cons]
    constructor
    · intro read
      cases bytes with
      | nil => simp [decodeFrom] at read
      | cons first bytes =>
        obtain ⟨_, _, rest, ⟨⟩, whole, later⟩ := decode_first read
        rw [whole, ih.mp later]
    · rintro rfl
      rw [decode_character, ih.mpr rfl]
      rfl

/-- Bytes are decoded to a text exactly when they are its encoding. -/
theorem decode_ok_iff (bytes : Bytes) (text : String) :
    decode bytes = .ok text ↔ encode text = bytes := by
  have step : decode bytes = .ok text ↔ decodeFrom 0 none bytes = .ok text.toList := by
    rw [decode]
    cases decodeFrom 0 none bytes with
    | error fault => simp [Except.map]
    | ok chars => simp [Except.map, ← String.toList_inj]
  rw [step, decode_from_ok_iff, encode]

end PackedAttributes.Utf8RoundTrip
