import PackedAttributes.Bytes.Basic
import PackedAttributes.Text.Basic

/-! Quoted text can be read back, so no two texts look the same in quotes, and it stays on its line
whatever the text is. -/
namespace PackedAttributes.QuotedText
open Text

/-! ## Line breaks -/

/-- No character of the text ends a line. -/
def Unbroken (chars : List Char) : Prop :=
  ∀ c ∈ chars, c ≠ '\n' ∧ c ≠ '\r'

instance (chars : List Char) : Decidable (Unbroken chars) :=
  decidable_of_iff (chars.all (fun c => c != '\n' && c != '\r') = true) (by simp [Unbroken])

@[simp] theorem unbroken_nil : Unbroken [] :=
  nofun

@[simp] theorem unbroken_cons : Unbroken (c :: chars) ↔ (c ≠ '\n' ∧ c ≠ '\r') ∧ Unbroken chars :=
  List.forall_mem_cons

@[simp] theorem unbroken_append : Unbroken (front ++ back) ↔ Unbroken front ∧ Unbroken back :=
  List.forall_mem_append

theorem unbroken_flat_map {items : List α} {each : α → List Char}
    (own : ∀ item ∈ items, Unbroken (each item)) :
    Unbroken (items.flatMap each) := by
  intro c member
  obtain ⟨item, inside, found⟩ := List.mem_flatMap.mp member
  exact own item inside c found

/-! ## Digits -/

/-- What holds of all digits of a base holds of all digits of a number. -/
theorem to_digits_forall {property : Char → Prop} (wide : 1 < base)
    (all : ∀ digit < base, property (Nat.digitChar digit)) (n : Nat) :
    ∀ c ∈ Nat.toDigits base n, property c := by
  induction n using Nat.strongRecOn with
  | _ n ih =>
    rw [Nat.toDigits_eq_if wide]
    split
    · rename_i small
      simpa using all n small
    · rename_i large
      have last := all (n % base) (Nat.mod_lt n (by omega))
      simpa [or_imp, forall_and] using ⟨ih (n / base) (Nat.div_lt_self (by omega) wide), last⟩

theorem hex_digit_unbroken : ∀ digit < 16, Nat.digitChar digit ≠ '\n' ∧ Nat.digitChar digit ≠ '\r' := by
  decide

theorem to_digits_unbroken (wide : 1 < base) (narrow : base ≤ 16) (n : Nat) :
    Unbroken (Nat.toDigits base n) :=
  to_digits_forall wide (fun digit small => hex_digit_unbroken digit (by omega)) n

/-! ## Quotes -/

/-- A printable character ends no line. -/
theorem printable_unbroken (printable : isPrintable c = true) : c ≠ '\n' ∧ c ≠ '\r' := by
  constructor <;> rintro rfl <;> revert printable <;> decide

theorem escape_unbroken (c : Char) : Unbroken (escapeChar c) := by
  unfold escapeChar
  split
  case h_7 =>
    split
    · rename_i printable
      simpa using printable_unbroken printable
    · simpa [codePointEscape] using to_digits_unbroken (by decide) (Nat.le_refl 16) c.toNat
  all_goals decide

theorem quoted_unbroken (text : String) : Unbroken (quoted text).toList := by
  simpa [quoted] using unbroken_flat_map fun c _ => escape_unbroken c

/-! ## Reading quotes -/

/-- Where the reading of a quoted text stands. -/
inductive Stage where
  /-- Between two characters. -/
  | between
  /-- Behind a backslash. -/
  | escape
  /-- Behind the `u` of a code point. -/
  | codePoint
  /-- Among the digits of a code point, which have a value so far. -/
  | digits (value : Nat)

/-- The character that a letter behind a backslash stands for. -/
def escaped? : Char → Option Char
  | '0' => some '\x00'
  | 't' => some '\t'
  | 'n' => some '\n'
  | 'r' => some '\r'
  | '"' => some '"'
  | '\\' => some '\\'
  | _ => none

/-- The characters up to the closing quote, behind which nothing may follow. -/
def readQuoted? : Stage → List Char → Option (List Char)
  | _, [] => none
  | .between, c :: rest =>
    if c = '"' then (if rest = [] then some [] else none)
    else if c = '\\' then readQuoted? .escape rest
    else (readQuoted? .between rest).map (c :: ·)
  | .escape, c :: rest =>
    if c = 'u' then readQuoted? .codePoint rest
    else (escaped? c).bind (fun own => (readQuoted? .between rest).map (own :: ·))
  | .codePoint, c :: rest => if c = '\x7b' then readQuoted? (.digits 0) rest else none
  | .digits value, c :: rest =>
    if c = '\x7d' then (readQuoted? .between rest).map (Char.ofNat value :: ·)
    else (hexDigit? c).bind (fun digit => readQuoted? (.digits (16 * value + digit)) rest)

/-- The text that a quoted text stands for. -/
def unquote? (text : String) : Option String :=
  match text.toList with
  | '"' :: rest => (readQuoted? .between rest).map String.ofList
  | _ => none

theorem hex_digit_read : ∀ digit < 16, Nat.digitChar digit ≠ '\x7d' ∧
    hexDigit? (Nat.digitChar digit) = some digit := by
  decide

theorem read_digit (small : digit < 16) (value : Nat) (rest : List Char) :
    readQuoted? (.digits value) (Nat.digitChar digit :: rest) =
      readQuoted? (.digits (16 * value + digit)) rest := by
  obtain ⟨other, read⟩ := hex_digit_read digit small
  rw [readQuoted?, if_neg other, read, Option.bind_some]

theorem read_digits (n : Nat) (rest : List Char) :
    readQuoted? (.digits 0) (Nat.toDigits 16 n ++ rest) = readQuoted? (.digits n) rest := by
  induction n using Nat.strongRecOn generalizing rest with
  | _ n ih =>
    rw [Nat.toDigits_eq_if (by decide)]
    split
    · rename_i small
      rw [List.singleton_append, read_digit small, Nat.mul_zero, Nat.zero_add]
    · rename_i large
      rw [List.append_assoc, ih (n / 16) (by omega), List.singleton_append,
        read_digit (Nat.mod_lt n (by decide)), Nat.div_add_mod]

/-- Reading an escaped character gives the character, whatever follows. -/
theorem read_escaped (c : Char) (rest : List Char) :
    readQuoted? .between (escapeChar c ++ rest) = (readQuoted? .between rest).map (c :: ·) := by
  unfold escapeChar
  split
  case h_7 notQuote notBackslash =>
    split
    · rw [List.singleton_append, readQuoted?, if_neg notQuote, if_neg notBackslash]
    · simp only [codePointEscape, List.cons_append, List.nil_append, List.append_assoc]
      simp only [readQuoted?, read_digits]
      simp
  all_goals rfl

theorem read_quoted (chars : List Char) :
    readQuoted? .between (chars.flatMap escapeChar ++ ['"']) = some chars := by
  induction chars with
  | nil => rfl
  | cons c rest ih => rw [List.flatMap_cons, List.append_assoc, read_escaped, ih, Option.map_some]

/-- Unquoting takes quoting back. -/
theorem unquote_quoted (text : String) : unquote? (quoted text) = some text := by
  rw [unquote?, quoted, String.toList_ofList]
  change (readQuoted? .between _).map _ = _
  rw [read_quoted, Option.map_some, String.ofList_toList]

theorem quoted_injective {text other : String} (same : quoted text = quoted other) : text = other := by
  have read := unquote_quoted text
  rw [same, unquote_quoted] at read
  exact (Option.some.inj read).symm

end PackedAttributes.QuotedText
