import PackedAttributes.Bytes.Reader
import PackedAttributes.Proofs.WordSpelling

/-! All that is read from a buffer is said in terms of the blocks that lie in it. A reader is exact
when it succeeds just where the bytes of some value lie, gives that value and stops right behind
those bytes. Exactness is kept by reading one part after another, so what a composite reader accepts
follows from the order of its parts. -/
namespace PackedAttributes.ExactReading
open Bytes WordSpelling

/-! ## Positions -/

/-- The buffer continues with the block at the position. -/
def LiesAt (bytes : Bytes) (position : Nat) (block : Bytes) : Prop :=
  block <+: bytes.drop position

instance : Decidable (LiesAt bytes position block) :=
  inferInstanceAs (Decidable (block <+: bytes.drop position))

theorem lies_at_append :
    LiesAt bytes position (front ++ back) ↔
      LiesAt bytes position front ∧ LiesAt bytes (position + front.length) back := by
  simp only [LiesAt, ← List.drop_drop]
  constructor
  · rintro ⟨rest, whole⟩
    rw [← whole, List.append_assoc]
    exact ⟨List.prefix_append .., by simp⟩
  · rintro ⟨⟨rest, whole⟩, later⟩
    rw [← whole, List.drop_left] at later
    obtain ⟨tail, rfl⟩ := later
    exact ⟨tail, by rw [List.append_assoc, whole]⟩

@[simp] theorem lies_at_nil : LiesAt bytes position [] :=
  List.nil_prefix

theorem lies_at_iff_slice :
    LiesAt bytes position block ↔ bytes.slice position block.length = block :=
  List.prefix_iff_eq_take.trans eq_comm

theorem lies_at_room (lies : LiesAt bytes position block) (nonempty : 0 < block.length) :
    position + block.length ≤ bytes.length := by
  have := lies.length_le
  rw [List.length_drop] at this
  omega

theorem slice_length {bytes : Bytes} (room : position + size ≤ bytes.length) :
    (bytes.slice position size).length = size := by
  simp only [slice, List.length_take, List.length_drop]
  omega

theorem slice_lies_at {bytes : Bytes} : LiesAt bytes position (bytes.slice position size) :=
  List.take_prefix ..

/-- A block of full length lies at the start of nothing but itself. -/
theorem lies_at_whole (full : block.length = bytes.length) :
    LiesAt bytes 0 block ↔ block = bytes := by
  constructor
  · intro lies
    exact List.IsPrefix.eq_of_length lies full
  · rintro rfl
    exact List.prefix_rfl

/-- A block between what stands before and behind it lies where the front ends. -/
theorem lies_at_middle (front block back : Bytes) (start : front.length = position) :
    LiesAt (front ++ block ++ back) position block := by
  subst start
  simp [LiesAt, List.append_assoc]

/-! ## Readers -/

theorem pure_ok_iff {value result : α} :
    (pure value : Reader α) bytes position = .ok (result, after) ↔
      result = value ∧ after = position := by
  change Except.ok (value, position) = .ok (result, after) ↔ _
  simp [eq_comm]

theorem bind_ok_iff {reader : Reader α} {next : α → Reader β} :
    (reader >>= next) bytes position = .ok (result, after) ↔
      ∃ value middle, reader bytes position = .ok (value, middle) ∧
        next value bytes middle = .ok (result, after) := by
  cases step : reader bytes position with
  | error fault => simp [bind, step]
  | ok read =>
    simp only [bind, step, Except.ok.injEq]
    constructor
    · intro later
      exact ⟨read.1, read.2, rfl, later⟩
    · rintro ⟨value, middle, ⟨⟩, later⟩
      exact later

theorem take_ok_iff (positive : 0 < size) :
    Reader.take size bytes position = .ok (block, after) ↔
      LiesAt bytes position block ∧ block.length = size ∧ after = position + size := by
  unfold Reader.take
  constructor
  · split
    · rename_i room
      rintro ⟨⟩
      exact ⟨slice_lies_at, slice_length room, rfl⟩
    · nofun
  · rintro ⟨lies, rfl, rfl⟩
    rw [if_pos (lies_at_room lies positive), lies_at_iff_slice.mp lies]

/-- The reader accepts exactly the spellings of some parts, makes its value of the parts and stops
behind them. Every block of the right size spells some parts, so only missing bytes are refused. -/
structure Exact {δ α : Type} (reader : Reader α) (size : Nat) (spell : δ → Bytes) (make : δ → α) :
    Prop where
  /-- All spellings have the same size. -/
  width : ∀ parts, (spell parts).length = size
  /-- Every block of that size is a spelling. -/
  onto : ∀ block, block.length = size → ∃ parts, spell parts = block
  /-- What the reader gives, and where. -/
  reads : ∀ bytes position value after, reader bytes position = .ok (value, after) ↔
    ∃ parts, LiesAt bytes position (spell parts) ∧ value = make parts ∧ after = position + size

theorem exact_pure (value : α) : Exact (pure value) 0 (fun _ : Unit => []) (fun _ => value) where
  width _ := rfl
  onto block empty := ⟨(), (List.eq_nil_of_length_eq_zero empty).symm⟩
  reads bytes position result after := by
    rw [pure_ok_iff]
    simp

/-- Reading one part and then the rest. -/
theorem exact_bind {reader : Reader α} {next : α → Reader γ} {spell : β → Bytes} {part : β → α}
    {rest : δ → Bytes} {make : β → δ → γ} (first : Exact reader size spell part)
    (second : ∀ front, Exact (next (part front)) further rest (make front)) :
    Exact (reader >>= next) (size + further)
      (fun parts : β × δ => spell parts.1 ++ rest parts.2) (fun parts => make parts.1 parts.2) where
  width parts := by
    rw [List.length_append, first.width, (second parts.1).width]
  onto block length := by
    obtain ⟨front, spelled⟩ := first.onto (block.take size) (by simp; omega)
    obtain ⟨back, remaining⟩ := (second front).onto (block.drop size) (by simp; omega)
    exact ⟨(front, back), by rw [spelled, remaining, List.take_append_drop]⟩
  reads bytes position result after := by
    rw [bind_ok_iff]
    constructor
    · rintro ⟨value, middle, read, later⟩
      obtain ⟨front, lies, rfl, rfl⟩ := (first.reads ..).mp read
      obtain ⟨back, behind, rfl, rfl⟩ := ((second front).reads ..).mp later
      refine ⟨(front, back), lies_at_append.mpr ⟨lies, ?_⟩, rfl, by omega⟩
      rwa [first.width]
    · rintro ⟨⟨front, back⟩, lies, rfl, rfl⟩
      obtain ⟨lies, behind⟩ := lies_at_append.mp lies
      rw [first.width] at behind
      exact ⟨part front, position + size, (first.reads ..).mpr ⟨front, lies, rfl, rfl⟩,
        ((second front).reads ..).mpr ⟨back, behind, rfl, by omega⟩⟩

/-- The parts may be named differently, as long as every naming is reached. -/
theorem exact_congr {reader : Reader α} {spell : δ → Bytes} {make : δ → α}
    {respell : ε → Bytes} {remake : ε → α} (exact : Exact reader size spell make)
    (rename : δ → ε) (reached : ∀ renamed, ∃ parts, rename parts = renamed)
    (spelled : ∀ parts, respell (rename parts) = spell parts)
    (made : ∀ parts, remake (rename parts) = make parts) :
    Exact reader size respell remake where
  width renamed := by
    obtain ⟨parts, rfl⟩ := reached renamed
    rw [spelled, exact.width]
  onto block length := by
    obtain ⟨parts, rfl⟩ := exact.onto block length
    exact ⟨rename parts, spelled parts⟩
  reads bytes position value after := by
    rw [exact.reads]
    constructor
    · rintro ⟨parts, lies, rfl, stop⟩
      exact ⟨rename parts, by rwa [spelled], (made parts).symm, stop⟩
    · rintro ⟨renamed, lies, rfl, stop⟩
      obtain ⟨parts, rfl⟩ := reached renamed
      exact ⟨parts, by rwa [← spelled], made parts, stop⟩

/-- An exact reader succeeds wherever there is room. -/
theorem exact_succeeds {reader : Reader α} {spell : δ → Bytes} {make : δ → α}
    (exact : Exact reader size spell make) (room : position + size ≤ bytes.length) :
    ∃ value, reader bytes position = .ok (value, position + size) := by
  obtain ⟨parts, spelled⟩ := exact.onto _ (slice_length room)
  refine ⟨make parts, (exact.reads ..).mpr ⟨parts, ?_, rfl, rfl⟩⟩
  rw [spelled]
  exact slice_lies_at

/-! ## Words -/

theorem take_exact (positive : 0 < size) :
    Exact (Reader.take size) size (fun block : { block : Bytes // block.length = size } => block.val)
      Subtype.val where
  width block := block.property
  onto block length := ⟨⟨block, length⟩, rfl⟩
  reads bytes position value after := by
    rw [take_ok_iff positive]
    constructor
    · rintro ⟨lies, length, stop⟩
      exact ⟨⟨value, length⟩, lies, rfl, stop⟩
    · rintro ⟨block, lies, rfl, stop⟩
      exact ⟨lies, block.property, stop⟩

/-- A block that carries its length is read like any other. -/
theorem block_exact (positive : 0 < size) :
    Exact (Reader.block size) size Subtype.val id where
  width block := block.property
  onto block length := ⟨⟨block, length⟩, rfl⟩
  reads bytes position value after := by
    unfold Reader.block
    constructor
    · split
      · rintro ⟨⟩
        exact ⟨_, slice_lies_at, rfl, rfl⟩
      · nofun
    · rintro ⟨block, lies, rfl, rfl⟩
      have room := lies_at_room lies (by rw [value.property]; exact positive)
      have found := lies_at_iff_slice.mp lies
      rw [value.property] at room found
      rw [dif_pos room]
      simp [found]

/-- A value that is computed from a block of fixed size, where the block is its only spelling. -/
theorem computed_exact {read : Bytes → α} {spell : α → Bytes} (positive : 0 < size)
    (width : ∀ value, (spell value).length = size)
    (spells : ∀ {block : Bytes}, block.length = size → ∀ value,
      read block = value ↔ block = spell value) :
    Exact (do let block ← Reader.take size; return read block) size spell id := by
  have steps : Exact (do let block ← Reader.take size; return read block) (size + 0) _ _ :=
    exact_bind (take_exact positive) (fun block => exact_pure (read block.val))
  refine exact_congr steps (fun parts => read parts.1.val) ?_ ?_ (fun _ => rfl)
  · intro value
    exact ⟨(⟨spell value, width value⟩, ()), (spells (width value) value).mpr rfl⟩
  · intro parts
    rw [List.append_nil]
    exact ((spells parts.1.property _).mp rfl).symm

theorem word32_exact : Exact Reader.word32 4 ofWord32 id :=
  computed_exact (by decide) of_word32_length word32_eq_iff

theorem word64_exact : Exact Reader.word64 8 ofWord64 id :=
  computed_exact (by decide) of_word64_length word64_eq_iff

theorem int32_exact : Exact Reader.int32 4 ofInt32 id := by
  have steps : Exact Reader.int32 (4 + 0) _ _ :=
    exact_bind word32_exact (fun word => exact_pure word.toInt32)
  exact exact_congr steps (fun parts => parts.1.toInt32)
    (fun word => ⟨(word.toUInt32, ()), rfl⟩) (fun parts => by simp [ofInt32]) (fun _ => rfl)

theorem int64_exact : Exact Reader.int64 8 ofInt64 id := by
  have steps : Exact Reader.int64 (8 + 0) _ _ :=
    exact_bind word64_exact (fun word => exact_pure word.toInt64)
  exact exact_congr steps (fun parts => parts.1.toInt64)
    (fun word => ⟨(word.toUInt64, ()), rfl⟩) (fun parts => by simp [ofInt64]) (fun _ => rfl)

end PackedAttributes.ExactReading
