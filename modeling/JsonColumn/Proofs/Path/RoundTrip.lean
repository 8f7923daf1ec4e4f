import JsonColumn.Proofs.Path.KeyText
import JsonColumn.Proofs.Path.Reading

/-!
Reading the text of a path gives the path back just when the path is canonical, that is, when it
could have been read from some text.
-/

open JsonColumn.Path

namespace JsonColumn

namespace Segment

/-- Keys that do not end before their last character, and indexes of at most 18 digits. -/
def Canonical : Segment → Prop
  | key k => k.name ≠ "" ∧ ∀ part ∈ Text.evenEntries (Text.splitOn '"' k.name.toList),
      '.' ∉ part ∧ '$' ∉ part ∧ '[' ∉ part
  | index position => position < 10 ^ 18

def items : Segment → List Item
  | key k => [.separator '.', .key k.name.toList]
  | index position => [.index (Nat.toDigits 10 position)]

theorem flatMap_items (segment : Segment) :
    segment.items.flatMap Item.text = segment.step.toList := by
  cases segment with
  | key k => simp [items, Item.text, step, text]
  | index position => simp [items, Item.text, step, text]

theorem denotes_items (segment : Segment) : Denotes segment.items [segment] := by
  cases segment with
  | key k => exact .separator '.' (.key k .nil)
  | index position =>
      have denotes := Denotes.index (Nat.toDigits 10 position) .nil
      rwa [Item.decimal_toDigits] at denotes

theorem isRun_iff (k : Key) : Item.IsRun k.name.toList ↔
    ∀ part ∈ Text.evenEntries (Text.splitOn '"' k.name.toList),
      '.' ∉ part ∧ '$' ∉ part ∧ '[' ∉ part := by
  have odd := k.paired.entries.1
  have clear (part : List Char) :
      (∀ c ∈ part, c ∉ Item.stops) ↔ '.' ∉ part ∧ '$' ∉ part ∧ '[' ∉ part := by
    constructor
    · intro allowed
      exact ⟨fun stop => allowed '.' stop (by decide), fun stop => allowed '$' stop (by decide),
        fun stop => allowed '[' stop (by decide)⟩
    · rintro ⟨point, root, bracket⟩ c member stop
      simp only [Item.stops, List.mem_cons, List.not_mem_nil, or_false] at stop
      rcases stop with rfl | rfl | rfl
      · exact point member
      · exact root member
      · exact bracket member
  simp [Item.IsRun, Text.paired_iff_entries, odd, clear]

theorem wellFormed_items {segment : Segment} (canonical : segment.Canonical) :
    ∀ item ∈ segment.items, item.WellFormed := by
  cases segment with
  | key k =>
      simp only [items, List.forall_mem_cons]
      exact ⟨.inl rfl, ⟨by simpa using canonical.1, (isRun_iff k).mpr canonical.2⟩, by simp⟩
  | index position =>
      rw [items, List.forall_mem_singleton]
      refine ⟨fun c member => ?_, Nat.length_toDigits_pos, ?_⟩
      · exact Nat.isDigit_of_mem_toDigits (by decide) (by decide) member
      · exact (Nat.length_toDigits_le_iff (by decide) (by decide)).mpr canonical

theorem head?_flatMap_items (segments : List Segment) :
    ∀ item ∈ (segments.flatMap items).head?, ¬item.isKey := by
  cases segments with
  | nil => simp
  | cons segment segments =>
      cases segment with
      | key k => simp [items, Item.isKey]
      | index position => simp [items, Item.isKey]

theorem isChain_flatMap_items (segments : List Segment) :
    (segments.flatMap items).IsChain fun first second => ¬(first.isKey ∧ second.isKey) := by
  induction segments with
  | nil => simp
  | cons segment segments ih =>
      rw [List.flatMap_cons]
      refine List.isChain_append.mpr ⟨?_, ih, fun _ _ next member keys => ?_⟩
      · cases segment with
        | key k => simp [items, Item.isKey]
        | index position => simp [items]
      · exact head?_flatMap_items segments next member keys.2

end Segment

namespace Path

def items (path : Path) : List Item :=
  .separator '$' :: path.segments.flatMap Segment.items

theorem flatMap_items (path : Path) : path.items.flatMap Item.text = path.format.toList := by
  simp [items, format, Item.text, List.flatMap_assoc, Segment.flatMap_items, List.flatMap_map]

theorem denotes_items (path : Path) : Denotes path.items path.segments := by
  refine .separator '$' ?_
  induction path.segments with
  | nil => exact .nil
  | cons segment segments ih => exact segment.denotes_items.append ih

theorem decomposes_format {path : Path} (canonical : ∀ segment ∈ path.segments, segment.Canonical) :
    Decomposes path.format.toList path.items where
  covers := path.flatMap_items
  wellFormed := by
    refine List.forall_mem_cons.mpr ⟨.inr rfl, fun item member => ?_⟩
    obtain ⟨segment, inPath, inSegment⟩ := List.mem_flatMap.mp member
    exact Segment.wellFormed_items (canonical segment inPath) item inSegment
  maximal := List.isChain_cons.mpr
    ⟨fun _ _ keys => absurd keys.1 (by simp [Item.isKey]),
      Segment.isChain_flatMap_items path.segments⟩

theorem Denotes.canonical {items : List Item} {segments : List Segment}
    (denotes : Denotes items segments) (wellFormed : ∀ item ∈ items, item.WellFormed) :
    ∀ segment ∈ segments, segment.Canonical := by
  induction denotes with
  | nil => simp
  | separator c _ ih => exact ih (List.forall_mem_cons.mp wellFormed).2
  | index digits _ ih =>
      rw [List.forall_mem_cons] at wellFormed ⊢
      exact ⟨Item.decimal_lt wellFormed.1, ih wellFormed.2⟩
  | key key _ ih =>
      rw [List.forall_mem_cons] at wellFormed ⊢
      exact ⟨⟨by simpa using wellFormed.1.1, (Segment.isRun_iff key).mp wellFormed.1.2⟩,
        ih wellFormed.2⟩

theorem read_format {path : Path} {limit : Int}
    (canonical : ∀ segment ∈ path.segments, segment.Canonical)
    (depth : path.length ≤ limit.toNat) : read path.format limit = .ok path := by
  have clear : '\x00' ∉ path.format.toList := fun null =>
    (Key.bareChar_of_paired path.paired_format _ null).2 rfl
  exact read_eq_ok_iff.mpr
    ⟨clear, path.items, decomposes_format canonical, path.denotes_items, depth⟩

/-- The text of a path is read back as the path just when the path is canonical and not too long. -/
theorem parse_format_eq_ok_iff (path : Path) (limit : Nat) :
    (parse path.format limit).outcome = .ok path ↔
      (∀ segment ∈ path.segments, segment.Canonical) ∧ path.length ≤ limit := by
  rw [outcome_parse_eq_ok_iff]
  constructor
  · intro accepted
    obtain ⟨-, items, decomposes, denotes, depth⟩ := read_eq_ok_iff.mp accepted
    exact ⟨denotes.canonical decomposes.wellFormed, depth⟩
  · rintro ⟨canonical, depth⟩
    exact read_format canonical depth

end Path

end JsonColumn
