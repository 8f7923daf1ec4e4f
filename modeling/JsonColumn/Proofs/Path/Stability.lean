import JsonColumn.Proofs.Path.Parts
import JsonColumn.Proofs.Path.RoundTrip

/-!
What is read from text is stable. A path that was read is canonical, so its text is read as the same
path within the same limit, and its parts, taken one by one, make up the same path too.
-/

namespace JsonColumn

namespace PathPart

theorem inBrackets_index (position : Nat) :
    InBrackets (Nat.toDigits 10 position) (Segment.index position).text.toList where
  filled := Nat.toDigits_ne_nil
  areDigits := fun c => Nat.isDigit_of_mem_toDigits (by decide) (by decide)
  covers := .inl (by simp [Segment.text])

theorem InBrackets.head?_eq {digits text : List Char} (bracketed : InBrackets digits text) :
    text.head? = some '[' := by
  rcases bracketed.covers with rfl | rfl
  · rfl
  · rfl

theorem head?_ne_of_canonical {key : Key} (canonical : (Segment.key key).Canonical) :
    '[' ∉ key.name.toList.head? := by
  intro bracket
  obtain ⟨rest, split⟩ := List.head?_eq_some_iff.mp bracket
  have unquoted : '[' ≠ '"' := by decide
  obtain ⟨first, others, -, parts⟩ := Text.splitOn_bare unquoted rest
  have clear := canonical.2
  rw [split, parts, Text.evenEntries_cons, List.forall_mem_cons] at clear
  exact clear.1.2.2 (by simp)

theorem ofText_text {segment : Segment} (canonical : segment.Canonical) :
    ofText segment.text = .ok segment := by
  rw [ofText_eq_ok_iff]
  cases segment with
  | key key =>
      refine .inr ⟨fun digits bracketed => ?_, key, rfl, rfl⟩
      exact head?_ne_of_canonical canonical bracketed.head?_eq
  | index position =>
      refine .inl ⟨_, inBrackets_index position, ?_, ?_⟩
      · exact (Nat.length_toDigits_le_iff (by decide) (by decide)).mpr canonical
      · rw [Path.Item.decimal_toDigits]

end PathPart

namespace Path

theorem ofParts_parts {path : Path} (canonical : ∀ segment ∈ path.segments, segment.Canonical) :
    ofParts (path.parts.map fun part => .datum (.text part)) = .ok path := by
  rw [ofParts_texts_eq_ok_iff, parts, List.forall₂_map_left_iff, List.forall₂_same]
  intro segment member
  exact PathPart.ofText_text (canonical segment member)

/-- A path that was read is canonical and within the limit, and both its text and its parts give it
back. -/
theorem parse_stable {text : String} {limit : Int} {path : Path}
    (parsed : (parse text limit).outcome = .ok path) :
    (∀ key, .key key ∈ path.segments → key.name ≠ "" ∧ Key.ofText key.name = .ok key ∧
      ∀ part ∈ Text.evenEntries (Text.splitOn '"' key.name.toList),
        '.' ∉ part ∧ '$' ∉ part ∧ '[' ∉ part) ∧
    (∀ position, .index position ∈ path.segments → position < 10 ^ 18 ∧ position < 2 ^ 63) ∧
    (path.length : Int) ≤ max limit 0 ∧
    (parse path.format limit).outcome = .ok path ∧
    ofParts (path.parts.map fun part => .datum (.text part)) = .ok path := by
  obtain ⟨-, items, decomposes, denotes, depth⟩ :=
    read_eq_ok_iff.mp (outcome_parse_eq_ok_iff.mp parsed)
  have canonical := denotes.canonical decomposes.wellFormed
  refine ⟨fun key member => ?_, fun position member => ?_, by omega, ?_, ofParts_parts canonical⟩
  · obtain ⟨named, clear⟩ := canonical _ member
    exact ⟨named, (Key.ofText_eq_ok_iff _ _).mpr rfl, clear⟩
  · have short : position < 10 ^ 18 := canonical _ member
    exact ⟨short, by omega⟩
  · exact outcome_parse_eq_ok_iff.mpr (read_format canonical depth)

def bracketsInKey : Path where
  segments := [.key ⟨"a\"[1]\"", by decide +kernel⟩, .index 7]

theorem parse_stable_bracketsInKey :
    (parse "$.a\"[1]\"[007]." 2).outcome = .ok bracketsInKey ∧
      (parse bracketsInKey.format 2).outcome = .ok bracketsInKey ∧
      ofParts [.datum (.text "a\"[1]\""), .datum (.text "[7]")] = .ok bracketsInKey := by
  have parsed : (parse "$.a\"[1]\"[007]." 2).outcome = .ok bracketsInKey := by rfl
  obtain ⟨-, -, -, again, parts⟩ := parse_stable parsed
  exact ⟨parsed, again, parts⟩

end Path

end JsonColumn
