import JsonColumn.Path.Source
import JsonColumn.Proofs.Path.ReaderState

/-!
Paths from explicit parts. Each text is one segment: an index if it is a number in brackets, which a
line break may follow, and otherwise the key of that name.
-/

open JsonColumn.Path

namespace JsonColumn

namespace PathPart

/-- A number in brackets, with these digits. One line break may follow the bracket. -/
structure InBrackets (digits text : List Char) : Prop where
  filled : digits ≠ []
  areDigits : ∀ c ∈ digits, c.isDigit = true
  covers : text = '[' :: (digits ++ [']']) ∨ text = '[' :: (digits ++ [']', '\n'])

theorem bracketed?_eq_some_iff {text digits : List Char} :
    bracketed? text = some digits ↔ InBrackets digits text := by
  constructor
  · intro found
    unfold bracketed? at found
    split at found
    · rename_i rest
      dsimp only at found
      split at found
      · rename_i shape
        cases found
        have split := List.takeWhile_append_dropWhile (p := Char.isDigit) (l := rest)
        refine ⟨shape.1, List.all_eq_true.mp List.all_takeWhile, ?_⟩
        rcases shape.2 with tail | tail
        · left
          rw [← tail, split]
        · right
          rw [← tail, split]
      · cases found
    · cases found
  · rintro ⟨filled, areDigits, rfl | rfl⟩
    · simp [bracketed?, List.takeWhile_append_of_pos areDigits,
        List.dropWhile_append_of_pos areDigits, filled]
    · simp [bracketed?, List.takeWhile_append_of_pos areDigits,
        List.dropWhile_append_of_pos areDigits, filled]

theorem InBrackets.unique {digits others text : List Char} (first : InBrackets digits text)
    (second : InBrackets others text) : digits = others := by
  rw [← bracketed?_eq_some_iff] at first second
  exact Option.some.inj (first.symm.trans second)

theorem ofText_eq_ok_iff {text : String} {segment : Segment} : ofText text = .ok segment ↔
    (∃ digits, InBrackets digits text.toList ∧ digits.length ≤ 18 ∧
      segment = .index (Item.decimal digits)) ∨
    (∀ digits, ¬InBrackets digits text.toList) ∧ ∃ key : Key, key.name = text ∧
      segment = .key key := by
  simp only [← bracketed?_eq_some_iff]
  unfold ofText
  cases found : bracketed? text.toList with
  | none =>
      simp only [reduceCtorEq, false_and, exists_false, false_or, not_false_eq_true, implies_true,
        true_and]
      constructor
      · intro taken
        obtain ⟨key, accepted, taken⟩ := Outcome.bind_eq_ok_iff.mp taken
        cases taken
        exact ⟨key, (Key.ofText_eq_ok_iff _ _).mp accepted, rfl⟩
      · rintro ⟨key, name, rfl⟩
        exact Outcome.bind_eq_ok_iff.mpr ⟨key, (Key.ofText_eq_ok_iff _ _).mpr name, rfl⟩
  | some digits =>
      simp only [Option.some.injEq, exists_eq_left']
      constructor
      · intro taken
        obtain ⟨position, value, taken⟩ := Outcome.bind_eq_ok_iff.mp taken
        obtain ⟨short, rfl⟩ := readIndex_eq_ok_iff.mp value
        cases taken
        exact .inl ⟨by simpa using short, by simp⟩
      · rintro (⟨short, rfl⟩ | ⟨none, -⟩)
        · refine Outcome.bind_eq_ok_iff.mpr ⟨_, readIndex_eq_ok_iff.mpr ⟨?_, rfl⟩, by simp; rfl⟩
          simpa using short
        · exact absurd rfl (none digits)

theorem toSegment_text_eq_ok_iff {text : String} {segment : Segment} :
    toSegment (.datum (.text text)) = .ok segment ↔ ofText text = .ok segment := by
  cases taken : ofText text with
  | error fault => simp [toSegment, taken]
  | ok found => simp [toSegment, taken]

end PathPart

namespace Path

open PathPart

theorem ofParts_texts_eq_ok_iff {texts : List String} {path : Path} :
    ofParts (texts.map fun text => .datum (.text text)) = .ok path ↔
      List.Forall₂ (fun text segment => ofText text = .ok segment) texts path.segments := by
  have each : (texts.map fun text => PathPart.datum (.text text)).mapM toSegment =
      .ok path.segments ↔
        List.Forall₂ (fun text segment => ofText text = .ok segment) texts path.segments := by
    rw [Outcome.mapM_eq_ok_iff, List.forall₂_map_left_iff]
    simp only [toSegment_text_eq_ok_iff]
  rw [← each]
  constructor
  · intro built
    obtain ⟨segments, made, built⟩ := Outcome.bind_eq_ok_iff.mp built
    cases built
    exact made
  · intro made
    exact Outcome.bind_eq_ok_iff.mpr ⟨path.segments, made, rfl⟩

/-- A path from texts has one segment for each: an index for a number in brackets, and else a key as
it stands. -/
theorem ofParts_keeps_texts {texts : List String} {path : Path}
    (built : ofParts (texts.map fun text => .datum (.text text)) = .ok path) :
    List.Forall₂ (fun text segment =>
      (∀ position, segment = .index position ↔
        ∃ digits, InBrackets digits text.toList ∧ Item.decimal digits = position) ∧
      ∀ key, segment = .key key ↔
        (∀ digits, ¬InBrackets digits text.toList) ∧ key.name = text) texts path.segments := by
  refine (ofParts_texts_eq_ok_iff.mp built).imp fun text segment taken => ?_
  rcases ofText_eq_ok_iff.mp taken with ⟨digits, bracketed, -, rfl⟩ | ⟨other, key, name, rfl⟩
  · constructor
    · intro position
      rw [Segment.index.injEq]
      constructor
      · intro same
        exact ⟨digits, bracketed, same⟩
      · rintro ⟨others, again, same⟩
        rw [bracketed.unique again, same]
    · intro key
      simp only [reduceCtorEq, false_iff, not_and]
      intro other
      exact absurd bracketed (other digits)
  · constructor
    · intro position
      simp only [reduceCtorEq, false_iff, not_exists, not_and]
      intro digits bracketed
      exact absurd bracketed (other digits)
    · intro found
      rw [Segment.key.injEq]
      constructor
      · rintro rfl
        exact ⟨other, name⟩
      · rintro ⟨-, same⟩
        have equal : key.name = found.name := name.trans same.symm
        cases key
        cases found
        cases equal
        rfl

/-- A line break after the bracket is lost. -/
theorem ofParts_drops_lineBreak :
    ofParts [.datum (.text "[1]\n")] = .ok { segments := [.index 1] } ∧
      ∀ digits : List Char, "[1]\n".toList ≠ '[' :: (digits ++ [']']) := by
  refine ⟨rfl, fun digits same => ?_⟩
  have last := congrArg List.getLast? same
  rw [← List.cons_append, List.getLast?_concat] at last
  simp at last

def keptTexts : Path where
  segments := [.index 7, .key ⟨"[7]a.b", by decide +kernel⟩, .index 1]

theorem ofParts_keeps_texts_keptTexts :
    ofParts [.datum (.text "[007]"), .datum (.text "[7]a.b"), .datum (.text "[1]\n")] =
        .ok keptTexts ∧
      (∃ digits, InBrackets digits "[007]".toList ∧ Item.decimal digits = 7) ∧
      ∀ digits, ¬InBrackets digits "[7]a.b".toList := by
  have built : ofParts (["[007]", "[7]a.b", "[1]\n"].map fun text => .datum (.text text)) =
      .ok keptTexts := rfl
  have taken := ofParts_keeps_texts built
  simp only [keptTexts, List.forall₂_cons] at taken
  obtain ⟨first, second, -⟩ := taken
  exact ⟨built, (first.1 7).mp rfl, ((second.2 _).mp rfl).1⟩

end Path

end JsonColumn
