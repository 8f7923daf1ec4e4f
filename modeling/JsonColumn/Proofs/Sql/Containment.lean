import JsonColumn.Proofs.Sql.Extraction
import Mathlib.Data.List.Chain

/-!
An extraction by functions keeps to its own text. Whatever its column and its keys are, it ends
outside of quotes, the column is found again in identifiers, and of the keys only the stretches
between their quotes stand outside of literals.
-/

namespace JsonColumn

namespace Segment

def stretches : Segment → List (List Char)
  | key k => Text.stretches k.name.toList
  | index _ => []

def bareStep : Segment → List Char
  | key k => '.' :: Text.bareText k.name.toList
  | index position => (index position).step.toList

theorem unquoted_index (position : Nat) : '"' ∉ (index position).step.toList := by
  simp only [step, text, String.toList_append, Nat.toList_repr, List.mem_append, not_or]
  refine ⟨⟨by decide, fun quote => ?_⟩, by decide⟩
  have isDigit := Nat.isDigit_of_mem_toDigits (by decide) (by decide) quote
  simp at isDigit

theorem cut_step (segment : Segment) : Text.stretches segment.step.toList = segment.stretches ∧
    Text.bareText segment.step.toList = segment.bareStep := by
  cases segment with
  | key k =>
      have point : Text.Paired Key.BareChar Key.Quotable ['.'] :=
        .bare (by decide) ⟨by decide, by decide⟩ .nil
      obtain ⟨inside, bare⟩ := point.cut_append k.name.toList
      have text : (key k).step.toList = ['.'] ++ k.name.toList := by simp [step, text]
      rw [text, inside, bare]
      exact ⟨rfl, rfl⟩
  | index position =>
      have whole := Text.splitOn_eq_singleton (unquoted_index position)
      simp [Text.stretches, Text.bareText, whole, stretches, bareStep]

end Segment

namespace Path

def stretches (path : Path) : List (List Char) :=
  path.segments.flatMap Segment.stretches

/-- The text of the path without the quotes of the keys and without what stands between them. -/
def bareFormat (path : Path) : List Char :=
  '$' :: path.segments.flatMap Segment.bareStep

theorem cut_steps (segments : List Segment) :
    Text.stretches (segments.flatMap fun segment => segment.step.toList) =
        segments.flatMap Segment.stretches ∧
      Text.bareText (segments.flatMap fun segment => segment.step.toList) =
        segments.flatMap Segment.bareStep := by
  induction segments with
  | nil => exact ⟨rfl, rfl⟩
  | cons segment segments ih =>
      obtain ⟨stretches, bare⟩ := segment.paired_step.cut_append
        (segments.flatMap fun segment => segment.step.toList)
      simp only [List.flatMap_cons]
      rw [stretches, bare, segment.cut_step.1, segment.cut_step.2, ih.1, ih.2]
      exact ⟨rfl, rfl⟩

theorem toList_format (path : Path) :
    path.format.toList = ['$'] ++ path.segments.flatMap fun segment => segment.step.toList := by
  simp [format, List.flatMap_map]

theorem cut_format (path : Path) : Text.stretches path.format.toList = path.stretches ∧
    Text.bareText path.format.toList = path.bareFormat := by
  have root : Text.Paired Key.BareChar Key.Quotable ['$'] :=
    .bare (by decide) ⟨by decide, by decide⟩ .nil
  obtain ⟨stretches, bare⟩ := root.cut_append
    (path.segments.flatMap fun segment => segment.step.toList)
  rw [toList_format, stretches, bare, (cut_steps path.segments).1, (cut_steps path.segments).2]
  exact ⟨rfl, rfl⟩

theorem quotable_stretches (path : Path) : ∀ stretch ∈ path.stretches, Key.Quotable stretch := by
  rw [← path.cut_format.1]
  exact path.paired_format.entries.2.2

theorem unquoted_format {path : Path}
    (unquoted : ∀ key, .key key ∈ path.segments → '"' ∉ key.name.toList) :
    '"' ∉ path.format.toList := by
  rw [toList_format, List.mem_append, List.mem_flatMap]
  rintro (root | ⟨segment, member, quote⟩)
  · simp at root
  · cases segment with
    | key k => exact unquoted k member (by simpa [Segment.step, Segment.text] using quote)
    | index position => exact Segment.unquoted_index position quote

end Path

namespace Lexeme

/-- No comment starts: outside of quotes no hyphen comes right after another. -/
def Uncommented (lexemes : List Lexeme) : Prop :=
  lexemes.IsChain fun first second => ¬(first = plain '-' ∧ second = plain '-')

theorem mem_outside_iff {c : Char} {lexemes : List Lexeme} :
    c ∈ outside lexemes ↔ plain c ∈ lexemes := by
  induction lexemes with
  | nil => simp
  | cons lexeme lexemes ih =>
      cases lexeme with
      | plain found => simp [ih]
      | quoted mark content => simp [ih]

namespace Uncommented

theorem append {first second : List Lexeme} (left : Uncommented first)
    (right : Uncommented second)
    (apart : plain '-' ∉ first.getLast? ∨ plain '-' ∉ second.head?) :
    Uncommented (first ++ second) := by
  refine List.isChain_append.mpr ⟨left, right, fun last isLast next isNext hyphens => ?_⟩
  rcases apart with apart | apart
  · exact apart (hyphens.1 ▸ isLast)
  · exact apart (hyphens.2 ▸ isNext)

theorem of_absent {lexemes : List Lexeme} (absent : '-' ∉ outside lexemes) :
    Uncommented lexemes := by
  induction lexemes with
  | nil => exact .nil
  | cons lexeme lexemes ih =>
      rw [mem_outside_iff, List.mem_cons, not_or] at absent
      refine List.isChain_cons.mpr ⟨fun next _ hyphens => absent.1 hyphens.1.symm, ih ?_⟩
      rw [mem_outside_iff]
      exact absent.2

theorem enclose {lexemes front back : List Lexeme} (uncommented : Uncommented lexemes)
    (before : '-' ∉ outside front) (after : '-' ∉ outside back) :
    Uncommented (front ++ lexemes ++ back) := by
  have frontApart : plain '-' ∉ front.getLast? := fun last =>
    before (mem_outside_iff.mpr (List.mem_of_getLast? last))
  have backApart : plain '-' ∉ back.head? := fun first =>
    after (mem_outside_iff.mpr (List.mem_of_head? first))
  exact ((of_absent before).append uncommented (.inl frontApart)).append (of_absent after)
    (.inr backApart)

theorem map_plain {text : List Char} (single : Key.hasDoubleHyphen text = false) :
    Uncommented (text.map plain) := by
  fun_induction Key.hasDoubleHyphen text with
  | case1 rest => cases single
  | case2 c rest apart ih =>
      refine List.isChain_cons.mpr ⟨fun next isNext hyphens => ?_, ih single⟩
      obtain ⟨more, split⟩ : ∃ more, rest = '-' :: more := by
        cases rest with
        | nil => cases isNext
        | cons head more =>
            rw [hyphens.2] at isNext
            exact ⟨more, by simpa using isNext⟩
      exact apart more (by simpa using hyphens.1) split
  | case3 => exact .nil

theorem of_alternating {parts : List (List Char)}
    (single : ∀ stretch ∈ Text.oddEntries parts, Key.hasDoubleHyphen stretch = false) :
    Uncommented (alternating parts) := by
  induction parts using alternating.induct with
  | case1 => exact .nil
  | case2 last => exact .singleton _
  | case3 inside stretch rest ih =>
      rw [Text.oddEntries, List.forall_mem_cons] at single
      have later : plain '-' ∉ (alternating rest).head? := by
        unfold alternating
        split
        · simp
        · simp
        · simp
      refine List.isChain_cons.mpr ⟨by simp, ?_⟩
      exact (map_plain single.1).append (ih single.2) (.inr later)

end Uncommented

end Lexeme

namespace Extraction

open Dialect

theorem uncommented_callLexemes (extraction : Extraction) :
    Lexeme.Uncommented extraction.callLexemes := by
  have opening : '-' ∉ extraction.callOpening := not_mem_callOpening (by decide) extraction
  have closing : '-' ∉ extraction.callClosing := not_mem_callClosing (by decide) extraction
  have path : Lexeme.Uncommented
      (Lexeme.alternating (Text.splitOn '"' extraction.path.format.toList)) :=
    .of_alternating fun stretch member =>
      (extraction.path.paired_format.entries.2.2 stretch member).hasDoubleHyphen_eq_false
  exact path.enclose (by simpa using opening) (by simpa using closing)

/-- Of the column and the keys nothing stands outside of quotes but the stretches quoted in keys,
which cannot quote or comment. -/
theorem call_contains_names (extraction : Extraction) :
    ∃ lexemes, mysql.lex (extraction.sql .mysql).toList = some lexemes ∧
      Lexeme.contents '`' lexemes = Text.splitOn '.' extraction.column.toList ∧
      (Lexeme.contents '"' lexemes).flatten = extraction.path.bareFormat ∧
      Lexeme.contents '\'' lexemes = [] ∧
      Lexeme.outside lexemes = extraction.callOpening ++
        List.replicate ((Text.splitOn '.' extraction.column.toList).length - 1) '.' ++
        ", ".toList ++ extraction.path.stretches.flatten ++ extraction.callClosing ∧
      ((∀ key, .key key ∈ extraction.path.segments → '"' ∉ key.name.toList) →
        lexemes = extraction.callOpening.map .plain ++
          Lexeme.qualified '`' (Text.splitOn '.' extraction.column.toList) ++
          ", ".toList.map .plain ++ [.quoted '"' extraction.path.format.toList] ++
          extraction.callClosing.map .plain) ∧
      (∀ c ∈ extraction.path.stretches.flatten,
        Text.isWord c = true ∨ c ∈ " .[]*$@:+-".toList) ∧
      Lexeme.Uncommented lexemes := by
  obtain ⟨inside, bare⟩ := extraction.path.cut_format
  have cut := extraction.lex_call []
  refine ⟨extraction.callLexemes, by simpa [sql, lex, lexFrom] using cut, ?_, ?_, ?_, ?_, ?_, ?_,
    extraction.uncommented_callLexemes⟩
  · simp [callLexemes]
  · rw [← bare]
    simp [callLexemes, Text.bareText]
  · simp [callLexemes]
  · rw [← inside]
    exact extraction.outside_callLexemes
  · intro unquoted
    rw [callLexemes, Text.splitOn_eq_singleton (Path.unquoted_format unquoted)]
    rfl
  · intro c member
    obtain ⟨stretch, isStretch, inStretch⟩ := List.mem_flatten.mp member
    have quotable := extraction.path.quotable_stretches stretch isStretch
    simpa [Key.isQuotableChar] using quotable.isQuotableChar c inStretch

def bareKeys : Extraction where
  column := "t.a`b"
  path := { segments := [.key ⟨"it's -- `", by decide +kernel⟩, .index 3] }
  options := { unquote := true }

theorem call_contains_names_bareKeys :
    (∀ key, .key key ∈ bareKeys.path.segments → '"' ∉ key.name.toList) ∧
    ∃ lexemes, mysql.lex (bareKeys.sql .mysql).toList = some lexemes ∧
      Lexeme.contents '`' lexemes = ["t".toList, "a`b".toList] ∧
      Lexeme.contents '"' lexemes = ["$.it's -- `[3]".toList] ∧
      Lexeme.outside lexemes = "JSON_UNQUOTE(JSON_EXTRACT(., ))".toList := by
  have unquoted : ∀ key, .key key ∈ bareKeys.path.segments → '"' ∉ key.name.toList := by
    intro key member
    have same : key = ⟨"it's -- `", by decide +kernel⟩ := by simpa [bareKeys] using member
    subst same
    decide
  obtain ⟨lexemes, cut, names, -, -, outside, single, -, -⟩ := call_contains_names bareKeys
  refine ⟨unquoted, lexemes, cut, names.trans (by decide), ?_, outside.trans (by decide +kernel)⟩
  have format : bareKeys.path.format.toList = "$.it's -- `[3]".toList := by decide +kernel
  simp [single unquoted, format]

end Extraction

end JsonColumn
