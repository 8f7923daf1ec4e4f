import JsonColumn.Expr.Write
import JsonColumn.Proofs.Sql.Extraction
import Mathlib.Data.List.Chain

/-!
Placeholders in the text of a draft. Where plain text keeps the pieces apart, the placeholders found
outside of quotes are the ones that were drafted, in the same order.
-/

namespace JsonColumn

namespace Dialect

def placeholderMark : Dialect → Char
  | mysql => '?'
  | postgresql => '$'

end Dialect

namespace Lexeme

def leadingDigits : List Lexeme → List Char
  | plain c :: rest => if c.isDigit then c :: leadingDigits rest else []
  | _ => []

/-- The digits of each numbered placeholder: a dollar sign outside of quotes with digits after. -/
def parameters : List Lexeme → List (List Char)
  | [] => []
  | lexeme :: rest =>
      if lexeme = plain '$' ∧ leadingDigits rest ≠ [] then leadingDigits rest :: parameters rest
      else parameters rest

theorem parameters_append {front : List Lexeme} (absent : '$' ∉ outside front)
    (rest : List Lexeme) : parameters (front ++ rest) = parameters rest := by
  induction front with
  | nil => rfl
  | cons lexeme front ih =>
      cases lexeme with
      | plain c =>
          simp only [outside_plain, List.mem_cons, not_or] at absent
          have other : ¬c = '$' := fun same => absent.1 same.symm
          simp [parameters, other, ih absent.2]
      | quoted mark content =>
          simp only [outside_quoted] at absent
          simp [parameters, ih absent]

theorem leadingDigits_append {digits : List Char} (isDigit : ∀ c ∈ digits, c.isDigit = true)
    {rest : List Lexeme} (ended : leadingDigits rest = []) :
    leadingDigits (digits.map plain ++ rest) = digits := by
  induction digits with
  | nil => exact ended
  | cons c digits ih =>
      rw [List.forall_mem_cons] at isDigit
      simp [leadingDigits, isDigit.1, ih isDigit.2]

theorem parameters_placeholder {digits : List Char} (isDigit : ∀ c ∈ digits, c.isDigit = true)
    (some : digits ≠ []) {rest : List Lexeme} (ended : leadingDigits rest = []) :
    parameters (plain '$' :: (digits.map plain ++ rest)) = digits :: parameters rest := by
  have absent : '$' ∉ outside (digits.map plain) := by
    rw [outside_map_plain]
    intro member
    simpa using isDigit '$' member
  rw [parameters, leadingDigits_append isDigit ended, if_pos ⟨rfl, some⟩,
    parameters_append absent]

end Lexeme

namespace Piece

def loaded : List Char :=
  ['`', '\'', '"', '?', '$']

def Clear : Piece → Prop
  | plain text => Text.Avoids text.toList loaded
  | identifier _ => True
  | extract extraction =>
      ∀ type ∈ extraction.options.castTarget, Text.Avoids type.toList loaded
  | placeholder index => 0 ≤ index

def IsPlain : Piece → Prop
  | plain _ => True
  | _ => False

def Separates : Piece → Prop
  | plain text => ∃ c rest, text.toList = c :: rest ∧ c ∈ [' ', ')', ',']
  | _ => False

/-- Every piece that is not plain is followed by plain text that separates it from the rest. -/
def Spaced (pieces : List Piece) : Prop :=
  pieces.IsChain fun first second => first.IsPlain ∨ second.Separates

def number? : Piece → Option Int
  | placeholder index => some index
  | _ => none

def text (dialect : Dialect) (pieces : List Piece) : List Char :=
  pieces.flatMap fun piece => (piece.sql dialect).toList

theorem not_mem_marks {c : Char} (dialect : Dialect) (clear : c ∉ loaded) : c ∉ dialect.marks := by
  cases dialect <;> simp_all [loaded, Dialect.marks]

theorem ne_placeholderMark {c : Char} (dialect : Dialect) (clear : c ∉ loaded) :
    c ≠ dialect.placeholderMark := by
  cases dialect <;> simp_all [loaded, Dialect.placeholderMark]

theorem text_eq_nil_or_cons (dialect : Dialect) {piece : Piece} {rest : List Piece}
    (spaced : Spaced (piece :: rest)) (other : ¬piece.IsPlain) :
    text dialect rest = [] ∨
      ∃ c more, text dialect rest = c :: more ∧ c ∈ [' ', ')', ','] := by
  cases rest with
  | nil => exact .inl rfl
  | cons next rest =>
      rw [Spaced, List.isChain_cons_cons] at spaced
      have separates := spaced.1.resolve_left other
      cases next with
      | plain between =>
          obtain ⟨c, more, split, member⟩ := separates
          exact .inr ⟨c, more ++ text dialect rest, by simp [text, sql, split], member⟩
      | identifier _ => exact separates.elim
      | extract _ => exact separates.elim
      | placeholder _ => exact separates.elim

theorem apart_text (dialect : Dialect) {piece : Piece} {rest : List Piece}
    (spaced : Spaced (piece :: rest)) (other : ¬piece.IsPlain) :
    dialect.Apart (text dialect rest) := by
  have separating : Text.Avoids [' ', ')', ','] dialect.marks := by
    cases dialect <;> decide
  rcases text_eq_nil_or_cons dialect spaced other with empty | ⟨c, more, split, member⟩
  · simp [Dialect.Apart, empty]
  · simpa [Dialect.Apart, split] using separating c member

theorem leadingDigits_eq_nil {piece : Piece} {rest : List Piece} {lexemes : List Lexeme}
    (spaced : Spaced (piece :: rest)) (other : ¬piece.IsPlain)
    (cut : Dialect.postgresql.lex (text .postgresql rest) = some lexemes) :
    Lexeme.leadingDigits lexemes = [] := by
  have unmarked : Text.Avoids [' ', ')', ','] Dialect.postgresql.marks := by decide
  have noDigits : ([' ', ')', ','].all fun c => !c.isDigit) = true := by decide
  rcases text_eq_nil_or_cons .postgresql spaced other with empty | ⟨c, more, split, member⟩
  · rw [empty] at cut
    cases cut
    rfl
  · have noDigit : c.isDigit = false := by simpa using List.all_eq_true.mp noDigits c member
    have plain : Text.Avoids [c] Dialect.postgresql.marks :=
      List.forall_mem_singleton.mpr (unmarked c member)
    rw [split, ← List.singleton_append, Dialect.lex_plain [c] plain] at cut
    obtain ⟨later, -, same⟩ := Option.map_eq_some_iff.mp cut
    simp [← same, Lexeme.leadingDigits, noDigit]

end Piece

namespace Extraction

open Dialect

theorem not_mem_outside_hopLexemes (unquote : Bool) (segments : List Segment) :
    '$' ∉ Lexeme.outside (hopLexemes unquote segments) := by
  have operand (segment : Segment) : '$' ∉ Lexeme.outside (operandLexemes segment) := by
    cases segment with
    | key key => simp [operandLexemes]
    | index position =>
        rw [operandLexemes, Lexeme.outside_map_plain]
        intro member
        simpa using Nat.isDigit_of_mem_toDigits (by decide) (by decide) member
  induction segments with
  | nil => simp [hopLexemes]
  | cons segment others ih =>
      cases others with
      | nil => cases unquote <;> simp [hopLexemes, operand segment]
      | cons next others => simp [hopLexemes, operand segment, ih]

theorem not_mem_outside_arrowLexemes {extraction : Extraction}
    (clear : (Piece.extract extraction).Clear) :
    '$' ∉ Lexeme.outside extraction.arrowLexemes := by
  have hops := not_mem_outside_hopLexemes extraction.options.unquote extraction.path.segments
  unfold arrowLexemes
  cases wanted : extraction.options.castTarget with
  | none => simp [hops]
  | some type =>
      have absent : '$' ∉ type.toList := fun member =>
        clear type (by simp [wanted]) '$' member (by decide)
      simp [hops, absent]

theorem not_mem_outside_callLexemes (extraction : Extraction) :
    '?' ∉ Lexeme.outside extraction.callLexemes := by
  have opening : '?' ∉ extraction.callOpening := not_mem_callOpening (by decide) extraction
  have closing : '?' ∉ extraction.callClosing := not_mem_callClosing (by decide) extraction
  have stretches : ∀ content ∈ Text.oddEntries
      (Text.splitOn '"' extraction.path.format.toList), '?' ∉ content := by
    intro content member inside
    have quotable := extraction.path.paired_format.entries.2.2 content member
    have impossible := quotable.isQuotableChar '?' inside
    revert impossible
    decide
  rw [outside_callLexemes]
  simpa [opening, closing] using stretches

end Extraction

namespace Piece

open Dialect

theorem lex_other (dialect : Dialect) {piece : Piece} {rest : List Piece}
    (spaced : Spaced (piece :: rest)) (clear : piece.Clear) (other : piece.number? = none) :
    ∃ lexemes,
      dialect.lex ((piece.sql dialect).toList ++ text dialect rest) =
        (dialect.lex (text dialect rest)).map (lexemes ++ ·) ∧
      dialect.placeholderMark ∉ Lexeme.outside lexemes := by
  cases piece with
  | plain between =>
      refine ⟨between.toList.map .plain, ?_, ?_⟩
      · exact lex_plain _ (fun c member => not_mem_marks dialect (clear c member)) _
      · rw [Lexeme.outside_map_plain]
        exact fun member => ne_placeholderMark dialect (clear _ member) rfl
  | identifier name =>
      have isMark : dialect.nameMark ∈ dialect.marks := by
        cases dialect <;> decide
      have apart := (apart_text dialect spaced (by simp [IsPlain])).head?_ne isMark
      refine ⟨_, lex_quote apart name, ?_⟩
      cases dialect <;> simp [placeholderMark]
  | extract extraction =>
      have apart := apart_text dialect spaced (by simp [IsPlain])
      cases dialect with
      | mysql =>
          exact ⟨_, extraction.lex_call (text .mysql rest),
            extraction.not_mem_outside_callLexemes⟩
      | postgresql =>
          have unmarked : ∀ type ∈ extraction.options.castTarget,
              Text.Avoids type.toList postgresql.marks :=
            fun type wanted c member => not_mem_marks _ (clear type wanted c member)
          exact ⟨_, extraction.lex_arrows apart unmarked,
            Extraction.not_mem_outside_arrowLexemes clear⟩
  | placeholder index => simp [number?] at other

theorem text_cons (dialect : Dialect) (piece : Piece) (rest : List Piece) :
    text dialect (piece :: rest) = (piece.sql dialect).toList ++ text dialect rest := by
  simp [text]

theorem parameters_text {pieces : List Piece} (clear : ∀ piece ∈ pieces, piece.Clear)
    (spaced : Spaced pieces) :
    ∃ lexemes, postgresql.lex (text .postgresql pieces) = some lexemes ∧
      Lexeme.parameters lexemes =
        (pieces.filterMap number?).map fun index => Nat.toDigits 10 index.toNat := by
  induction pieces with
  | nil => exact ⟨[], rfl, rfl⟩
  | cons piece rest ih =>
      rw [List.forall_mem_cons] at clear
      obtain ⟨later, cutLater, found⟩ := ih clear.2 spaced.tail
      rw [text_cons]
      cases number : piece.number? with
      | none =>
          obtain ⟨lexemes, cut, absent⟩ := lex_other .postgresql spaced clear.1 number
          refine ⟨lexemes ++ later, by rw [cut, cutLater]; rfl, ?_⟩
          rw [Lexeme.parameters_append absent, found, List.filterMap_cons_none number]
      | some index =>
          cases piece with
          | placeholder index =>
              obtain ⟨position, same⟩ := Int.eq_ofNat_of_zero_le clear.1
              subst same
              have digits : ∀ c ∈ Nat.toDigits 10 position, c.isDigit = true :=
                fun c => Nat.isDigit_of_mem_toDigits (by decide) (by decide)
              have plain : Text.Avoids ('$' :: Nat.toDigits 10 position) postgresql.marks :=
                List.forall_mem_cons.mpr
                  ⟨by decide, fun c member => not_mem_marks_of_isDigit _ (digits c member)⟩
              have written : ((Piece.placeholder position).sql .postgresql).toList =
                  '$' :: Nat.toDigits 10 position := by
                simp [sql, Dialect.placeholder, Int.repr_eq_if]
              have ended := leadingDigits_eq_nil spaced (by simp [IsPlain]) cutLater
              refine ⟨_, by rw [written, lex_plain _ plain, cutLater]; rfl, ?_⟩
              simpa [number?, found] using Lexeme.parameters_placeholder digits (by simp) ended
          | plain _ => simp [number?] at number
          | identifier _ => simp [number?] at number
          | extract _ => simp [number?] at number

theorem count_text {pieces : List Piece} (clear : ∀ piece ∈ pieces, piece.Clear)
    (spaced : Spaced pieces) :
    ∃ lexemes, mysql.lex (text .mysql pieces) = some lexemes ∧
      (Lexeme.outside lexemes).count '?' = (pieces.filterMap number?).length := by
  induction pieces with
  | nil => exact ⟨[], rfl, rfl⟩
  | cons piece rest ih =>
      rw [List.forall_mem_cons] at clear
      obtain ⟨later, cutLater, found⟩ := ih clear.2 spaced.tail
      rw [text_cons]
      cases number : piece.number? with
      | none =>
          obtain ⟨lexemes, cut, absent⟩ := lex_other .mysql spaced clear.1 number
          refine ⟨lexemes ++ later, by rw [cut, cutLater]; rfl, ?_⟩
          have none : (Lexeme.outside lexemes).count '?' = 0 := List.count_eq_zero.mpr absent
          rw [Lexeme.outside_append, List.count_append, found, none, Nat.zero_add,
            List.filterMap_cons_none number]
      | some index =>
          cases piece with
          | placeholder index =>
              have written : ((Piece.placeholder index).sql .mysql).toList = "?".toList := rfl
              refine ⟨_, by rw [written, lex_plain _ (by decide), cutLater]; rfl, ?_⟩
              simp [number?, found]
          | plain _ => simp [number?] at number
          | identifier _ => simp [number?] at number
          | extract _ => simp [number?] at number

end Piece

end JsonColumn
