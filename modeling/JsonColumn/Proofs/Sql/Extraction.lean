import JsonColumn.Extraction
import JsonColumn.Proofs.Path.KeyText
import JsonColumn.Proofs.Sql.Lexeme

/-!
Extractions cut into lexemes. The arrows of one dialect keep every key in a literal of its own. The
path literal of the other is left at each quote of a key and entered again at the next, so that the
stretches between the quotes of the keys stand outside of it.
-/

namespace JsonColumn

namespace Lexeme

/-- Text that was cut at double quotes, in turn inside of a literal and outside. -/
def alternating : List (List Char) → List Lexeme
  | [] => []
  | [last] => [quoted '"' last]
  | inside :: stretch :: rest => quoted '"' inside :: (stretch.map plain ++ alternating rest)

@[simp] theorem outside_alternating (parts : List (List Char)) :
    outside (alternating parts) = (Text.oddEntries parts).flatten := by
  induction parts using alternating.induct with
  | case1 => rfl
  | case2 last => rfl
  | case3 inside stretch rest ih => simp [alternating, ih]

@[simp] theorem contents_alternating (mark : Char) (parts : List (List Char)) :
    contents mark (alternating parts) = if '"' = mark then Text.evenEntries parts else [] := by
  induction parts using alternating.induct with
  | case1 => simp [alternating]
  | case2 last => simp [alternating]
  | case3 inside stretch rest ih =>
      by_cases same : '"' = mark
      · subst same
        simp [alternating, ih]
      · simp [alternating, same, ih]

end Lexeme

namespace Dialect

/-- Text that cannot be taken for more of a quoted stretch before it. -/
def Apart (dialect : Dialect) (rest : List Char) : Prop :=
  ∀ c ∈ rest.head?, c ∉ dialect.marks

theorem Apart.head?_ne {dialect : Dialect} {rest : List Char} (apart : dialect.Apart rest)
    {mark : Char} (isMark : mark ∈ dialect.marks) : rest.head? ≠ some mark :=
  fun same => apart mark (by simp [same]) isMark

theorem not_mem_marks_of_isQuotableChar {c : Char} (quotable : Key.isQuotableChar c = true) :
    c ∉ mysql.marks := by
  intro isMark
  simp only [marks, List.mem_cons, List.not_mem_nil, or_false] at isMark
  rcases isMark with same | same | same
  all_goals
    subst same
    revert quotable
    decide

theorem modifyHead_nil_append (parts : List (List Char)) :
    parts.modifyHead ([] ++ ·) = parts := by
  cases parts with
  | nil => rfl
  | cons first others => rfl

theorem lexFrom_inside_paired {text : List Char}
    (paired : Text.Paired Key.BareChar Key.Quotable text) {rest : List Char}
    (apart : rest.head? ≠ some '"') (before : List Char) :
    lexFrom mysql (.inside '"' before) (text ++ '"' :: rest) =
      (mysql.lex rest).map
        (Lexeme.alternating ((Text.splitOn '"' text).modifyHead (before ++ ·)) ++ ·) := by
  induction paired generalizing before with
  | nil =>
      rw [List.nil_append, lexFrom, if_pos rfl, lexFrom_ended before apart]
      simp [Lexeme.alternating]
  | @bare c text unquoted allowed _ ih =>
      obtain ⟨first, others, parts, partsMore⟩ := Text.splitOn_bare unquoted text
      rw [List.cons_append, lexFrom, if_neg unquoted, if_neg (fun escape => allowed.1 escape.1),
        ih (before ++ [c]), parts, partsMore]
      simp
  | @quoted stretch text unquoted allowed _ ih =>
      have plain : Text.Avoids stretch mysql.marks := fun c member =>
        not_mem_marks_of_isQuotableChar (allowed.isQuotableChar c member)
      obtain ⟨head, tail, split⟩ := List.exists_cons_of_ne_nil allowed.ne_nil
      have stretchApart : (stretch ++ '"' :: (text ++ '"' :: rest)).head? ≠ some '"' := by
        intro same
        have quote : head = '"' := by simpa [split] using same
        exact unquoted (by simp [split, quote])
      have left : lexFrom mysql (.inside '"' before)
          ('"' :: (stretch ++ '"' :: text) ++ '"' :: rest) =
            lexFrom mysql (.ended '"' before) (stretch ++ '"' :: (text ++ '"' :: rest)) := by
        simp [lexFrom]
      have entered : mysql.lex ('"' :: (text ++ '"' :: rest)) =
          lexFrom mysql (.inside '"' []) (text ++ '"' :: rest) := by
        simp [lex, lexFrom, marks]
      rw [left, lexFrom_ended before stretchApart, lex_plain _ plain, entered, ih [],
        modifyHead_nil_append, Text.splitOn_separator, Text.splitOn_append_separator unquoted]
      simp [Lexeme.alternating, Function.comp_def]

end Dialect

namespace Extraction

open Dialect

def callOpening (extraction : Extraction) : List Char :=
  (if extraction.options.unquote then "JSON_UNQUOTE(JSON_EXTRACT(" else "JSON_EXTRACT(").toList

def callClosing (extraction : Extraction) : List Char :=
  (if extraction.options.unquote then "))" else ")").toList

theorem not_mem_callOpening {c : Char} (absent : c ∉ "JSON_UNQUOTE(JSON_EXTRACT(".toList)
    (extraction : Extraction) : c ∉ extraction.callOpening := by
  have shorter : c ∉ "JSON_EXTRACT(".toList := fun member =>
    absent (List.mem_append_right "JSON_UNQUOTE(".toList member)
  unfold callOpening
  split
  · exact absent
  · exact shorter

theorem not_mem_callClosing {c : Char} (absent : c ≠ ')') (extraction : Extraction) :
    c ∉ extraction.callClosing := by
  unfold callClosing
  split
  · simpa using absent
  · simpa using absent

def callLexemes (extraction : Extraction) : List Lexeme :=
  extraction.callOpening.map .plain ++
    Lexeme.qualified '`' (Text.splitOn '.' extraction.column.toList) ++ ", ".toList.map .plain ++
    Lexeme.alternating (Text.splitOn '"' extraction.path.format.toList) ++
    extraction.callClosing.map .plain

theorem outside_callLexemes (extraction : Extraction) :
    Lexeme.outside extraction.callLexemes = extraction.callOpening ++
      List.replicate ((Text.splitOn '.' extraction.column.toList).length - 1) '.' ++
      ", ".toList ++ (Text.oddEntries (Text.splitOn '"' extraction.path.format.toList)).flatten ++
      extraction.callClosing := by
  simp [callLexemes]

theorem lex_format (path : Path) {rest : List Char} (apart : rest.head? ≠ some '"') :
    mysql.lex ('"' :: (path.format.toList ++ '"' :: rest)) =
      (mysql.lex rest).map
        (Lexeme.alternating (Text.splitOn '"' path.format.toList) ++ ·) := by
  have opened : mysql.lex ('"' :: (path.format.toList ++ '"' :: rest)) =
      lexFrom mysql (.inside '"' []) (path.format.toList ++ '"' :: rest) := by
    simp [lex, lexFrom, marks]
  rw [opened, lexFrom_inside_paired path.paired_format apart, modifyHead_nil_append]

theorem lex_extract (column : String) (path : Path) (rest : List Char) :
    mysql.lex ("JSON_EXTRACT(".toList ++ ((mysql.quote column).toList ++ (", ".toList ++
        '"' :: (path.format.toList ++ '"' :: (")".toList ++ rest))))) =
      (mysql.lex rest).map ("JSON_EXTRACT(".toList.map .plain ++
        Lexeme.qualified '`' (Text.splitOn '.' column.toList) ++ ", ".toList.map .plain ++
        Lexeme.alternating (Text.splitOn '"' path.format.toList) ++
        ")".toList.map .plain ++ ·) := by
  have name : (", ".toList ++ '"' :: (path.format.toList ++ '"' :: (")".toList ++ rest))).head? ≠
      some mysql.nameMark := by
    simp [nameMark]
  have closing : (")".toList ++ rest).head? ≠ some '"' := by simp
  rw [lex_plain _ (by decide), lex_quote name, lex_plain _ (by decide), lex_format path closing,
    lex_plain _ (by decide)]
  simp [Function.comp_def, nameMark]

theorem lex_call (extraction : Extraction) (rest : List Char) :
    mysql.lex (extraction.call.toList ++ rest) =
      (mysql.lex rest).map (extraction.callLexemes ++ ·) := by
  unfold call callLexemes callOpening callClosing
  by_cases unquote : extraction.options.unquote = true
  · have extract := lex_extract extraction.column extraction.path (")".toList ++ rest)
    rw [lex_plain ")".toList (by decide) rest] at extract
    simp only [unquote, ↓reduceIte, String.toList_append, List.append_assoc]
    rw [lex_plain "JSON_UNQUOTE(".toList (by decide)]
    have wrapped := congrArg (Option.map ("JSON_UNQUOTE(".toList.map .plain ++ ·)) extract
    simpa [Function.comp_def] using wrapped
  · have extract := lex_extract extraction.column extraction.path rest
    simpa [unquote] using extract

def operandLexemes : Segment → List Lexeme
  | .key key => [.quoted '\'' key.name.toList]
  | .index position => (Nat.toDigits 10 position).map .plain

def hopLexemes (unquote : Bool) : List Segment → List Lexeme
  | [] => []
  | [last] => (if unquote then "->>" else "->").toList.map .plain ++ operandLexemes last
  | segment :: rest =>
      "->".toList.map .plain ++ (operandLexemes segment ++ hopLexemes unquote rest)

def arrowLexemes (extraction : Extraction) : List Lexeme :=
  let chain := Lexeme.qualified '"' (Text.splitOn '.' extraction.column.toList) ++
    hopLexemes extraction.options.unquote extraction.path.segments
  match extraction.options.castTarget with
  | some type => "CAST(".toList.map .plain ++ chain ++ (" AS " ++ type ++ ")").toList.map .plain
  | none => chain

theorem lex_operand (segment : Segment) {rest : List Char} (apart : postgresql.Apart rest) :
    postgresql.lex (segment.operand.toList ++ rest) =
      (postgresql.lex rest).map (operandLexemes segment ++ ·) := by
  cases segment with
  | key key =>
      have isMark : '\'' ∈ postgresql.marks := by decide
      have literal := lex_quoted isMark rfl (apart.head?_ne isMark) key.name.toList
      simpa [Segment.operand, Literal.quote, Literal.escape, operandLexemes] using literal
  | index position =>
      have digits : Text.Avoids (Nat.toDigits 10 position) postgresql.marks := fun c member =>
        not_mem_marks_of_isDigit _ (Nat.isDigit_of_mem_toDigits (by decide) (by decide) member)
      simpa [Segment.operand, operandLexemes] using lex_plain _ digits rest

theorem apart_hops {unquote : Bool} {segments : List Segment} {rest : List Char}
    (apart : postgresql.Apart rest) :
    postgresql.Apart ((hops unquote segments).toList ++ rest) := by
  match segments with
  | [] => simpa [hops] using apart
  | [last] => cases unquote <;> simp [hops, Apart, marks]
  | segment :: next :: others => simp [hops, Apart, marks]

theorem lex_hops (unquote : Bool) (segments : List Segment) {rest : List Char}
    (apart : postgresql.Apart rest) :
    postgresql.lex ((hops unquote segments).toList ++ rest) =
      (postgresql.lex rest).map (hopLexemes unquote segments ++ ·) := by
  induction segments with
  | nil => simp [hops, hopLexemes]
  | cons segment others ih =>
      cases others with
      | nil =>
          have arrow : Text.Avoids (if unquote then "->>" else "->").toList postgresql.marks := by
            cases unquote <;> decide
          simp only [hops, hopLexemes, String.toList_append, List.append_assoc]
          rw [lex_plain _ arrow, lex_operand segment apart]
          simp [Function.comp_def]
      | cons next others =>
          simp only [hops, hopLexemes, String.toList_append, List.append_assoc] at ih ⊢
          rw [lex_plain _ (by decide), lex_operand segment (apart_hops apart), ih]
          simp [Function.comp_def]

theorem lex_chain (column : String) (unquote : Bool) (segments : List Segment) {rest : List Char}
    (apart : postgresql.Apart rest) :
    postgresql.lex ((postgresql.quote column).toList ++ ((hops unquote segments).toList ++ rest)) =
      (postgresql.lex rest).map (Lexeme.qualified '"' (Text.splitOn '.' column.toList) ++
        hopLexemes unquote segments ++ ·) := by
  have isMark : postgresql.nameMark ∈ postgresql.marks := by decide
  rw [lex_quote ((apart_hops apart).head?_ne isMark), lex_hops unquote segments apart]
  simp [Function.comp_def, nameMark]

theorem lex_arrows (extraction : Extraction) {rest : List Char} (apart : postgresql.Apart rest)
    (clear : ∀ type ∈ extraction.options.castTarget, Text.Avoids type.toList postgresql.marks) :
    postgresql.lex (extraction.arrows.toList ++ rest) =
      (postgresql.lex rest).map (extraction.arrowLexemes ++ ·) := by
  unfold arrows arrowLexemes
  cases wanted : extraction.options.castTarget with
  | some type =>
      have suffix : Text.Avoids (" AS " ++ type ++ ")").toList postgresql.marks := by
        have plain : Text.Avoids type.toList postgresql.marks := clear type (by simp [wanted])
        have before : Text.Avoids " AS ".toList postgresql.marks := by decide
        rw [String.toList_append, String.toList_append]
        exact (before.append plain).append (by decide)
      have suffixApart : postgresql.Apart ((" AS " ++ type ++ ")").toList ++ rest) := by
        simp [Apart, marks]
      have chain := lex_chain extraction.column extraction.options.unquote extraction.path.segments
        suffixApart
      rw [lex_plain _ suffix] at chain
      simp only [String.toList_append, List.append_assoc] at chain ⊢
      rw [lex_plain "CAST(".toList (by decide), chain]
      simp [Function.comp_def]
  | none =>
      have chain := lex_chain extraction.column extraction.options.unquote extraction.path.segments
        apart
      simpa using chain

end Extraction

end JsonColumn
