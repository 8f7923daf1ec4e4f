import JsonColumn.Dialect

/-!
Statements cut into lexemes: the characters outside of quotes one by one, and each quoted stretch as
a whole. What a statement quotes is found again by cutting it.
-/

namespace JsonColumn

def Text.Avoids (text marks : List Char) : Prop :=
  ∀ c ∈ text, c ∉ marks

-- Decided along the text, and not over the whole type of characters.
instance (text marks : List Char) : Decidable (Text.Avoids text marks) :=
  List.decidableBAll (fun c => c ∉ marks) text

theorem Text.Avoids.append {first second marks : List Char} (left : Avoids first marks)
    (right : Avoids second marks) : Avoids (first ++ second) marks :=
  List.forall_mem_append.mpr ⟨left, right⟩

inductive Lexeme where
  | plain (c : Char)
  | quoted (mark : Char) (content : List Char)
  deriving DecidableEq, Repr

/-- Where the text read so far ends. A mark that may be the first of a doubled one is `ended`. -/
inductive Quoting where
  | outside
  | inside (mark : Char) (content : List Char)
  | escaped (mark : Char) (content : List Char)
  | ended (mark : Char) (content : List Char)

namespace Lexeme

def plain? : Lexeme → Option Char
  | plain c => some c
  | quoted _ _ => none

def content? (mark : Char) : Lexeme → Option (List Char)
  | plain _ => none
  | quoted found content => if found = mark then some content else none

def outside (lexemes : List Lexeme) : List Char :=
  lexemes.filterMap plain?

def contents (mark : Char) (lexemes : List Lexeme) : List (List Char) :=
  lexemes.filterMap (content? mark)

def qualified (mark : Char) (parts : List (List Char)) : List Lexeme :=
  [plain '.'].intercalate (parts.map fun part => [quoted mark part])

@[simp] theorem outside_nil : outside [] = [] := rfl

@[simp] theorem outside_plain (c : Char) (rest : List Lexeme) :
    outside (plain c :: rest) = c :: outside rest := rfl

@[simp] theorem outside_quoted (mark : Char) (content : List Char) (rest : List Lexeme) :
    outside (quoted mark content :: rest) = outside rest := rfl

@[simp] theorem outside_append (first second : List Lexeme) :
    outside (first ++ second) = outside first ++ outside second :=
  List.filterMap_append

@[simp] theorem outside_map_plain (text : List Char) : outside (text.map plain) = text := by
  induction text with
  | nil => rfl
  | cons c text ih => simp [ih]

@[simp] theorem contents_nil (mark : Char) : contents mark [] = [] := rfl

@[simp] theorem contents_plain (mark c : Char) (rest : List Lexeme) :
    contents mark (plain c :: rest) = contents mark rest := rfl

@[simp] theorem contents_quoted (mark found : Char) (content : List Char) (rest : List Lexeme) :
    contents mark (quoted found content :: rest) =
      if found = mark then content :: contents mark rest else contents mark rest := by
  by_cases same : found = mark
  · simp [contents, content?, same]
  · simp [contents, content?, same]

@[simp] theorem contents_append (mark : Char) (first second : List Lexeme) :
    contents mark (first ++ second) = contents mark first ++ contents mark second :=
  List.filterMap_append

@[simp] theorem contents_map_plain (mark : Char) (text : List Char) :
    contents mark (text.map plain) = [] := by
  induction text with
  | nil => rfl
  | cons c text ih => simp [ih]

@[simp] theorem outside_qualified (mark : Char) (parts : List (List Char)) :
    outside (qualified mark parts) = List.replicate (parts.length - 1) '.' := by
  unfold qualified
  induction parts with
  | nil => rfl
  | cons part others ih =>
      cases others with
      | nil => rfl
      | cons next others =>
          simp only [List.map_cons, List.intercalate_cons_cons] at ih ⊢
          simpa [List.replicate_succ] using ih

@[simp] theorem contents_qualified (mark found : Char) (parts : List (List Char)) :
    contents mark (qualified found parts) = if found = mark then parts else [] := by
  unfold qualified
  induction parts with
  | nil => simp
  | cons part others ih =>
      cases others with
      | nil => simp
      | cons next others =>
          simp only [List.map_cons, List.intercalate_cons_cons] at ih ⊢
          by_cases same : found = mark
          · simpa [same] using ih
          · simpa [same] using ih

end Lexeme

namespace Dialect

def marks : Dialect → List Char
  | mysql => ['`', '\'', '"']
  | postgresql => ['\'', '"']

def escapesIn : Dialect → Char → Bool
  | mysql, mark => mark ≠ '`'
  | postgresql, _ => false

/-- Cuts text into lexemes. Text that ends inside of quotes has none. -/
def lexFrom (dialect : Dialect) : Quoting → List Char → Option (List Lexeme)
  | .outside, [] => some []
  | .inside _ _, [] => none
  | .escaped _ _, [] => none
  | .ended mark content, [] => some [.quoted mark content]
  | .outside, c :: rest =>
      if c ∈ dialect.marks then lexFrom dialect (.inside c []) rest
      else (lexFrom dialect .outside rest).map (.plain c :: ·)
  | .inside mark content, c :: rest =>
      if c = mark then lexFrom dialect (.ended mark content) rest
      else if c = '\\' ∧ dialect.escapesIn mark then lexFrom dialect (.escaped mark content) rest
      else lexFrom dialect (.inside mark (content ++ [c])) rest
  | .escaped mark content, c :: rest => lexFrom dialect (.inside mark (content ++ [c])) rest
  | .ended mark content, c :: rest =>
      if c = mark then lexFrom dialect (.inside mark (content ++ [mark])) rest
      else if c ∈ dialect.marks then
        (lexFrom dialect (.inside c []) rest).map (.quoted mark content :: ·)
      else (lexFrom dialect .outside rest).map (.quoted mark content :: .plain c :: ·)

def lex (dialect : Dialect) (text : List Char) : Option (List Lexeme) :=
  lexFrom dialect .outside text

theorem not_mem_marks_of_isDigit (dialect : Dialect) {c : Char} (digit : c.isDigit = true) :
    c ∉ dialect.marks := by
  intro isMark
  have noDigit : (dialect.marks.all fun mark => !mark.isDigit) = true := by
    cases dialect <;> decide
  simpa [digit] using List.all_eq_true.mp noDigit c isMark

variable {dialect : Dialect}

theorem lex_plain (text : List Char) (clear : Text.Avoids text dialect.marks)
    (rest : List Char) :
    dialect.lex (text ++ rest) = (dialect.lex rest).map (text.map .plain ++ ·) := by
  induction text with
  | nil => simp
  | cons c text ih =>
      rw [Text.Avoids, List.forall_mem_cons] at clear
      have later := ih clear.2
      unfold lex at later ⊢
      simp [lexFrom, clear.1, later, Function.comp_def]

theorem lexFrom_ended {mark : Char} {rest : List Char} (content : List Char)
    (apart : rest.head? ≠ some mark) :
    lexFrom dialect (.ended mark content) rest =
      (dialect.lex rest).map (.quoted mark content :: ·) := by
  unfold lex
  cases rest with
  | nil => simp [lexFrom]
  | cons c rest =>
      have single : ¬c = mark := by simpa using apart
      by_cases opening : c ∈ dialect.marks
      · simp [lexFrom, single, opening]
      · simp [lexFrom, single, opening, Function.comp_def]

theorem lexFrom_inside_doubled {mark : Char} {rest : List Char}
    (literal : dialect.escapesIn mark = false) (apart : rest.head? ≠ some mark)
    (before content : List Char) :
    lexFrom dialect (.inside mark before) (Text.doubled [mark] content ++ mark :: rest) =
      (dialect.lex rest).map (.quoted mark (before ++ content) :: ·) := by
  rw [Text.doubled_single]
  induction content generalizing before with
  | nil => simp [lexFrom, lexFrom_ended before apart]
  | cons c content ih =>
      by_cases same : c = mark
      · subst same
        simpa [lexFrom] using ih (before ++ [c])
      · simpa [lexFrom, same, literal] using ih (before ++ [c])

theorem lex_quoted {mark : Char} {rest : List Char} (isMark : mark ∈ dialect.marks)
    (literal : dialect.escapesIn mark = false) (apart : rest.head? ≠ some mark)
    (content : List Char) :
    dialect.lex (mark :: (Text.doubled [mark] content ++ mark :: rest)) =
      (dialect.lex rest).map (.quoted mark content :: ·) := by
  have inside := lexFrom_inside_doubled literal apart [] content
  rw [lex, lexFrom, if_pos isMark]
  simpa using inside

def nameMark : Dialect → Char
  | mysql => '`'
  | postgresql => '"'

theorem lex_name {rest : List Char} (apart : rest.head? ≠ some dialect.nameMark)
    (part : List Char) :
    dialect.lex (dialect.nameMark ::
        (Text.doubled [dialect.nameMark] part ++ dialect.nameMark :: rest)) =
      (dialect.lex rest).map (.quoted dialect.nameMark part :: ·) := by
  cases dialect with
  | mysql => exact lex_quoted (by decide) (by decide) apart part
  | postgresql => exact lex_quoted (by decide) (by decide) apart part

theorem lex_qualified {rest : List Char} (apart : rest.head? ≠ some dialect.nameMark)
    (parts : List (List Char)) :
    dialect.lex (['.'].intercalate (parts.map fun part => dialect.nameMark ::
        (Text.doubled [dialect.nameMark] part ++ [dialect.nameMark])) ++ rest) =
      (dialect.lex rest).map (Lexeme.qualified dialect.nameMark parts ++ ·) := by
  unfold Lexeme.qualified
  induction parts with
  | nil => simp
  | cons part others ih =>
      cases others with
      | nil => simpa using lex_name apart part
      | cons next others =>
          have point : Text.Avoids ['.'] dialect.marks := by
            cases dialect <;> decide
          have pointApart (text : List Char) : ('.' :: text).head? ≠ some dialect.nameMark := by
            cases dialect <;> simp [nameMark]
          simp only [List.map_cons, List.intercalate_cons_cons] at ih ⊢
          simp only [List.append_assoc, List.cons_append, List.nil_append] at ih ⊢
          rw [lex_name (pointApart _), ← List.singleton_append, lex_plain _ point, ih]
          simp [Function.comp_def]

theorem lex_quote {rest : List Char} (apart : rest.head? ≠ some dialect.nameMark) (name : String) :
    dialect.lex ((dialect.quote name).toList ++ rest) = (dialect.lex rest).map
      (Lexeme.qualified dialect.nameMark (Text.splitOn '.' name.toList) ++ ·) := by
  have mark : dialect.mark.toList = [dialect.nameMark] := by
    cases dialect <;> rfl
  have parts := lex_qualified apart (Text.splitOn '.' name.toList)
  simpa [quote, Identifier.quote, mark, Function.comp_def] using parts

end Dialect

end JsonColumn
