import JsonColumn.Proofs.Expr.Sound
import JsonColumn.Proofs.Expr.Values
import JsonColumn.Proofs.Expr.Writing

/-!
Placeholders and values match. In the text of what a caller builds, and of a statement over it, the
placeholders outside of quotes are as many as the values, and numbered without a gap where the
dialect numbers them.
-/

namespace JsonColumn

variable {α β : Type}

/-- The placeholders that are found in the text, against the values. -/
def Fragment.Matched (fragment : Fragment α) : Dialect → Nat → Prop
  | .mysql, _ => ∃ lexemes, Dialect.mysql.lex fragment.sql.toList = some lexemes ∧
      (Lexeme.outside lexemes).count '?' = fragment.args.length
  | .postgresql, start => ∃ lexemes, Dialect.postgresql.lex fragment.sql.toList = some lexemes ∧
      Lexeme.parameters lexemes = (List.range' start fragment.args.length).map (Nat.toDigits 10)

theorem Draft.toList_sql (draft : Draft α) (dialect : Dialect) :
    (draft.sql dialect).toList = Piece.text dialect draft.pieces := by
  simp [sql, Piece.text, List.flatMap_map]

theorem Draft.Sound.matched {draft : Draft α} {start : Nat} (sound : draft.Sound start)
    (dialect : Dialect) :
    Fragment.Matched { sql := draft.sql dialect, args := draft.values } dialect start := by
  cases dialect with
  | mysql =>
      obtain ⟨lexemes, cut, count⟩ := Piece.count_text sound.clear sound.spaced
      refine ⟨lexemes, by rw [draft.toList_sql]; exact cut, ?_⟩
      simpa [sound.numbered] using count
  | postgresql =>
      obtain ⟨lexemes, cut, found⟩ := Piece.parameters_text sound.clear sound.spaced
      refine ⟨lexemes, by rw [draft.toList_sql]; exact cut, ?_⟩
      rw [found, sound.numbered, List.map_map]
      rfl

theorem Draft.sql_eq_of_map_eq {first : Draft α} {second : Draft β}
    (same : first.map (fun _ => ()) = second.map fun _ => ()) (dialect : Dialect) :
    first.sql dialect = second.sql dialect := by
  have pieces : first.pieces = second.pieces := congrArg (·.pieces) same
  rw [sql, sql, pieces]

theorem Expr.sql_eq_of_shape_eq {expr : Expr α} {other : Expr β} (same : other.shape = expr.shape)
    (dialect : Dialect) (start : Int) :
    (other.draft start).sql dialect = (expr.draft start).sql dialect := by
  refine Draft.sql_eq_of_map_eq ?_ dialect
  rw [← Expr.draft_map, ← Expr.draft_map]
  exact congrArg (Expr.draft start) same

theorem Select.sql_eq_of_shape_eq {select : Select α} {other : Select β}
    (same : other.shape = select.shape) (dialect : Dialect) (table : Table) :
    (other.draft table).sql dialect = (select.draft table).sql dialect := by
  refine Draft.sql_eq_of_map_eq ?_ dialect
  rw [← Select.draft_map, ← Select.draft_map]
  exact congrArg (Select.draft · table) same

/-- Placeholders found outside of quotes match the bound values, which come from left to right, and
the text does not depend on them. -/
theorem placeholders_match_values :
    (∀ expr : Expr α, expr.Built → ∀ (dialect : Dialect) (start : Nat),
      ∃ fragment, (expr.render dialect start).outcome = .ok fragment ∧
        fragment.Matched dialect start ∧ fragment.args = expr.boundValues ∧
        ∀ (β : Type) (other : Expr β), other.shape = expr.shape →
          ∃ args, (other.render dialect start).outcome = .ok { sql := fragment.sql, args }) ∧
    ∀ select : Select α, select.Built → ∀ table, select.table = some table →
      ∃ dialect : Dialect, select.dialect = dialect.name ∧
      ∃ fragment, select.query.outcome = .ok fragment ∧
        fragment.Matched dialect 1 ∧ fragment.args = select.boundValues ∧
        ∀ (β : Type) (other : Select β), other.shape = select.shape →
          ∃ args, other.query.outcome = .ok { sql := fragment.sql, args } := by
  constructor
  · intro expr built dialect start
    refine ⟨_, (expr.draft start).render_outcome dialect,
      (built.vetted.sound start).matched dialect, expr.values_draft start, ?_⟩
    intro β other same
    refine ⟨(other.draft start).values, ?_⟩
    rw [← Expr.sql_eq_of_shape_eq same]
    exact (other.draft start).render_outcome dialect
  · intro select built table chosen
    obtain ⟨dialect, known⟩ := built.vetted.known
    refine ⟨dialect, known, _, Select.query_outcome chosen known,
      (built.vetted.sound table).matched dialect, select.values_draft table, ?_⟩
    intro β other same
    have otherTable : other.table = some table :=
      (congrArg Select.table same).trans chosen
    have otherDialect : other.dialect = dialect.name :=
      (congrArg Select.dialect same).trans known
    refine ⟨(other.draft table).values, ?_⟩
    rw [← Select.sql_eq_of_shape_eq same]
    exact Select.query_outcome otherTable otherDialect

def marksInKeys : Extraction where
  column := "j?"
  path := { segments := [.key ⟨"it's $2?", by decide +kernel⟩, .key ⟨"\"x\"", by decide +kernel⟩] }
  options := { unquote := true }

def marksInNames : Expr Nat :=
  .joined "AND" [.column "t.a$1" "=" 7, .compare (.extract marksInKeys) "LIKE" 8]

theorem marksInNames_built : marksInNames.Built := by
  have column : Expr.compareColumn "t.a$1" "eq" 7 = .ok (.column "t.a$1" "=" 7) := rfl
  have value : (Expr.compareValueBy "j?" " like" 8 (.parts
      [.datum (.text "it's $2?"), .datum (.text "\"x\"")]) [.unquote true]).outcome =
    .ok (.compare (.extract marksInKeys) "LIKE" 8) := rfl
  exact .allOf (List.forall_mem_cons.mpr
    ⟨.column column, List.forall_mem_singleton.mpr (.compareBy value)⟩) rfl

def marksInColumns : List (Column Nat) :=
  [.named "id?", .computed (.negated marksInNames)]

def marksInQuery : Select Nat :=
  (({ columns := marksInColumns } : Select Nat).fromTable ⟨"t", rfl⟩).restrict
    (.column "n?" ">" 9)

theorem marksInQuery_built : marksInQuery.Built := by
  have columns : ∀ expr, .computed expr ∈ marksInColumns → expr.Built := by
    intro expr member
    have same : expr = .negated marksInNames := by simpa [marksInColumns] using member
    rw [same]
    exact .negated marksInNames_built
  have started : Select.start marksInColumns (.text "mysql") =
      .ok { columns := marksInColumns } := rfl
  have added : Expr.compareColumn "n?" "gt" 9 = .ok (.column "n?" ">" 9) := rfl
  exact .restrict (.fromTable _ (.start columns started)) (.column added)

theorem placeholders_match_values_marksInNames :
    (∃ fragment, (marksInNames.render .postgresql 3).outcome = .ok fragment ∧
      fragment.Matched .postgresql 3 ∧ fragment.args = [7, 8]) ∧
    ∃ fragment, marksInQuery.query.outcome = .ok fragment ∧
      fragment.Matched .mysql 1 ∧ fragment.args = [7, 8, 9] := by
  constructor
  · obtain ⟨fragment, rendered, matched, args, -⟩ :=
      placeholders_match_values.1 marksInNames marksInNames_built .postgresql 3
    exact ⟨fragment, rendered, matched, args⟩
  · obtain ⟨dialect, known, fragment, written, matched, args, -⟩ :=
      placeholders_match_values.2 marksInQuery marksInQuery_built ⟨"t", rfl⟩ rfl
    have default : dialect = .mysql := by
      cases dialect with
      | mysql => rfl
      | postgresql => exact absurd known (by decide)
    subst default
    exact ⟨fragment, written, matched, args⟩

end JsonColumn
