import JsonColumn.Select

/-! Writing in a known dialect: the text of the draft is appended, and nothing fails. -/

namespace JsonColumn

theorem Piece.emit_known (dialect : Dialect) (pieces : List Piece) (buffer : String) :
    (emit dialect.name pieces buffer).buffer =
        buffer ++ String.join (pieces.map (sql dialect)) ∧
      (emit dialect.name pieces buffer).result.outcome = .ok () := by
  induction pieces generalizing buffer with
  | nil => simp [emit]
  | cons piece rest ih =>
      have later := ih (buffer ++ piece.sql dialect)
      rw [List.map_cons, String.join_cons, ← String.append_assoc]
      cases piece with
      | plain text => exact later
      | identifier name =>
          simp only [emit, Dialect.ofName?_name, Traced.outcome_bind]
          exact later
      | extract extraction =>
          simp only [emit, Dialect.ofName?_name, Traced.outcome_bind]
          exact later
      | placeholder index =>
          simp only [emit, Dialect.ofName?_name, Traced.outcome_bind]
          exact later

namespace Draft

variable {α : Type}

@[simp] theorem sql_plain (dialect : Dialect) (text : String) :
    (plain text : Draft α).sql dialect = text := by
  simp [sql, plain, Piece.sql]

@[simp] theorem values_plain (text : String) : (plain text : Draft α).values = [] := rfl

@[simp] theorem sql_empty (dialect : Dialect) : ({} : Draft α).sql dialect = "" := rfl

@[simp] theorem sql_append (dialect : Dialect) (first second : Draft α) :
    (first ++ second).sql dialect = first.sql dialect ++ second.sql dialect := by
  simp [sql]

theorem render_outcome (draft : Draft α) (dialect : Dialect) :
    (draft.render dialect).outcome = .ok { sql := draft.sql dialect, args := draft.values } :=
  rfl

theorem write_known (draft : Draft α) (dialect : Dialect) (buffer : String) :
    (draft.write dialect.name buffer).buffer = buffer ++ draft.sql dialect ∧
      (draft.write dialect.name buffer).result.outcome = .ok draft.values := by
  obtain ⟨written, succeeded⟩ := Piece.emit_known dialect draft.pieces buffer
  refine ⟨written, ?_⟩
  simp only [write, Traced.outcome_bind, succeeded]
  rfl

end Draft

theorem Select.query_outcome {α : Type} {select : Select α} {table : Table} {dialect : Dialect}
    (chosen : select.table = some table) (known : select.dialect = dialect.name) :
    select.query.outcome = .ok { sql := (select.draft table).sql dialect
                                 args := (select.draft table).values } := by
  obtain ⟨written, succeeded⟩ := (select.draft table).write_known dialect ""
  rw [query, chosen]
  simp only [known, Traced.outcome_bind, succeeded, written]
  simp [Except.bind]

end JsonColumn
