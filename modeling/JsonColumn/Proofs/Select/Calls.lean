import JsonColumn.Proofs.Expr.Built
import JsonColumn.Proofs.Expr.Values
import JsonColumn.Proofs.Expr.Writing

/-!
Statements that are made by calls. Of all the tables named only the last counts, and the predicates
are joined in the order they were added, wherever the tables stand between them.
-/

namespace JsonColumn

variable {α τ : Type}

def Draft.fragment (dialect : Dialect) (draft : Draft α) : Fragment α where
  sql := draft.sql dialect
  args := draft.values

/-- Fragments of parts in a row, the placeholders of each numbered on from those before it. -/
inductive InTurn (Renders : Int → τ → Fragment α → Prop) :
    Int → List τ → List (Fragment α) → Prop
  | nil {start : Int} : InTurn Renders start [] []
  | cons {start : Int} {part : τ} {fragment : Fragment α} {parts : List τ}
      {fragments : List (Fragment α)} : Renders start part fragment →
      InTurn Renders (start + fragment.args.length) parts fragments →
      InTurn Renders start (part :: parts) (fragment :: fragments)

theorem InTurn.exists_of_total {Renders : Int → τ → Fragment α → Prop}
    (total : ∀ start part, ∃ fragment, Renders start part fragment) (parts : List τ)
    (start : Int) : ∃ fragments, InTurn Renders start parts fragments := by
  induction parts generalizing start with
  | nil => exact ⟨[], .nil⟩
  | cons part parts ih =>
      obtain ⟨fragment, rendered⟩ := total start part
      obtain ⟨fragments, later⟩ := ih (start + fragment.args.length)
      exact ⟨fragment :: fragments, .cons rendered later⟩

theorem InTurn.length_eq {Renders : Int → τ → Fragment α → Prop} {start : Int} {parts : List τ}
    {fragments : List (Fragment α)} (turn : InTurn Renders start parts fragments) :
    fragments.length = parts.length := by
  induction turn with
  | nil => rfl
  | cons _ _ ih => rw [List.length_cons, List.length_cons, ih]

theorem InTurn.unique {Renders : Int → τ → Fragment α → Prop}
    (functional : ∀ {start part first second}, Renders start part first →
      Renders start part second → first = second) {start : Int} {parts : List τ}
    {fragments others : List (Fragment α)} (turn : InTurn Renders start parts fragments)
    (other : InTurn Renders start parts others) : fragments = others := by
  induction turn generalizing others with
  | nil =>
      cases other
      rfl
  | cons rendered _ ih =>
      obtain _ | ⟨again, later⟩ := other
      obtain rfl := functional rendered again
      rw [ih later]

namespace Expr

def Renders (dialect : Dialect) (start : Int) (expr : Expr α) (fragment : Fragment α) : Prop :=
  (expr.render dialect start).outcome = .ok fragment

def operand (expr : Expr α) (fragment : Fragment α) : String :=
  if expr.isGroup then "(" ++ fragment.sql ++ ")" else fragment.sql

def conjunction (first second : Expr α) : Expr α :=
  .joined Connective.and.sql [first, second]

variable {dialect : Dialect} {start : Int}

theorem renders_iff {expr : Expr α} {fragment : Fragment α} :
    expr.Renders dialect start fragment ↔ fragment = (expr.draft start).fragment dialect := by
  rw [Renders, render, Draft.render_outcome, Except.ok.injEq, eq_comm]
  rfl

theorem sql_parenthesized (expr : Expr α) (start : Int) :
    ((expr.draft start).parenthesized expr.isGroup).sql dialect =
      expr.operand ((expr.draft start).fragment dialect) := by
  unfold Draft.parenthesized operand
  split
  · simp [Draft.fragment]
  · rfl

theorem Renders.conjunction {first second : Expr α} {left right : Fragment α}
    (before : first.Renders dialect start left)
    (after : second.Renders dialect (start + left.args.length) right) :
    (first.conjunction second).Renders dialect start
      { sql := first.operand left ++ " AND " ++ second.operand right
        args := left.args ++ right.args } := by
  rw [renders_iff] at before after ⊢
  subst before after
  have operator : " " ++ Connective.and.sql ++ " " = " AND " := rfl
  simp [Expr.conjunction, Draft.fragment, draft, draftParts, draftRest, sql_parenthesized,
    values_parenthesized, operator, String.append_assoc]

theorem Renders.foldl_conjunction {group : Expr α} {whole : Fragment α} (isGroup : group.isGroup)
    (before : group.Renders dialect start whole) {parts : List (Expr α)}
    {fragments : List (Fragment α)}
    (later : InTurn (Renders dialect) (start + whole.args.length) parts fragments) :
    (parts.foldl Expr.conjunction group).Renders dialect start
      { sql := String.join (List.replicate parts.length "(") ++ whole.sql ++
          String.join ((parts.zip fragments).map fun part => ") AND " ++ part.1.operand part.2)
        args := whole.args ++ fragments.flatMap Fragment.args } := by
  induction parts generalizing group whole fragments with
  | nil =>
      cases later
      simpa using before
  | cons part parts ih =>
      obtain _ | ⟨rendered, later⟩ := later
      rename_i fragment fragments
      have enclosed : group.operand whole = "(" ++ whole.sql ++ ")" := by simp [operand, isGroup]
      have next := before.conjunction rendered
      rw [enclosed] at next
      have more := ih rfl next (by simpa [Int.add_assoc] using later)
      have opening : String.join (List.replicate (parts.length + 1) "(") =
          String.join (List.replicate parts.length "(") ++ "(" := by
        rw [List.replicate_succ', String.join_append]
        rfl
      simpa [opening, String.append_assoc] using more

end Expr

namespace Column

def Renders (dialect : Dialect) (start : Int) : Column α → Fragment α → Prop
  | star, fragment => fragment = { sql := "*", args := [] }
  | named name, fragment => fragment = { sql := dialect.quote name, args := [] }
  | computed expr, fragment => expr.Renders dialect start fragment

theorem renders_iff {dialect : Dialect} {start : Int} {column : Column α}
    {fragment : Fragment α} :
    column.Renders dialect start fragment ↔ fragment = (column.draft start).fragment dialect := by
  cases column with
  | star => simp [Renders, draft, Draft.fragment, Draft.plain, Draft.sql, Piece.sql]
  | named name => simp [Renders, draft, Draft.fragment, Draft.sql, Piece.sql]
  | computed expr => exact Expr.renders_iff

end Column

namespace Select

inductive Call (α : Type) where
  | fromTable (table : Table)
  | restrict (predicate : Expr α)

namespace Call

def table? : Call α → Option Table
  | fromTable table => some table
  | restrict _ => none

def predicate? : Call α → Option (Expr α)
  | fromTable _ => none
  | restrict predicate => some predicate

end Call

def call (select : Select α) : Call α → Select α
  | .fromTable table => select.fromTable table
  | .restrict predicate => select.restrict predicate

def run (select : Select α) (calls : List (Call α)) : Select α :=
  calls.foldl call select

def tables (calls : List (Call α)) : List Table :=
  calls.filterMap Call.table?

def predicates (calls : List (Call α)) : List (Expr α) :=
  calls.filterMap Call.predicate?

@[simp] theorem tables_fromTable (table : Table) (calls : List (Call α)) :
    tables (.fromTable table :: calls) = table :: tables calls := rfl

@[simp] theorem tables_restrict (predicate : Expr α) (calls : List (Call α)) :
    tables (.restrict predicate :: calls) = tables calls := rfl

@[simp] theorem predicates_fromTable (table : Table) (calls : List (Call α)) :
    predicates (.fromTable table :: calls) = predicates calls := rfl

@[simp] theorem predicates_restrict (predicate : Expr α) (calls : List (Call α)) :
    predicates (.restrict predicate :: calls) = predicate :: predicates calls := rfl

/-- The condition of a statement, from its predicates and their fragments. -/
def whereText : List (Expr α × Fragment α) → String
  | [] => ""
  | [only] => " WHERE " ++ only.2.sql
  | first :: second :: rest =>
      " WHERE " ++ String.join (List.replicate rest.length "(") ++ first.1.operand first.2 ++
        " AND " ++ second.1.operand second.2 ++
        String.join (rest.map fun part => ") AND " ++ part.1.operand part.2)

def conjoin : Option (Expr α) → Expr α → Option (Expr α)
  | none, predicate => some predicate
  | some earlier, predicate => some (earlier.conjunction predicate)

theorem foldl_conjoin_some (predicates : List (Expr α)) (earlier : Expr α) :
    predicates.foldl conjoin (some earlier) = some (predicates.foldl Expr.conjunction earlier) := by
  induction predicates generalizing earlier with
  | nil => rfl
  | cons predicate predicates ih => exact ih (earlier.conjunction predicate)

theorem restrict_eq (select : Select α) (predicate : Expr α) :
    select.restrict predicate =
      { select with predicate := conjoin select.predicate predicate } := by
  unfold restrict
  cases select.predicate with
  | none => rfl
  | some earlier => rfl

theorem run_eq (select : Select α) (calls : List (Call α)) :
    select.run calls = { select with
      table := (tables calls).getLast?.or select.table
      predicate := (predicates calls).foldl conjoin select.predicate } := by
  induction calls generalizing select with
  | nil => rfl
  | cons first calls ih =>
      rw [run, List.foldl_cons]
      refine (ih (select.call first)).trans ?_
      cases first with
      | fromTable table =>
          rw [tables_fromTable, predicates_fromTable, List.getLast?_cons]
          cases (tables calls).getLast? with
          | none => rfl
          | some later => rfl
      | restrict predicate =>
          rw [tables_restrict, predicates_restrict, call, restrict_eq]
          rfl

theorem draftColumnsRest_cons (start : Int) (column : Column α) (rest : List (Column α)) :
    draftColumnsRest start (column :: rest) =
      .plain ", " ++ draftColumns start (column :: rest) := rfl

theorem fragment_draftColumns {dialect : Dialect} {start : Int} {columns : List (Column α)}
    {shown : List (Fragment α)} (turn : InTurn (Column.Renders dialect) start columns shown) :
    (draftColumns start columns).fragment dialect =
      { sql := ", ".intercalate (shown.map Fragment.sql)
        args := shown.flatMap Fragment.args } := by
  induction turn with
  | nil => rfl
  | @cons start column fragment columns shown rendered later ih =>
      rw [Column.renders_iff] at rendered
      subst rendered
      obtain ⟨text, values⟩ := Fragment.mk.inj ih
      cases later with
      | nil => simp [draftColumns, draftColumnsRest, Draft.fragment]
      | cons next others =>
          simp only [Draft.fragment] at text values
          rw [draftColumns, draftColumnsRest_cons]
          simp [Draft.fragment, text, values, String.append_assoc]

theorem fragment_draftWhere {dialect : Dialect} {start : Int} {predicates : List (Expr α)}
    {fragments : List (Fragment α)}
    (turn : InTurn (Expr.Renders dialect) start predicates fragments) :
    (draftWhere start (predicates.foldl conjoin none)).fragment dialect =
      { sql := whereText (predicates.zip fragments), args := fragments.flatMap Fragment.args } := by
  have condition {expr : Expr α} {fragment : Fragment α}
      (rendered : expr.Renders dialect start fragment) :
      (draftWhere start (some expr)).fragment dialect =
        { sql := " WHERE " ++ fragment.sql, args := fragment.args } := by
    rw [Expr.renders_iff] at rendered
    simp [rendered, draftWhere, Draft.fragment]
  cases turn with
  | nil => rfl
  | cons first later =>
      rw [List.foldl_cons, conjoin, foldl_conjoin_some]
      cases later with
      | nil => simpa [whereText] using condition first
      | cons second later =>
          have joined := (first.conjunction second).foldl_conjunction rfl
            (by simpa [Int.add_assoc] using later)
          rw [List.foldl_cons, condition joined]
          simp [whereText, later.length_eq, String.append_assoc]

theorem run_restricts (select : Select α) (calls : List (Call α)) {table : Table}
    (last : table ∈ (tables calls).getLast?) :
    select.run calls = select.run (.fromTable table :: (predicates calls).map .restrict) := by
  have noTables (added : List (Expr α)) : tables (added.map .restrict) = [] := by
    induction added with
    | nil => rfl
    | cons predicate added ih => exact ih
  have same (added : List (Expr α)) : predicates (added.map .restrict) = added := by
    induction added with
    | nil => rfl
    | cons predicate added ih => exact congrArg (predicate :: ·) ih
  rw [run_eq, run_eq, tables_fromTable, predicates_fromTable, noTables, same,
    Option.mem_def.mp last]
  rfl

theorem query_run {select : Select α} {known : Dialect} (resolved : select.dialect = known.name)
    (unrestricted : select.predicate = none) {calls : List (Call α)} {table : Table}
    (last : table ∈ (tables calls).getLast?) {shown parts : List (Fragment α)}
    (columnTurn : InTurn (Column.Renders known) 1 select.columns shown)
    (predicateTurn : InTurn (Expr.Renders known) (1 + (shown.flatMap Fragment.args).length)
      (predicates calls) parts) :
    (select.run calls).query.outcome = .ok
      { sql := "SELECT " ++ ", ".intercalate (shown.map Fragment.sql) ++ " FROM " ++
          known.quote table.name ++ whereText ((predicates calls).zip parts)
        args := shown.flatMap Fragment.args ++ parts.flatMap Fragment.args } := by
  obtain ⟨columnText, columnArgs⟩ := Fragment.mk.inj (fragment_draftColumns columnTurn)
  obtain ⟨conditionText, conditionArgs⟩ := Fragment.mk.inj (fragment_draftWhere predicateTurn)
  have chosen : (select.run calls).table = some table := by
    rw [run_eq, Option.mem_def.mp last]
    rfl
  have named : (select.run calls).dialect = known.name := by
    rw [run_eq, resolved]
  have drafted : (select.run calls).draft table =
      .plain "SELECT " ++ draftColumns 1 select.columns ++ .plain " FROM " ++
        { pieces := [.identifier table.name] } ++
        draftWhere (1 + (shown.flatMap Fragment.args).length)
          ((predicates calls).foldl conjoin none) := by
    rw [run_eq, draft, unrestricted, columnArgs]
  have identifier : ({ pieces := [.identifier table.name] } : Draft α).sql known =
      known.quote table.name := by
    simp [Draft.sql, Piece.sql]
  rw [query_outcome chosen named, drafted]
  simp only [Draft.sql_append, Draft.values_append, Draft.sql_plain, Draft.values_plain, columnText,
    columnArgs, conditionText, conditionArgs, identifier, List.nil_append, List.append_nil]

/-- A query is that of the last table with the predicates joined from the left, and numbered after
the columns. -/
theorem query_of_calls {columns : List (Column α)} {dialect : Datum} {select : Select α}
    (started : start columns dialect = .ok select) (calls : List (Call α)) :
    (∃ misuse : Misuse, misuse.kind = .value ∧ ∀ fault,
      (select.run calls).query.outcome = .error fault ↔
        tables calls = [] ∧ fault = .misuse misuse) ∧
    ∀ table ∈ (tables calls).getLast?,
      (select.run calls).query =
        (select.run (.fromTable table :: (predicates calls).map .restrict)).query ∧
      ∃ known : Dialect, Dialect.ofDatum dialect = .ok known ∧
      ∃ shown parts : List (Fragment α),
        InTurn (Column.Renders known) 1 (if columns.isEmpty then [.star] else columns) shown ∧
        InTurn (Expr.Renders known) (1 + (shown.flatMap Fragment.args).length)
          (predicates calls) parts ∧
        (select.run calls).query.outcome = .ok
          { sql := "SELECT " ++ ", ".intercalate (shown.map Fragment.sql) ++ " FROM " ++
              known.quote table.name ++ whereText ((predicates calls).zip parts)
            args := shown.flatMap Fragment.args ++ parts.flatMap Fragment.args } := by
  obtain ⟨known, resolved, kept, named, untabled, unrestricted⟩ := start_eq_ok started
  rw [← kept]
  obtain ⟨shown, columnTurn⟩ := InTurn.exists_of_total
    (fun _ _ => ⟨_, Column.renders_iff.mpr rfl⟩) select.columns 1
  obtain ⟨parts, predicateTurn⟩ := InTurn.exists_of_total
    (fun _ _ => ⟨_, Expr.renders_iff.mpr rfl⟩) (predicates calls)
    (1 + (shown.flatMap Fragment.args).length)
  have succeeds (table : Table) (last : table ∈ (tables calls).getLast?) :=
    query_run named unrestricted last columnTurn predicateTurn
  constructor
  · refine ⟨.noTable, rfl, fun fault => ?_⟩
    cases last : (tables calls).getLast? with
    | none =>
        have failed : (select.run calls).query.outcome = .error (.misuse .noTable) := by
          rw [run_eq, last, untabled]
          rfl
        rw [failed, List.getLast?_eq_none_iff.mp last]
        simp [eq_comm]
    | some table =>
        have filled : tables calls ≠ [] := by
          rintro empty
          rw [empty] at last
          cases last
        simp [succeeds table last, filled]
  · intro table last
    rw [← run_restricts select calls last]
    exact ⟨rfl, known, resolved, shown, parts, columnTurn, predicateTurn, succeeds table last⟩

def mixedColumns : List (Column Nat) :=
  [.named "id", .computed (.column "paid" ">" 7), .named "t.note"]

def mixedCalls : List (Call Nat) :=
  [.restrict (.column "a" "=" 1), .fromTable ⟨"drafts", rfl⟩,
    .restrict (.joined "OR" [.column "b" "=" 2, .column "c" "=" 3]), .fromTable ⟨"orders", rfl⟩,
    .restrict (.column "d" "=" 4)]

theorem query_of_calls_mixedCalls :
    ∃ select : Select Nat, start mixedColumns (.text "postgresql") = .ok select ∧
      (select.run mixedCalls).query = (select.run
        (.fromTable ⟨"orders", rfl⟩ :: (predicates mixedCalls).map .restrict)).query ∧
      (select.run mixedCalls).query.outcome = .ok
        { sql := "SELECT \"id\", \"paid\" > $1, \"t\".\"note\" FROM \"orders\" WHERE " ++
            "(\"a\" = $2 AND (\"b\" = $3 OR \"c\" = $4)) AND \"d\" = $5"
          args := [7, 1, 2, 3, 4] } := by
  have started : start mixedColumns (.text "postgresql") =
      .ok { columns := mixedColumns, dialect := "postgresql" } := rfl
  obtain ⟨same, known, resolved, shown, parts, columnTurn, predicateTurn, written⟩ :=
    (query_of_calls started mixedCalls).2 ⟨"orders", rfl⟩ rfl
  obtain rfl : .postgresql = known := Except.ok.inj resolved
  have columnTexts : InTurn (Column.Renders .postgresql) 1 mixedColumns
      [{ sql := "\"id\"", args := [] }, { sql := "\"paid\" > $1", args := [7] },
        { sql := "\"t\".\"note\"", args := [] }] :=
    .cons rfl (.cons rfl (.cons rfl .nil))
  obtain rfl := columnTurn.unique (fun first second => by
    rw [Column.renders_iff.mp first, Column.renders_iff.mp second]) columnTexts
  have predicateTexts : InTurn (Expr.Renders .postgresql) 2 (predicates mixedCalls)
      [{ sql := "\"a\" = $2", args := [1] }, { sql := "\"b\" = $3 OR \"c\" = $4", args := [2, 3] },
        { sql := "\"d\" = $5", args := [4] }] :=
    .cons rfl (.cons rfl (.cons rfl .nil))
  obtain rfl := predicateTurn.unique (fun first second => by
    rw [Expr.renders_iff.mp first, Expr.renders_iff.mp second]) predicateTexts
  exact ⟨_, started, same, written⟩

end Select

end JsonColumn
