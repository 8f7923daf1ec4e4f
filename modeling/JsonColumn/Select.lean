import JsonColumn.Expr.Write

/-!
Statements that select columns of one table, where the predicates added hold together. The dialect
is kept by name and looked up when the statement is written.
-/

namespace JsonColumn

structure Table where
  name : String
  valid : Identifier.fault? name = none
  deriving DecidableEq, Repr

def Table.ofName (name : String) : Except Fault Table :=
  match check : Identifier.fault? name with
  | none => .ok { name, valid := check }
  | some fault => .error (.rejection fault)

inductive Column (α : Type) where
  | star
  | named (name : String)
  | computed (expr : Expr α)

namespace Column

variable {α : Type}

def ofText (text : String) : Column α :=
  if text = "*" then star else named text

def check : Column α → Except Fault Unit
  | named name => Identifier.check name
  | _ => .ok ()

def draft (start : Int) : Column α → Draft α
  | star => .plain "*"
  | named name => { pieces := [.identifier name] }
  | computed expr => expr.draft start

end Column

structure Select (α : Type) where
  columns : List (Column α) := [.star]
  dialect : String := Dialect.default.name
  table : Option Table := none
  predicate : Option (Expr α) := none

namespace Select

variable {α : Type}

/-- The columns are checked from left to right, then the dialect. No columns stand for every
column. -/
def start (columns : List (Column α)) (dialect : Datum) : Except Fault (Select α) := do
  columns.forM Column.check
  let known ← Dialect.ofDatum dialect
  return { columns := if columns.isEmpty then [.star] else columns, dialect := known.name }

def fromTable (select : Select α) (table : Table) : Select α :=
  { select with table := some table }

def restrict (select : Select α) (predicate : Expr α) : Select α :=
  { select with
    predicate := match select.predicate with
      | none => some predicate
      | some earlier => (Expr.allOf [earlier, predicate]).toOption }

def draftColumnsRest (start : Int) : List (Column α) → Draft α
  | [] => {}
  | column :: rest =>
      let next := column.draft start
      .plain ", " ++ next ++ draftColumnsRest (start + next.values.length) rest

def draftColumns (start : Int) : List (Column α) → Draft α
  | [] => {}
  | column :: rest =>
      let first := column.draft start
      first ++ draftColumnsRest (start + first.values.length) rest

def draftWhere (start : Int) : Option (Expr α) → Draft α
  | none => {}
  | some predicate => .plain " WHERE " ++ predicate.draft start

/-- Placeholders are numbered from 1, through the columns first. -/
def draft (select : Select α) (table : Table) : Draft α :=
  let columns := draftColumns 1 select.columns
  .plain "SELECT " ++ columns ++ .plain " FROM " ++ { pieces := [.identifier table.name] } ++
    draftWhere (1 + columns.values.length) select.predicate

def query (select : Select α) : Traced (Fragment α) :=
  match select.table with
  | none => .misuse .noTable
  | some table => do
      let written := (select.draft table).write select.dialect ""
      let args ← written.result
      return { sql := written.buffer, args }

end Select

end JsonColumn
