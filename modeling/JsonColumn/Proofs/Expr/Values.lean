import JsonColumn.Select

/-!
The values that an expression binds. They stand in its draft from left to right, and other values in
their places change nothing else of it.
-/

namespace JsonColumn

namespace Expr

variable {α β : Type}

mutual

/-- The values compared with, from left to right. -/
def boundValues : Expr α → List α
  | column _ _ value => [value]
  | extract _ => []
  | compare _ _ value => [value]
  | present _ => []
  | joined _ parts => boundValuesAll parts
  | negated body => body.boundValues

def boundValuesAll : List (Expr α) → List α
  | [] => []
  | part :: rest => part.boundValues ++ boundValuesAll rest

end

mutual

def map (f : α → β) : Expr α → Expr β
  | column name op value => .column name op (f value)
  | extract extraction => .extract extraction
  | compare target op value => .compare (target.map f) op (f value)
  | present target => .present (target.map f)
  | joined op parts => .joined op (mapAll f parts)
  | negated body => .negated (body.map f)

def mapAll (f : α → β) : List (Expr α) → List (Expr β)
  | [] => []
  | part :: rest => part.map f :: mapAll f rest

end

def shape (expr : Expr α) : Expr Unit :=
  expr.map fun _ => ()

theorem isGroup_map (f : α → β) (expr : Expr α) : (expr.map f).isGroup = expr.isGroup := by
  cases expr with
  | joined op parts =>
      match parts with
      | [] => rfl
      | [_] => rfl
      | _ :: _ :: _ => rfl
  | _ => rfl

theorem values_parenthesized (wanted : Bool) (draft : Draft α) :
    (draft.parenthesized wanted).values = draft.values := by
  cases wanted with
  | false => rfl
  | true => simp [Draft.parenthesized, Draft.plain]

mutual

theorem values_draft (start : Int) : ∀ expr : Expr α, (expr.draft start).values = expr.boundValues
  | column _ _ _ => rfl
  | extract _ => rfl
  | compare _ _ _ => rfl
  | present _ => rfl
  | joined op parts => by
      rw [draft, boundValues]
      exact values_draftParts op start parts
  | negated body => by
      rw [draft, boundValues, ← values_draft start body]
      simp [Draft.plain]

theorem values_draftParts (op : String) (start : Int) :
    ∀ parts : List (Expr α), (draftParts op start parts).values = boundValuesAll parts
  | [] => rfl
  | part :: rest => by
      rw [draftParts, boundValuesAll, Draft.values_append, values_parenthesized,
        values_draft start part, values_draftRest op _ rest]

theorem values_draftRest (op : String) (start : Int) :
    ∀ parts : List (Expr α), (draftRest op start parts).values = boundValuesAll parts
  | [] => rfl
  | part :: rest => by
      rw [draftRest, boundValuesAll, Draft.values_append, Draft.values_append,
        values_parenthesized, values_draft start part, values_draftRest op _ rest]
      rfl

end

end Expr

namespace Draft

variable {α β : Type}

def map (f : α → β) (draft : Draft α) : Draft β where
  pieces := draft.pieces
  values := draft.values.map f

theorem map_append (f : α → β) (first second : Draft α) :
    (first ++ second).map f = first.map f ++ second.map f := by
  change Draft.mk _ _ = Draft.mk _ _
  simp [map]

theorem map_parenthesized (f : α → β) (wanted : Bool) (draft : Draft α) :
    (draft.parenthesized wanted).map f = (draft.map f).parenthesized wanted := by
  cases wanted with
  | false => rfl
  | true => exact (map_append f _ _).trans (congrArg (· ++ plain ")") (map_append f _ _))

end Draft

namespace Expr

variable {α β : Type}

mutual

theorem draft_map (f : α → β) (start : Int) :
    ∀ expr : Expr α, (expr.map f).draft start = (expr.draft start).map f
  | column _ _ _ => rfl
  | extract _ => rfl
  | compare target op value => by
      rw [map, draft, draft, draft_map f start target]
      rfl
  | present target => by
      rw [map, draft, draft, draft_map f start target]
      rfl
  | joined op parts => by
      rw [map, draft, draft]
      exact draftParts_map f op start parts
  | negated body => by
      rw [map, draft, draft, draft_map f start body, Draft.map_append, Draft.map_append]
      rfl

theorem draftParts_map (f : α → β) (op : String) (start : Int) : ∀ parts : List (Expr α),
    draftParts op start (mapAll f parts) = (draftParts op start parts).map f
  | [] => rfl
  | part :: rest => by
      rw [mapAll, draftParts, draftParts, draft_map f start part, isGroup_map,
        draftRest_map f op _ rest, Draft.map_append, ← Draft.map_parenthesized]
      simp only [Draft.map, List.length_map]

theorem draftRest_map (f : α → β) (op : String) (start : Int) : ∀ parts : List (Expr α),
    draftRest op start (mapAll f parts) = (draftRest op start parts).map f
  | [] => rfl
  | part :: rest => by
      rw [mapAll, draftRest, draftRest, draft_map f start part, isGroup_map,
        draftRest_map f op _ rest, Draft.map_append, Draft.map_append, ← Draft.map_parenthesized]
      simp only [Draft.map, List.length_map]
      rfl

end

end Expr

namespace Column

variable {α β : Type}

def boundValues : Column α → List α
  | computed expr => expr.boundValues
  | _ => []

def map (f : α → β) : Column α → Column β
  | star => .star
  | named name => .named name
  | computed expr => .computed (expr.map f)

theorem values_draft (start : Int) (column : Column α) :
    (column.draft start).values = column.boundValues := by
  cases column with
  | star => rfl
  | named name => rfl
  | computed expr => exact expr.values_draft start

theorem draft_map (f : α → β) (start : Int) (column : Column α) :
    (column.map f).draft start = (column.draft start).map f := by
  cases column with
  | star => rfl
  | named name => rfl
  | computed expr => exact expr.draft_map f start

end Column

namespace Select

variable {α β : Type}

def boundValues (select : Select α) : List α :=
  select.columns.flatMap Column.boundValues ++ (select.predicate.map Expr.boundValues).getD []

def map (f : α → β) (select : Select α) : Select β where
  columns := select.columns.map (Column.map f)
  dialect := select.dialect
  table := select.table
  predicate := select.predicate.map (Expr.map f)

def shape (select : Select α) : Select Unit :=
  select.map fun _ => ()

theorem values_draftColumnsRest (start : Int) (columns : List (Column α)) :
    (draftColumnsRest start columns).values = columns.flatMap Column.boundValues := by
  induction columns generalizing start with
  | nil => rfl
  | cons column rest ih =>
      rw [draftColumnsRest, Draft.values_append, Draft.values_append, Column.values_draft, ih]
      rfl

theorem values_draftColumns (start : Int) (columns : List (Column α)) :
    (draftColumns start columns).values = columns.flatMap Column.boundValues := by
  cases columns with
  | nil => rfl
  | cons column rest =>
      rw [draftColumns, Draft.values_append, Column.values_draft, values_draftColumnsRest]
      rfl

theorem values_draftWhere (start : Int) (predicate : Option (Expr α)) :
    (draftWhere start predicate).values = (predicate.map Expr.boundValues).getD [] := by
  cases predicate with
  | none => rfl
  | some expr => exact expr.values_draft start

theorem values_draft (select : Select α) (table : Table) :
    (select.draft table).values = select.boundValues := by
  rw [draft, boundValues, ← values_draftColumns 1 select.columns]
  simp [Draft.plain, values_draftWhere]

theorem draftColumnsRest_map (f : α → β) (start : Int) (columns : List (Column α)) :
    draftColumnsRest start (columns.map (Column.map f)) =
      (draftColumnsRest start columns).map f := by
  induction columns generalizing start with
  | nil => rfl
  | cons column rest ih =>
      rw [List.map_cons, draftColumnsRest, draftColumnsRest, Column.draft_map, ih,
        Draft.map_append, Draft.map_append]
      simp only [Draft.map, List.length_map]
      rfl

theorem draftColumns_map (f : α → β) (start : Int) (columns : List (Column α)) :
    draftColumns start (columns.map (Column.map f)) = (draftColumns start columns).map f := by
  cases columns with
  | nil => rfl
  | cons column rest =>
      rw [List.map_cons, draftColumns, draftColumns, Column.draft_map, draftColumnsRest_map,
        Draft.map_append]
      simp only [Draft.map, List.length_map]

theorem draftWhere_map (f : α → β) (start : Int) (predicate : Option (Expr α)) :
    draftWhere start (predicate.map (Expr.map f)) = (draftWhere start predicate).map f := by
  cases predicate with
  | none => rfl
  | some expr =>
      rw [Option.map_some, draftWhere, draftWhere, Draft.map_append, Expr.draft_map]
      rfl

theorem draft_map (f : α → β) (select : Select α) (table : Table) :
    (select.map f).draft table = (select.draft table).map f := by
  simp only [draft, map, draftColumns_map, draftWhere_map, Draft.map_append]
  simp only [Draft.map, List.length_map]
  rfl

end Select

end JsonColumn
