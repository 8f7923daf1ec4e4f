import JsonColumn.Extraction
import JsonColumn.Identifier
import JsonColumn.Operator
import JsonColumn.Path.Source

/-!
Expressions over columns and extracted values, built from what a caller names with every name
checked: an operator that is spelled out first, then the column, the path, and last the modifiers.
The bound values are of any type.
-/

namespace JsonColumn

def Extraction.build (column : String) (source : PathSource) (modifiers : List Modifier) :
    Traced Extraction := do
  Identifier.check column
  let path ← source.resolve
  let options ← Options.ofModifiers modifiers
  return { column, path, options }

inductive Connective where
  | and
  | or
  deriving DecidableEq, Repr

def Connective.sql : Connective → String
  | and => "AND"
  | or => "OR"

inductive Expr (α : Type) where
  | column (name op : String) (value : α)
  | extract (extraction : Extraction)
  | compare (target : Expr α) (op : String) (value : α)
  | present (target : Expr α)
  | joined (op : String) (parts : List (Expr α))
  | negated (body : Expr α)

namespace Expr

variable {α : Type}

def isPredicate : Expr α → Bool
  | extract _ => false
  | _ => true

/-- An expression that needs parentheses as a part of another: several parts joined. -/
def isGroup : Expr α → Bool
  | joined _ (_ :: _ :: _) => true
  | _ => false

def compareColumn (column name : String) (value : α) : Except Fault (Expr α) := do
  Identifier.check column
  let operator ← Operator.ofName name
  return .column column operator.sql value

def valueAt (column : String) (source : PathSource) (modifiers : List Modifier) :
    Traced (Expr α) := do
  return .extract (← Extraction.build column source modifiers)

def compareValue (column : String) (operator : Operator) (value : α) (source : PathSource)
    (modifiers : List Modifier) : Traced (Expr α) := do
  return .compare (← valueAt column source modifiers) operator.sql value

def compareValueBy (column op : String) (value : α) (source : PathSource)
    (modifiers : List Modifier) : Traced (Expr α) := do
  let operator ← Operator.ofText op
  compareValue column operator value source modifiers

def hasKey (column : String) (source : PathSource) (modifiers : List Modifier) :
    Traced (Expr α) := do
  return .present (← valueAt column source modifiers)

/-- Joins predicates in order. A single one needs no joining. -/
def combine (connective : Connective) : List (Expr α) → Except Fault (Expr α)
  | [] => .error (.misuse (.noPredicates connective.sql))
  | [single] => .ok single
  | parts => .ok (.joined connective.sql parts)

def allOf (parts : List (Expr α)) : Except Fault (Expr α) :=
  combine .and parts

def anyOf (parts : List (Expr α)) : Except Fault (Expr α) :=
  combine .or parts

end Expr

end JsonColumn
