import JsonColumn.Text.Basic

/-!
The dialects of SQL that statements are written in. They do not agree on the marks around
identifiers and on placeholders; a mark inside of what it encloses is written twice in each.
-/

namespace JsonColumn

namespace Literal

def escape (value : String) : String :=
  String.ofList (Text.doubled ['\''] value.toList)

def quote (value : String) : String :=
  "'" ++ escape value ++ "'"

end Literal

/-- Encloses each part of a name that is qualified by points. -/
def Identifier.quote (mark name : String) : String :=
  ".".intercalate <| (Text.splitOn '.' name.toList).map fun part =>
    mark ++ String.ofList (Text.doubled mark.toList part) ++ mark

inductive Dialect where
  | mysql
  | postgresql
  deriving DecidableEq, Repr

namespace Dialect

def name : Dialect → String
  | mysql => "mysql"
  | postgresql => "postgresql"

def all : List Dialect :=
  [mysql, postgresql]

def default : Dialect := mysql

def ofName? (name : String) : Option Dialect :=
  all.find? fun dialect => dialect.name = name

@[simp] theorem ofName?_name (dialect : Dialect) : ofName? dialect.name = some dialect := by
  cases dialect <;> rfl

def mark : Dialect → String
  | mysql => "`"
  | postgresql => "\""

def quote (dialect : Dialect) (name : String) : String :=
  Identifier.quote dialect.mark name

def placeholder : Dialect → Int → String
  | mysql, _ => "?"
  | postgresql, index => "$" ++ index.repr

end Dialect

end JsonColumn
