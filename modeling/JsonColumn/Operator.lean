import JsonColumn.Fault

/-!
The operators that compare a column or an extracted value with a bound value. Some have a name; all
can be spelled out, with blanks around them and in any case.
-/

namespace JsonColumn

inductive Operator where
  | eq
  | neq
  | lt
  | lte
  | gt
  | gte
  | bangEq
  | like
  | notLike
  deriving DecidableEq, Repr

namespace Operator

def sql : Operator → String
  | eq => "="
  | neq => "<>"
  | lt => "<"
  | lte => "<="
  | gt => ">"
  | gte => ">="
  | bangEq => "!="
  | like => "LIKE"
  | notLike => "NOT LIKE"

def all : List Operator :=
  [bangEq, lt, lte, neq, eq, gt, gte, like, notLike]

def named : List (String × Operator) :=
  [("eq", eq), ("neq", neq), ("lt", lt), ("lte", lte), ("gt", gt), ("gte", gte)]

def ofName (name : String) : Except Fault Operator :=
  match named.lookup name with
  | some operator => .ok operator
  | none => .error (.rejection (.operatorName name))

def ofText (text : String) : Except Fault Operator :=
  match all.find? fun operator => operator.sql.toList = Text.upper (Text.trim text.toList) with
  | some operator => .ok operator
  | none => .error (.rejection (.operator text))

end Operator

end JsonColumn
