import JsonColumn.Datum
import JsonColumn.Fault

/-! Checks on the names of columns, tables and dialects. -/

namespace JsonColumn

namespace Identifier

def defaultContext : String := "string literals"

def nullFault? (context value : String) : Option Rejection :=
  if '\x00' ∈ value.toList then some (.nullChar context value) else none

/-- The first thing wrong with a name: it is empty, or has a null character, or has an empty part
between its points. -/
def fault? (name : String) : Option Rejection :=
  if name = "" then some .emptyName
  else match nullFault? "column names" name with
    | some fault => some fault
    | none => if [] ∈ Text.splitOn '.' name.toList then some (.emptyQualifier name) else none

def checkNull (context value : String) : Except Fault Unit :=
  match nullFault? context value with
  | some fault => .error (.rejection fault)
  | none => .ok ()

def check (name : String) : Except Fault Unit :=
  match fault? name with
  | some fault => .error (.rejection fault)
  | none => .ok ()

end Identifier

def Dialect.ofDatum (value : Datum) : Except Fault Dialect :=
  let unknown := .error (.misuse (.unknownDialect value.display))
  match value with
  | .text name =>
      match ofName? name with
      | some dialect => .ok dialect
      | none => unknown
  | _ => unknown

end JsonColumn
