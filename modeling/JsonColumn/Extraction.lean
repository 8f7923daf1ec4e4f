import JsonColumn.Options
import JsonColumn.Path.Basic
import JsonColumn.Traced

/-!
A value inside a column of documents, and how each dialect asks for it: by a chain of arrows, the
last one longer if the value is wanted as text, or by function calls.
-/

namespace JsonColumn

structure Extraction where
  column : String
  path : Path
  options : Options := {}
  deriving DecidableEq, Repr

def Segment.operand : Segment → String
  | key k => Literal.quote k.name
  | index position => position.repr

namespace Extraction

def hops (unquote : Bool) : List Segment → String
  | [] => ""
  | [last] => (if unquote then "->>" else "->") ++ last.operand
  | segment :: rest => "->" ++ segment.operand ++ hops unquote rest

def arrows (extraction : Extraction) : String :=
  let chain := Dialect.postgresql.quote extraction.column ++
    hops extraction.options.unquote extraction.path.segments
  match extraction.options.castTarget with
  | some type => "CAST(" ++ chain ++ " AS " ++ type ++ ")"
  | none => chain

def call (extraction : Extraction) : String :=
  let extract := "JSON_EXTRACT(" ++ Dialect.mysql.quote extraction.column ++ ", \"" ++
    extraction.path.format ++ "\")"
  if extraction.options.unquote then "JSON_UNQUOTE(" ++ extract ++ ")" else extract

def sql (extraction : Extraction) : Dialect → String
  | .mysql => extraction.call
  | .postgresql => extraction.arrows

/-- Function calls know no cast: one that is asked for is left out, with a note. -/
def notes (extraction : Extraction) : Dialect → List Note
  | .mysql =>
      match extraction.options.castTarget with
      | some type => [.castIgnored type extraction.column]
      | none => []
  | .postgresql => []

end Extraction

end JsonColumn
