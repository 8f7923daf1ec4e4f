import JsonColumn.Expr.Basic

/-!
Drafts: the text of an expression in pieces, with the values it binds. A draft is independent of
the dialect, and a piece is either plain text or something each dialect writes in its own way. A
draft is written out for a dialect, or for what may be the name of one.
-/

namespace JsonColumn

inductive Piece where
  | plain (text : String)
  | identifier (name : String)
  | extract (extraction : Extraction)
  | placeholder (index : Int)
  deriving DecidableEq, Repr

namespace Piece

def sql (dialect : Dialect) : Piece → String
  | plain text => text
  | identifier name => dialect.quote name
  | extract extraction => extraction.sql dialect
  | placeholder index => dialect.placeholder index

def notes (dialect : Dialect) : Piece → List Note
  | extract extraction => extraction.notes dialect
  | _ => []

end Piece

structure Draft (α : Type) where
  pieces : List Piece := []
  values : List α := []
  deriving DecidableEq, Repr

namespace Draft

variable {α : Type}

def append (first second : Draft α) : Draft α where
  pieces := first.pieces ++ second.pieces
  values := first.values ++ second.values

instance : Append (Draft α) where
  append := append

@[simp] theorem pieces_append (first second : Draft α) :
    (first ++ second).pieces = first.pieces ++ second.pieces := rfl

@[simp] theorem values_append (first second : Draft α) :
    (first ++ second).values = first.values ++ second.values := rfl

def plain (text : String) : Draft α where
  pieces := [.plain text]

def parenthesized (wanted : Bool) (draft : Draft α) : Draft α :=
  if wanted then plain "(" ++ draft ++ plain ")" else draft

def discard (draft : Draft α) : Draft α where
  pieces := draft.pieces

end Draft

namespace Expr

variable {α : Type}

mutual

/-- Placeholders are numbered from `start` on. The target of a comparison binds no value: it is
numbered like the comparison itself. -/
def draft (start : Int) : Expr α → Draft α
  | column name op value =>
      { pieces := [.identifier name, .plain (" " ++ op ++ " "), .placeholder start]
        values := [value] }
  | extract extraction => { pieces := [.extract extraction] }
  | compare target op value =>
      (target.draft start).discard ++
        { pieces := [.plain (" " ++ op ++ " "), .placeholder start], values := [value] }
  | present target => (target.draft start).discard ++ .plain " IS NOT NULL"
  | joined op parts => draftParts op start parts
  | negated body => .plain "NOT (" ++ body.draft start ++ .plain ")"

def draftParts (op : String) (start : Int) : List (Expr α) → Draft α
  | [] => {}
  | part :: rest =>
      let first := (part.draft start).parenthesized part.isGroup
      first ++ draftRest op (start + first.values.length) rest

def draftRest (op : String) (start : Int) : List (Expr α) → Draft α
  | [] => {}
  | part :: rest =>
      let next := (part.draft start).parenthesized part.isGroup
      .plain (" " ++ op ++ " ") ++ next ++ draftRest op (start + next.values.length) rest

end

end Expr

structure Fragment (α : Type) where
  sql : String
  args : List α
  deriving DecidableEq, Repr

structure Written (α : Type) where
  buffer : String
  result : Traced α

/-- Writes pieces behind a buffer. The dialect is looked up where a piece needs it, so with an
unknown name the text before stays written. -/
def Piece.emit (name : String) : List Piece → String → Written Unit
  | [], buffer => { buffer, result := pure () }
  | .plain text :: rest, buffer => emit name rest (buffer ++ text)
  | piece :: rest, buffer =>
      match Dialect.ofName? name with
      | none => { buffer, result := .misuse (.unknownDialect (Text.quoted name)) }
      | some dialect =>
          let later := emit name rest (buffer ++ piece.sql dialect)
          { buffer := later.buffer
            result := do
              Traced.log (piece.notes dialect)
              later.result }

namespace Draft

variable {α : Type}

def sql (dialect : Dialect) (draft : Draft α) : String :=
  String.join (draft.pieces.map (Piece.sql dialect))

def notes (dialect : Dialect) (draft : Draft α) : List Note :=
  draft.pieces.flatMap (Piece.notes dialect)

def render (dialect : Dialect) (draft : Draft α) : Traced (Fragment α) := do
  Traced.log (draft.notes dialect)
  return { sql := draft.sql dialect, args := draft.values }

def write (name : String) (buffer : String) (draft : Draft α) : Written (List α) :=
  let written := Piece.emit name draft.pieces buffer
  { buffer := written.buffer
    result := do
      written.result
      return draft.values }

end Draft

namespace Expr

variable {α : Type}

def render (dialect : Dialect) (start : Int) (expr : Expr α) : Traced (Fragment α) :=
  (expr.draft start).render dialect

def write (name : String) (start : Int) (buffer : String) (expr : Expr α) : Written (List α) :=
  (expr.draft start).write name buffer

end Expr

end JsonColumn
