import JsonColumn.Datum
import JsonColumn.Path.Reader

/-!
Paths from explicit parts, each taken as one segment: a number in brackets is an index, and any
other text is a key as it stands.
-/

namespace JsonColumn

def Key.ofDatum : Datum → Except Fault Key
  | .text name =>
      match Key.ofText name with
      | .ok key => .ok key
      | .error fault => .error (.rejection (.path name fault))
  | other => .error (.misuse (.keyNotText other.kind))

def Segment.ofPosition : Datum → Except Fault Segment
  | .int position =>
      if position < 0 then .error (.misuse (.negativeIndex position))
      else .ok (.index position.toNat)
  | other => .error (.misuse (.indexNotInteger other.kind))

inductive PathPart where
  | segment (segment : Segment)
  | datum (value : Datum)

namespace PathPart

/-- The digits of a text that is a number in brackets. One line break may follow the bracket. -/
def bracketed? : List Char → Option (List Char)
  | '[' :: rest =>
      let digits := rest.takeWhile Char.isDigit
      let tail := rest.dropWhile Char.isDigit
      if digits ≠ [] ∧ (tail = [']'] ∨ tail = [']', '\n']) then some digits else none
  | _ => none

def ofText (text : String) : Except PathFault Segment :=
  match bracketed? text.toList with
  | some digits => do return .index (← Path.readIndex (String.ofList digits))
  | none => do return .key (← Key.ofText text)

def toSegment : PathPart → Except Fault Segment
  | segment s => .ok s
  | datum (.text text) =>
      match ofText text with
      | .ok s => .ok s
      | .error fault => .error (.rejection (.path text fault))
  | datum other => .error (.misuse (.segmentNotText other.kind))

end PathPart

def Path.ofParts (parts : List PathPart) : Except Fault Path := do
  return { segments := ← parts.mapM PathPart.toSegment }

inductive PathSource where
  | text (text : String)
  | parts (parts : List PathPart)
  | path (path : Path)

def PathSource.resolve : PathSource → Traced Path
  | text t => Path.parse t Path.defaultDepth
  | parts ps => .ofExcept (Path.ofParts ps)
  | path p => pure p

end JsonColumn
