import JsonColumn.Path.Basic
import JsonColumn.Traced

/-!
Reading a path from text, one character at a time. Outside of quotes a point and a root mark end
a key, and a bracket opens an index. Inside quotes every character belongs to the key.
-/

namespace JsonColumn.Path

inductive Mode where
  | plain
  | quoted
  | index (opened : Nat)
  deriving DecidableEq, Repr

/-- The segments that are complete, and the characters of the one that is not. -/
structure Reader where
  mode : Mode := .plain
  pending : String := ""
  segments : List Segment := []
  offset : Nat := 0
  deriving DecidableEq, Repr

def readIndex (digits : String) : Except PathFault Nat :=
  if digits.length > maxIndexDigits then .error (.longIndex digits.length)
  else .ok (Nat.ofDigitChars 10 digits.toList 0)

namespace Reader

/-- Completes a segment, unless `limit` segments are complete already. -/
def complete (limit : Int) (reader : Reader) (segment : Segment) : Except PathFault Reader :=
  if limit ≤ reader.segments.length then .error (.tooDeep limit)
  else .ok { reader with pending := "", segments := reader.segments ++ [segment] }

def endKey (limit : Int) (reader : Reader) : Except PathFault Reader :=
  if reader.pending = "" then .ok reader
  else do reader.complete limit (.key (← Key.ofText reader.pending))

def endIndex (limit : Int) (reader : Reader) (opened : Nat) : Except PathFault Reader :=
  if reader.pending = "" then .error (.emptyIndex opened)
  else do
    let position ← readIndex reader.pending
    let closed ← reader.complete limit (.index position)
    .ok { closed with mode := .plain }

def take (limit : Int) (reader : Reader) (c : Char) : Except PathFault Reader :=
  match reader.mode with
  | .quoted =>
      .ok { reader with
        pending := reader.pending.push c
        mode := if c = '"' then .plain else .quoted }
  | .index opened =>
      if c = ']' then reader.endIndex limit opened
      else if c.isDigit then .ok { reader with pending := reader.pending.push c }
      else .error (.strayInIndex c reader.offset)
  | .plain =>
      if c = '"' then .ok { reader with pending := reader.pending.push c, mode := .quoted }
      else if c = '.' ∨ c = '$' then reader.endKey limit
      else if c = '[' then do
        let ended ← reader.endKey limit
        .ok { ended with mode := .index reader.offset }
      else .ok { reader with pending := reader.pending.push c }

def feed (limit : Int) (reader : Reader) (c : Char) : Except PathFault Reader := do
  let next ← reader.take limit c
  .ok { next with offset := reader.offset + 1 }

def finish (limit : Int) (reader : Reader) : Except PathFault Path :=
  match reader.mode with
  | .quoted => .error .unterminatedQuote
  | .index opened => .error (.unterminatedIndex opened)
  | .plain => do
      let ended ← reader.endKey limit
      .ok { segments := ended.segments }

end Reader

def read (text : String) (limit : Int) : Except PathFault Path :=
  if '\x00' ∈ text.toList then .error .nullChar
  else do
    let reader ← text.toList.foldlM (Reader.feed limit) {}
    reader.finish limit

def parse (text : String) (limit : Int) : Traced Path :=
  match read text limit with
  | .error fault => .ofExcept (.error (.rejection (.path text fault)))
  | .ok path => do
      Traced.log [.pathRead text path.length]
      return path

end JsonColumn.Path
