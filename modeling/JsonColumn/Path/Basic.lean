import JsonColumn.Fault

/-!
Paths into a document: keys of objects and positions in arrays, from the root down. A key may hold
quoted stretches, and what stands between a pair of quotes is held to a small alphabet: with the
quotes taken for the ends of a literal, nothing in it can be read as more than a name.
-/

namespace JsonColumn

namespace Key

def hasDoubleHyphen : List Char → Bool
  | '-' :: '-' :: _ => true
  | _ :: rest => hasDoubleHyphen rest
  | [] => false

def isQuotableChar (c : Char) : Bool :=
  Text.isWord c || c ∈ [' ', '.', '[', ']', '*', '$', '@', ':', '+', '-']

def isQuotable (content : List Char) : Bool :=
  !content.isEmpty && content.all isQuotableChar && !hasDoubleHyphen content

/-- The first thing wrong with a name: a forbidden character, then a quote without its partner,
then what stands between a pair of quotes. -/
def fault? (name : String) : Option KeyFault :=
  if '\\' ∈ name.toList ∨ '\x00' ∈ name.toList then some .forbiddenChar
  else
    let parts := Text.splitOn '"' name.toList
    if parts.length % 2 = 0 then some .unpairedQuote
    else ((Text.oddEntries parts).find? fun content => !isQuotable content).map
      fun content => .quotedText (String.ofList content)

end Key

structure Key where
  name : String
  valid : Key.fault? name = none
  deriving DecidableEq, Repr

def Key.ofText (name : String) : Except PathFault Key :=
  match check : Key.fault? name with
  | none => .ok { name, valid := check }
  | some fault => .error (.key name fault)

namespace Key

theorem ofText_eq_ok_iff (name : String) (key : Key) : ofText name = .ok key ↔ key.name = name := by
  constructor
  · intro accepted
    unfold ofText at accepted
    split at accepted
    · cases accepted
      rfl
    · cases accepted
  · intro same
    subst same
    unfold ofText
    split
    · rfl
    · rename_i fault found
      rw [key.valid] at found
      cases found

theorem ofText_eq_error_iff (name : String) (fault : PathFault) :
    ofText name = .error fault ↔ ∃ cause, fault? name = some cause ∧ fault = .key name cause := by
  unfold ofText
  split
  · rename_i valid
    simp [valid]
  · rename_i cause found
    simp [found, eq_comm]

end Key

inductive Segment where
  | key (key : Key)
  | index (position : Nat)
  deriving DecidableEq, Repr

structure Path where
  segments : List Segment := []
  deriving DecidableEq, Repr

namespace Segment

def text : Segment → String
  | key k => k.name
  | index position => "[" ++ position.repr ++ "]"

def step (segment : Segment) : String :=
  match segment with
  | key _ => "." ++ segment.text
  | index _ => segment.text

end Segment

namespace Path

def defaultDepth : Int := 64

def minPosition : Int := -9223372036854775808

def maxPosition : Int := 9223372036854775807

def length (path : Path) : Nat :=
  path.segments.length

def parts (path : Path) : List String :=
  path.segments.map Segment.text

def format (path : Path) : String :=
  "$" ++ String.join (path.segments.map Segment.step)

/-- The segment at a position, where `-1` is the last one. -/
def get? (path : Path) (position : Int) : Option Segment :=
  let offset := if position < 0 then position + path.length else position
  if offset < 0 then none else path.segments[offset.toNat]?

def get (path : Path) (position : Int) : Except Fault Segment :=
  if position < minPosition ∨ maxPosition < position then .error (.misuse .oversizedPosition)
  else match path.get? position with
    | some segment => .ok segment
    | none => .error (.misuse .outOfRange)

end Path

end JsonColumn
