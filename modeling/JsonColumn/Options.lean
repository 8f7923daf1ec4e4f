import JsonColumn.Datum
import JsonColumn.Fault

/-!
How an extracted value is wanted: as plain text, or cast to a type. The name of a type is words
with one space between them, then perhaps one or two numbers in parentheses, then any number of
empty brackets. Of several modifiers of a sort the last decides.
-/

namespace JsonColumn

namespace TypeName

/-- What the characters read so far ask for. -/
inductive Stage where
  | wordStart
  | word
  | firstStart
  | first
  | secondStart
  | secondDigit
  | second
  | closed
  | bracket
  deriving DecidableEq, Repr

def isWordStart (c : Char) : Bool :=
  c.isAlpha || c = '_'

def isWordChar (c : Char) : Bool :=
  c.isAlphanum || c = '_'

namespace Stage

def next? (stage : Stage) (c : Char) : Option Stage :=
  match stage with
  | wordStart => if isWordStart c then some word else none
  | word =>
      if isWordChar c then some word
      else if c = ' ' then some wordStart
      else if c = '(' then some firstStart
      else if c = '[' then some bracket
      else none
  | firstStart => if Text.isDecimal c then some first else none
  | first =>
      if Text.isDecimal c then some first
      else if c = ',' then some secondStart
      else if c = ')' then some closed
      else none
  | secondStart =>
      if Text.isDecimal c then some second
      else if c = ' ' then some secondDigit
      else none
  | secondDigit => if Text.isDecimal c then some second else none
  | second =>
      if Text.isDecimal c then some second
      else if c = ')' then some closed
      else none
  | closed => if c = '[' then some bracket else none
  | bracket => if c = ']' then some closed else none

def isFinal : Stage → Bool
  | word => true
  | closed => true
  | _ => false

end Stage

def accepts (text : String) : Bool :=
  (text.toList.foldlM Stage.next? .wordStart).any Stage.isFinal

end TypeName

structure TypeName where
  text : String
  valid : TypeName.accepts text = true
  deriving DecidableEq, Repr

namespace TypeName

def ofText (text : String) : Except Fault TypeName :=
  if check : accepts text = true then .ok { text, valid := check }
  else .error (.rejection (.castType (Text.quoted text)))

def ofDatum : Datum → Except Fault TypeName
  | .text text => ofText text
  | other => .error (.rejection (.castType other.display))

end TypeName

inductive Modifier where
  | cast (type : TypeName)
  | unquote (wanted : Bool)
  | unknown (value : Datum)

structure Options where
  cast : Option String := none
  unquote : Bool := false
  deriving DecidableEq, Repr

namespace Options

/-- The type to cast to. An empty name asks for no cast. -/
def castTarget (options : Options) : Option String :=
  options.cast.filter (· ≠ "")

def apply (options : Options) : Modifier → Except Fault Options
  | .cast type => .ok { options with cast := some type.text }
  | .unquote wanted => .ok { options with unquote := wanted }
  | .unknown value => .error (.misuse (.unknownModifier value.display))

def ofModifiers (modifiers : List Modifier) : Except Fault Options :=
  modifiers.foldlM apply {}

end Options

end JsonColumn
