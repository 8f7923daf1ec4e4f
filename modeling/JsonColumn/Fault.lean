import JsonColumn.Dialect

/-!
Faults: an input is rejected, or an operation is called with arguments it has no answer for. The
message of a rejection may be shown to anyone and holds nothing of the input; its details are for
the log and quote the input.
-/

namespace JsonColumn

/-- An index of this many digits fits a signed word of 64 bits. -/
def Path.maxIndexDigits : Nat := 18

inductive KeyFault where
  | forbiddenChar
  | unpairedQuote
  | quotedText (content : String)
  deriving DecidableEq, Repr

/-- Why a text is no path. An offset counts the characters before the place it names. -/
inductive PathFault where
  | nullChar
  | key (name : String) (fault : KeyFault)
  | unterminatedQuote
  | unterminatedIndex (opened : Nat)
  | emptyIndex (opened : Nat)
  | strayInIndex (found : Char) (offset : Nat)
  | longIndex (digits : Nat)
  | tooDeep (limit : Int)
  deriving DecidableEq, Repr

def KeyFault.details (name : String) : KeyFault → String
  | forbiddenChar => s!"key {Text.quoted name} contains a backslash or null byte"
  | unpairedQuote => s!"key {Text.quoted name} has an unpaired quote"
  | quotedText content =>
      s!"quoted key {Text.quoted content} in {Text.quoted name} " ++
        "is empty or has disallowed characters"

def PathFault.details (text : String) : PathFault → String
  | nullChar => s!"null byte found in path: {Text.quoted text}"
  | key name fault => fault.details name
  | unterminatedQuote => s!"no closing quote in {Text.quoted text}"
  | unterminatedIndex opened =>
      s!"index opened at offset {opened} is never closed in {Text.quoted text}"
  | emptyIndex opened => s!"empty index at offset {opened} in {Text.quoted text}"
  | strayInIndex found offset =>
      s!"unexpected {Text.quoted found.toString} at offset {offset} " ++
        s!"inside index in {Text.quoted text}"
  | longIndex digits =>
      s!"index of {digits} digits in {Text.quoted text} exceeds {Path.maxIndexDigits}"
  | tooDeep limit => s!"path {Text.quoted text} exceeds {limit} segments"

inductive RejectionKind where
  | general
  | path
  | unterminatedQuote
  | unterminatedIndex
  | index
  | depth
  | castType
  | fieldName
  | operator
  deriving DecidableEq, Repr

/-- The families a kind belongs to, from itself up to the most general. -/
def RejectionKind.ancestry : RejectionKind → List RejectionKind
  | general => [general]
  | path => [path, general]
  | unterminatedQuote => [unterminatedQuote, path, general]
  | unterminatedIndex => [unterminatedIndex, path, general]
  | index => [index, path, general]
  | depth => [depth, path, general]
  | castType => [castType, general]
  | fieldName => [fieldName, general]
  | operator => [operator, general]

structure Report where
  kind : RejectionKind
  message : String
  details : String := ""
  cause : Option String := none
  deriving DecidableEq, Repr

def Report.internal (report : Report) : String :=
  if report.details = "" then report.message else report.details

inductive Rejection where
  | path (text : String) (fault : PathFault)
  | castType (shown : String)
  | emptyName
  | nullChar (context value : String)
  | emptyQualifier (name : String)
  | operator (text : String)
  | operatorName (name : String)
  deriving DecidableEq, Repr

def PathFault.kind : PathFault → RejectionKind
  | nullChar => .path
  | key _ _ => .path
  | unterminatedQuote => .unterminatedQuote
  | unterminatedIndex _ => .unterminatedIndex
  | emptyIndex _ => .index
  | strayInIndex _ _ => .index
  | longIndex _ => .index
  | tooDeep _ => .depth

def PathFault.message : PathFault → String
  | nullChar => "invalid JSON path"
  | key _ _ => "invalid key in JSON path"
  | unterminatedQuote => "unterminated quoted key in JSON path"
  | unterminatedIndex _ => "unterminated array index in JSON path"
  | emptyIndex _ => "array index must be a non-negative integer"
  | strayInIndex _ _ => "array index must be a non-negative integer"
  | longIndex _ => "array index must be a non-negative integer"
  | tooDeep _ => "JSON path has too many segments"

namespace Rejection

def kind : Rejection → RejectionKind
  | path _ fault => fault.kind
  | castType _ => .castType
  | emptyName => .fieldName
  | nullChar _ _ => .fieldName
  | emptyQualifier _ => .fieldName
  | operator _ => .operator
  | operatorName _ => .operator

def message : Rejection → String
  | path _ fault => fault.message
  | castType _ => "invalid cast type"
  | emptyName => "column name cannot be empty"
  | nullChar context _ => s!"{context} cannot contain null bytes"
  | emptyQualifier _ => "invalid column name format"
  | operator _ => "invalid operator"
  | operatorName _ => "invalid operator"

def details : Rejection → String
  | path text fault => fault.details text
  | castType shown => s!"cast type {shown} is not a plain SQL type name"
  | emptyName => "empty column name provided"
  | nullChar context value => s!"null byte found in {context}: {Text.quoted value}"
  | emptyQualifier name => s!"column name {Text.quoted name} has an empty qualifier part"
  | operator text => s!"operator {Text.quoted text} is not a supported comparison"
  | operatorName name => s!"unknown operator {Text.quoted name}"

def report (rejection : Rejection) : Report where
  kind := rejection.kind
  message := rejection.message
  details := rejection.details

end Rejection

/-- A call that a caller can avoid. A value of the wrong type is kept by the name of its type. -/
inductive Misuse where
  | keyNotText (given : String)
  | indexNotInteger (given : String)
  | negativeIndex (value : Int)
  | segmentNotText (given : String)
  | unknownModifier (shown : String)
  | noPredicates (connective : String)
  | noTable
  | unknownDialect (shown : String)
  | outOfRange
  | oversizedPosition
  deriving DecidableEq, Repr

inductive MisuseKind where
  | type
  | value
  | position
  deriving DecidableEq, Repr

namespace Misuse

def kind : Misuse → MisuseKind
  | keyNotText _ => .type
  | indexNotInteger _ => .type
  | negativeIndex _ => .value
  | segmentNotText _ => .type
  | unknownModifier _ => .type
  | noPredicates _ => .value
  | noTable => .value
  | unknownDialect _ => .value
  | outOfRange => .position
  | oversizedPosition => .position

def message : Misuse → String
  | keyNotText given => s!"key name must be a string, got {given}"
  | indexNotInteger given => s!"index must be an int, got {given}"
  | negativeIndex value => s!"index must be non-negative, got {value}"
  | segmentNotText given => s!"path segment must be a string, got {given}"
  | unknownModifier shown => s!"unknown path modifier: {shown}"
  | noPredicates connective => s!"{connective} requires at least one predicate"
  | noTable => "select requires a table; call from_() first"
  | unknownDialect shown =>
      s!"unknown dialect: {shown}. Available: " ++ ", ".intercalate (Dialect.all.map Dialect.name)
  | outOfRange => "tuple index out of range"
  | oversizedPosition => "cannot fit 'int' into an index-sized integer"

end Misuse

inductive Fault where
  | rejection (rejection : Rejection)
  | misuse (misuse : Misuse)
  deriving DecidableEq, Repr

def Fault.message : Fault → String
  | rejection r => r.message
  | misuse m => m.message

end JsonColumn
