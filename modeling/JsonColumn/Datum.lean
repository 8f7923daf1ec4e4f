import JsonColumn.Text.Basic

/-!
Values of no fixed type, as callers hand them over where a name, a number or a modifier is wanted.
A value of the wrong type is refused with its kind, or with its display.
-/

namespace JsonColumn

/-- `decimal mantissa places` is the number `mantissa / 10 ^ places`. -/
inductive Datum where
  | null
  | bool (value : Bool)
  | int (value : Int)
  | decimal (mantissa : Int) (places : Nat)
  | text (value : String)
  | list (items : List Datum)
  | record (fields : List (String × Datum))

namespace Datum

def kind : Datum → String
  | null => "NoneType"
  | bool _ => "bool"
  | int _ => "int"
  | decimal _ _ => "float"
  | text _ => "str"
  | list _ => "list"
  | record _ => "dict"

def displayDecimal (mantissa : Int) (places : Nat) : String :=
  let sign := if mantissa < 0 then "-" else ""
  let digits := Nat.toDigits 10 mantissa.natAbs
  let padded := List.replicate (places + 1 - digits.length) '0' ++ digits
  let whole := padded.length - places
  sign ++ String.ofList (padded.take whole) ++ "." ++ String.ofList (padded.drop whole)

mutual

def display : Datum → String
  | null => "None"
  | bool true => "True"
  | bool false => "False"
  | int value => value.repr
  | decimal mantissa places => displayDecimal mantissa places
  | text value => Text.quoted value
  | list items => "[" ++ ", ".intercalate (displayItems items) ++ "]"
  | record fields => "\x7b" ++ ", ".intercalate (displayFields fields) ++ "\x7d"

def displayItems : List Datum → List String
  | [] => []
  | item :: rest => item.display :: displayItems rest

def displayFields : List (String × Datum) → List String
  | [] => []
  | (name, value) :: rest => (Text.quoted name ++ ": " ++ value.display) :: displayFields rest

end

end Datum

end JsonColumn
