import JsonColumn.Text.Characters

/-!
Text cut at a separator, with a mark doubled, without the blanks around it, in upper case, and in
quotes for diagnostics.
-/

namespace JsonColumn.Text

def splitOn (separator : Char) : List Char → List (List Char)
  | [] => [[]]
  | c :: rest =>
      if c = separator then [] :: splitOn separator rest
      else (splitOn separator rest).modifyHead (c :: ·)

def oddEntries {α : Type} : List α → List α
  | _ :: entry :: rest => entry :: oddEntries rest
  | _ => []

@[simp] theorem splitOn_nil (separator : Char) : splitOn separator [] = [[]] := rfl

@[simp] theorem splitOn_separator (separator : Char) (rest : List Char) :
    splitOn separator (separator :: rest) = [] :: splitOn separator rest := by
  simp [splitOn]

theorem splitOn_ne_nil (separator : Char) : ∀ text, splitOn separator text ≠ [] := by
  intro text
  cases text with
  | nil => simp
  | cons c rest =>
      by_cases same : c = separator
      · simp [splitOn, same]
      · have later := splitOn_ne_nil separator rest
        cases parts : splitOn separator rest with
        | nil => exact absurd parts later
        | cons first others => simp [splitOn, same, parts]

theorem length_splitOn (separator : Char) (text : List Char) :
    (splitOn separator text).length = text.count separator + 1 := by
  induction text with
  | nil => rfl
  | cons c rest ih =>
      by_cases same : c = separator
      · subst same
        simp [ih]
      · simp [splitOn, same, ih]

/-- Doubles the occurrences of `mark` from left to right. The number is how many characters still
belong to the last one. -/
def doubledFrom (mark : List Char) : Nat → List Char → List Char
  | _, [] => []
  | within + 1, c :: rest => c :: doubledFrom mark within rest
  | 0, c :: rest =>
      if mark ≠ [] ∧ mark.isPrefixOf (c :: rest) then
        mark ++ c :: doubledFrom mark (mark.length - 1) rest
      else c :: doubledFrom mark 0 rest

def doubled (mark text : List Char) : List Char :=
  doubledFrom mark 0 text

theorem doubled_single (mark : Char) (text : List Char) :
    doubled [mark] text = text.flatMap fun c => if c = mark then [mark, mark] else [c] := by
  unfold doubled
  induction text with
  | nil => rfl
  | cons c rest ih =>
      by_cases same : c = mark
      · simp [doubledFrom, same, ih]
      · have other : ¬mark = c := fun equal => same equal.symm
        simp [doubledFrom, same, other, ih]

def trim (text : List Char) : List Char :=
  ((text.dropWhile isBlank).reverse.dropWhile isBlank).reverse

/-- The upper-case form as far as it is ASCII. Other characters stand for themselves, so comparing
with an ASCII text comes out the same. -/
def upperForm (c : Char) : List Char :=
  if c.isLower then [c.toUpper]
  else match c with
    | 'ß' => ['S', 'S']
    | 'ı' => ['I']
    | 'ſ' => ['S']
    | 'ﬀ' => ['F', 'F']
    | 'ﬁ' => ['F', 'I']
    | 'ﬂ' => ['F', 'L']
    | 'ﬃ' => ['F', 'F', 'I']
    | 'ﬄ' => ['F', 'F', 'L']
    | 'ﬅ' => ['S', 'T']
    | 'ﬆ' => ['S', 'T']
    | _ => [c]

def upper (text : List Char) : List Char :=
  text.flatMap upperForm

def hexDigits : Nat → Nat → List Char
  | 0, _ => []
  | width + 1, n => hexDigits width (n / 16) ++ [Nat.digitChar (n % 16)]

def quoteFor (text : List Char) : Char :=
  if '\'' ∈ text ∧ '"' ∉ text then '"' else '\''

def escaped (quote c : Char) : List Char :=
  if c = quote ∨ c = '\\' then ['\\', c]
  else if c = '\n' then ['\\', 'n']
  else if c = '\r' then ['\\', 'r']
  else if c = '\t' then ['\\', 't']
  else if isPrintable c then [c]
  else if c.toNat < 0x100 then '\\' :: 'x' :: hexDigits 2 c.toNat
  else if c.toNat < 0x10000 then '\\' :: 'u' :: hexDigits 4 c.toNat
  else '\\' :: 'U' :: hexDigits 8 c.toNat

def quotedChars (text : List Char) : List Char :=
  quoteFor text :: text.flatMap (escaped (quoteFor text)) ++ [quoteFor text]

def quoted (text : String) : String :=
  String.ofList (quotedChars text.toList)

end JsonColumn.Text
