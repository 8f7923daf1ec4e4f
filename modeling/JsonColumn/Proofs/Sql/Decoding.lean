import JsonColumn.Proofs.Expr.Built

/-!
An extraction by arrows is found again in its text: the lexemes of the text are the column, one
arrow for each segment and the type of the cast, and each part of them shows where it ends.
-/

namespace JsonColumn

theorem Text.intercalate_splitOn (separator : Char) (text : List Char) :
    [separator].intercalate (splitOn separator text) = text := by
  induction text with
  | nil => rfl
  | cons c rest ih =>
      obtain ⟨first, others, split⟩ := List.exists_cons_of_ne_nil (splitOn_ne_nil separator rest)
      rw [split] at ih
      by_cases same : c = separator
      · subst same
        rw [splitOn_separator, split, List.intercalate_cons_cons, ih]
        rfl
      · have cut : splitOn separator (c :: rest) = (c :: first) :: others := by
          simp [splitOn, same, split]
        rw [cut, ← ih]
        cases others with
        | nil => rfl
        | cons next others => simp [List.intercalate_cons_cons]

theorem Options.Plain.castTarget_eq {options : Options} (plain : options.Plain) :
    options.castTarget = options.cast := by
  unfold castTarget
  cases wanted : options.cast with
  | none => rfl
  | some type =>
      have named : type ≠ "" := by
        intro empty
        have accepted := plain type wanted
        rw [empty] at accepted
        exact absurd accepted (by decide)
      simp [Option.filter, named]

namespace Lexeme

def qualifiers (mark : Char) (parts : List (List Char)) : List Lexeme :=
  parts.flatMap fun part => [plain '.', quoted mark part]

theorem qualified_cons (mark : Char) (part : List Char) (parts : List (List Char)) :
    qualified mark (part :: parts) = quoted mark part :: qualifiers mark parts := by
  induction parts generalizing part with
  | nil => rfl
  | cons next parts ih =>
      have later := ih next
      simp only [qualified, qualifiers, List.map_cons, List.flatMap_cons] at later ⊢
      rw [List.intercalate_cons_cons, later]
      rfl

theorem qualifiers_append_inj {mark : Char} {first second : List (List Char)}
    {rest others : List Lexeme} (left : plain '.' ∉ rest.head?) (right : plain '.' ∉ others.head?)
    (same : qualifiers mark first ++ rest = qualifiers mark second ++ others) :
    first = second ∧ rest = others := by
  induction first generalizing second with
  | nil =>
      cases second with
      | nil => exact ⟨rfl, same⟩
      | cons next second =>
          have begins : rest = qualifiers mark (next :: second) ++ others := same
          exact absurd (by simp [begins, qualifiers]) left
  | cons part first ih =>
      cases second with
      | nil =>
          have begins : qualifiers mark (part :: first) ++ rest = others := same
          exact absurd (by simp [← begins, qualifiers]) right
      | cons next second =>
          simp only [qualifiers, List.flatMap_cons, List.cons_append, List.nil_append,
            List.cons.injEq, quoted.injEq, true_and] at same
          obtain ⟨equal, later⟩ := ih same.2
          exact ⟨by rw [same.1, equal], later⟩

theorem qualified_append_inj {mark : Char} {first second : List (List Char)}
    {rest others : List Lexeme} (leftFilled : first ≠ []) (rightFilled : second ≠ [])
    (left : plain '.' ∉ rest.head?) (right : plain '.' ∉ others.head?)
    (same : qualified mark first ++ rest = qualified mark second ++ others) :
    first = second ∧ rest = others := by
  obtain ⟨part, parts, rfl⟩ := List.exists_cons_of_ne_nil leftFilled
  obtain ⟨next, nexts, rfl⟩ := List.exists_cons_of_ne_nil rightFilled
  simp only [qualified_cons, List.cons_append, List.cons.injEq, quoted.injEq, true_and] at same
  obtain ⟨equal, later⟩ := qualifiers_append_inj left right same.2
  exact ⟨by rw [same.1, equal], later⟩

theorem optional_append_inj {lexeme : Lexeme} {wanted wantedToo : Bool}
    {rest others : List Lexeme} (left : lexeme ∉ rest.head?) (right : lexeme ∉ others.head?)
    (same : (if wanted then [lexeme] else []) ++ rest =
      (if wantedToo then [lexeme] else []) ++ others) :
    wanted = wantedToo ∧ rest = others := by
  cases wanted with
  | true =>
      cases wantedToo with
      | true => exact ⟨rfl, List.append_cancel_left same⟩
      | false =>
          have begins : lexeme :: rest = others := same
          exact absurd (by simp [← begins]) right
  | false =>
      cases wantedToo with
      | true =>
          have begins : rest = lexeme :: others := same
          exact absurd (by simp [begins]) left
      | false => exact ⟨rfl, same⟩

def Ends (rest : List Lexeme) : Prop :=
  ∀ lexeme ∈ rest.head?, lexeme = plain ' '

end Lexeme

namespace Extraction

open Lexeme

theorem hopLexemes_cons (unquote : Bool) (segment : Segment) (segments : List Segment) :
    hopLexemes unquote (segment :: segments) =
      plain '-' :: plain '>' :: ((if unquote && segments.isEmpty then [plain '>'] else []) ++
        (operandLexemes segment ++ hopLexemes unquote segments)) := by
  cases segments with
  | nil => cases unquote <;> simp [hopLexemes]
  | cons next segments => simp [hopLexemes]

theorem isDigit_toDigits (position : Nat) :
    ∀ c ∈ Nat.toDigits 10 position, c.isDigit = true :=
  fun _ member => Nat.isDigit_of_mem_toDigits (by decide) (by decide) member

theorem head?_operandLexemes (segment : Segment) (rest : List Lexeme) :
    plain '>' ∉ (operandLexemes segment ++ rest).head? := by
  cases segment with
  | key key => simp [operandLexemes]
  | index position =>
      have digits := isDigit_toDigits position
      obtain ⟨c, others, split⟩ :=
        List.exists_cons_of_ne_nil (Nat.toDigits_ne_nil : Nat.toDigits 10 position ≠ [])
      rw [split, List.forall_mem_cons] at digits
      intro arrow
      have same : c = '>' := by simpa [operandLexemes, split] using arrow
      subst same
      simp at digits

theorem operandLexemes_append_inj {first second : Segment} {rest others : List Lexeme}
    (left : leadingDigits rest = []) (right : leadingDigits others = [])
    (same : operandLexemes first ++ rest = operandLexemes second ++ others) :
    first = second ∧ rest = others := by
  cases first with
  | key key =>
      cases second with
      | key other =>
          simp only [operandLexemes, List.cons_append, List.nil_append, List.cons.injEq,
            quoted.injEq, true_and, String.toList_inj] at same
          obtain ⟨name, valid⟩ := key
          obtain ⟨otherName, otherValid⟩ := other
          obtain ⟨rfl, later⟩ := same
          exact ⟨rfl, later⟩
      | index position =>
          have digits := leadingDigits_append (isDigit_toDigits position) right
          rw [operandLexemes, operandLexemes] at same
          rw [← same] at digits
          exact absurd digits.symm Nat.toDigits_ne_nil
  | index position =>
      have digits := leadingDigits_append (isDigit_toDigits position) left
      cases second with
      | key other =>
          rw [operandLexemes, operandLexemes] at same
          rw [same] at digits
          exact absurd digits.symm Nat.toDigits_ne_nil
      | index next =>
          have others := leadingDigits_append (isDigit_toDigits next) right
          rw [operandLexemes, operandLexemes] at same
          rw [same, others] at digits
          rw [digits] at same
          have value := congrArg (Nat.ofDigitChars 10 · 0) digits
          simp only [Nat.ofDigitChars_ten_toDigits] at value
          exact ⟨by rw [value], List.append_cancel_left same⟩

theorem leadingDigits_hopLexemes (unquote : Bool) (segments : List Segment) {rest : List Lexeme}
    (ends : Ends rest) : leadingDigits (hopLexemes unquote segments ++ rest) = [] := by
  cases segments with
  | nil =>
      cases rest with
      | nil => rfl
      | cons lexeme rest =>
          rw [ends lexeme rfl]
          rfl
  | cons segment segments =>
      rw [hopLexemes_cons]
      rfl

theorem hopLexemes_append_inj {unquote unquoteToo : Bool} {first second : List Segment}
    {rest others : List Lexeme} (left : Ends rest) (right : Ends others)
    (same : hopLexemes unquote first ++ rest = hopLexemes unquoteToo second ++ others) :
    first = second ∧ rest = others ∧ (first ≠ [] → unquote = unquoteToo) := by
  induction first generalizing second with
  | nil =>
      cases second with
      | nil => exact ⟨rfl, same, fun filled => absurd rfl filled⟩
      | cons segment second =>
          have begins : plain '-' ∈ rest.head? := by
            rw [hopLexemes, List.nil_append, hopLexemes_cons] at same
            simp [same]
          exact absurd (left _ begins) (by simp)
  | cons segment first ih =>
      cases second with
      | nil =>
          have begins : plain '-' ∈ others.head? := by
            rw [hopLexemes, List.nil_append, hopLexemes_cons] at same
            simp [← same]
          exact absurd (right _ begins) (by simp)
      | cons next second =>
          simp only [hopLexemes_cons, List.cons_append, List.append_assoc, List.cons.injEq,
            true_and] at same
          obtain ⟨arrows, operands⟩ := optional_append_inj (head?_operandLexemes segment _)
            (head?_operandLexemes next _) same
          obtain ⟨rfl, later⟩ := operandLexemes_append_inj
            (leadingDigits_hopLexemes unquote first left)
            (leadingDigits_hopLexemes unquoteToo second right) operands
          obtain ⟨rfl, ended, flags⟩ := ih later
          refine ⟨rfl, ended, fun _ => ?_⟩
          cases first with
          | nil => simpa using arrows
          | cons _ _ => exact flags (by simp)

def castOpening (extraction : Extraction) : List Char :=
  match extraction.options.cast with
  | some _ => "CAST(".toList
  | none => []

def castClosing (extraction : Extraction) : List Char :=
  match extraction.options.cast with
  | some type => (" AS " ++ type ++ ")").toList
  | none => []

/-- The arrow to a segment and what stands after it. Only the last arrow may be a long one. -/
def hopAt (extraction : Extraction) (position : Nat) (segment : Segment) : List Lexeme :=
  (if extraction.options.unquote = true ∧ position + 1 = extraction.path.length then "->>"
    else "->").toList.map .plain ++ operandLexemes segment

theorem hopLexemes_eq_mapIdx (unquote : Bool) (segments : List Segment) :
    hopLexemes unquote segments = (segments.mapIdx fun position segment =>
      (if unquote = true ∧ position + 1 = segments.length then "->>" else "->").toList.map plain ++
        operandLexemes segment).flatten := by
  induction segments with
  | nil => rfl
  | cons segment segments ih =>
      rw [hopLexemes_cons, ih, List.mapIdx_cons, List.flatten_cons]
      cases segments with
      | nil => cases unquote <;> simp
      | cons next segments => simp

theorem arrowLexemes_eq {extraction : Extraction} (plain : extraction.options.Plain) :
    extraction.arrowLexemes = extraction.castOpening.map .plain ++
      (Lexeme.qualified '"' (Text.splitOn '.' extraction.column.toList) ++
        (hopLexemes extraction.options.unquote extraction.path.segments ++
          extraction.castClosing.map .plain)) := by
  unfold arrowLexemes castOpening castClosing
  rw [plain.castTarget_eq]
  cases extraction.options.cast with
  | none => simp
  | some type => simp

theorem lex_arrows_of_plain {extraction : Extraction} (plain : extraction.options.Plain) :
    Dialect.postgresql.lex (extraction.sql .postgresql).toList = some extraction.arrowLexemes := by
  have clear : ∀ type ∈ extraction.options.castTarget,
      Text.Avoids type.toList Dialect.postgresql.marks := by
    intro type wanted c member
    exact Piece.not_mem_marks _ (plain.clear type wanted c member)
  have apart : Dialect.postgresql.Apart [] := by simp [Dialect.Apart]
  simpa [sql, Dialect.lex, Dialect.lexFrom] using extraction.lex_arrows apart clear

theorem ends_castClosing (extraction : Extraction) :
    Ends (extraction.castClosing.map plain) := by
  unfold castClosing
  cases extraction.options.cast with
  | none => simp [Ends]
  | some type => simp [Ends]

theorem head?_hopLexemes (unquote : Bool) (segments : List Segment) {rest : List Lexeme}
    (ends : Ends rest) : plain '.' ∉ (hopLexemes unquote segments ++ rest).head? := by
  cases segments with
  | nil =>
      intro point
      exact absurd (ends _ point) (by simp)
  | cons segment segments => simp [hopLexemes_cons]

theorem castOpening_append_inj {first second : Extraction} {rest others : List Lexeme}
    (left : plain 'C' ∉ rest.head?) (right : plain 'C' ∉ others.head?)
    (same : first.castOpening.map plain ++ rest = second.castOpening.map plain ++ others) :
    rest = others := by
  unfold castOpening at same
  cases leftCast : first.options.cast with
  | none =>
      cases rightCast : second.options.cast with
      | none => simpa [leftCast, rightCast] using same
      | some type =>
          simp only [leftCast, rightCast, List.map_nil, List.nil_append] at same
          exact absurd (by simp [same]) left
  | some type =>
      cases rightCast : second.options.cast with
      | none =>
          simp only [leftCast, rightCast, List.map_nil, List.nil_append] at same
          exact absurd (by simp [← same]) right
      | some other => simpa [leftCast, rightCast] using same

theorem head?_qualified (mark c : Char) (parts : List (List Char)) {rest : List Lexeme}
    (filled : parts ≠ []) : plain c ∉ (qualified mark parts ++ rest).head? := by
  obtain ⟨part, others, rfl⟩ := List.exists_cons_of_ne_nil filled
  simp [qualified_cons]

theorem cast_eq_of_castClosing {first second : Extraction}
    (same : first.castClosing = second.castClosing) :
    first.options.cast = second.options.cast := by
  unfold castClosing at same
  cases leftCast : first.options.cast with
  | none =>
      cases rightCast : second.options.cast with
      | none => rfl
      | some type => simp [leftCast, rightCast] at same
  | some type =>
      cases rightCast : second.options.cast with
      | none => simp [leftCast, rightCast] at same
      | some other => simpa [leftCast, rightCast, String.toList_inj] using same

theorem eq_of_arrowLexemes_eq {first second : Extraction} (left : first.options.Plain)
    (right : second.options.Plain) (same : first.arrowLexemes = second.arrowLexemes) :
    first.column = second.column ∧ first.path = second.path ∧
      first.options.cast = second.options.cast ∧
      (first.path.segments ≠ [] → first.options.unquote = second.options.unquote) := by
  have leftFilled := Text.splitOn_ne_nil '.' first.column.toList
  have rightFilled := Text.splitOn_ne_nil '.' second.column.toList
  rw [arrowLexemes_eq left, arrowLexemes_eq right] at same
  have chains := castOpening_append_inj (head?_qualified _ _ _ leftFilled)
    (head?_qualified _ _ _ rightFilled) same
  obtain ⟨parts, hops⟩ := qualified_append_inj leftFilled rightFilled
    (head?_hopLexemes _ _ first.ends_castClosing) (head?_hopLexemes _ _ second.ends_castClosing)
    chains
  obtain ⟨segments, closings, flags⟩ :=
    hopLexemes_append_inj first.ends_castClosing second.ends_castClosing hops
  have columns : first.column.toList = second.column.toList := by
    rw [← Text.intercalate_splitOn '.' first.column.toList, parts, Text.intercalate_splitOn]
  have outside := congrArg outside closings
  rw [outside_map_plain, outside_map_plain] at outside
  exact ⟨String.toList_inj.mp columns, congrArg Path.mk segments, cast_eq_of_castClosing outside,
    flags⟩

/-- Extractions by arrows with the same text have the same column, path and cast, and want text
alike unless the path is empty. -/
theorem arrows_decode {modifiers : List Modifier} {extraction : Extraction}
    (folded : Options.ofModifiers modifiers = .ok extraction.options) :
    Dialect.postgresql.lex (extraction.sql .postgresql).toList = some
      (extraction.castOpening.map .plain ++
        (qualified '"' (Text.splitOn '.' extraction.column.toList) ++
          ((extraction.path.segments.mapIdx extraction.hopAt).flatten ++
            extraction.castClosing.map .plain))) ∧
    ∀ (others : List Modifier) (other : Extraction),
      Options.ofModifiers others = .ok other.options →
      extraction.sql .postgresql = other.sql .postgresql →
      extraction.column = other.column ∧ extraction.path = other.path ∧
        extraction.options.cast = other.options.cast ∧
        (extraction.path.segments ≠ [] → extraction.options.unquote = other.options.unquote) := by
  have plain := Options.plain_ofModifiers folded
  have hops : hopLexemes extraction.options.unquote extraction.path.segments =
      (extraction.path.segments.mapIdx extraction.hopAt).flatten :=
    hopLexemes_eq_mapIdx _ _
  refine ⟨?_, fun others other otherFolded same => ?_⟩
  · rw [lex_arrows_of_plain plain, arrowLexemes_eq plain, hops]
  · have otherPlain := Options.plain_ofModifiers otherFolded
    refine eq_of_arrowLexemes_eq plain otherPlain (Option.some.inj ?_)
    rw [← lex_arrows_of_plain plain, ← lex_arrows_of_plain otherPlain, same]

def integerText : List Modifier :=
  [.cast ⟨"int", by decide⟩, .unquote true]

def arrowInKey : Extraction where
  column := "t.a\"b"
  path := { segments := [.key ⟨"x'->'y", by decide⟩] }
  options := { cast := some "int", unquote := true }

def arrowBetweenKeys : Extraction where
  column := "t.a\"b"
  path := { segments := [.key ⟨"x", by decide⟩, .key ⟨"y", by decide⟩] }
  options := { cast := some "int", unquote := true }

theorem arrows_decode_arrowInKey :
    Options.ofModifiers integerText = .ok arrowInKey.options ∧
    Options.ofModifiers integerText = .ok arrowBetweenKeys.options ∧
    Dialect.postgresql.lex (arrowInKey.sql .postgresql).toList = some
      ("CAST(".toList.map .plain ++ ([.quoted '"' ['t'], .plain '.', .quoted '"' ['a', '"', 'b']] ++
        ("->>".toList.map .plain ++ [.quoted '\'' "x'->'y".toList] ++
          " AS int)".toList.map .plain))) ∧
    arrowInKey.sql .postgresql ≠ arrowBetweenKeys.sql .postgresql := by
  have inKey : Options.ofModifiers integerText = .ok arrowInKey.options := by rfl
  have between : Options.ofModifiers integerText = .ok arrowBetweenKeys.options := by rfl
  obtain ⟨lexemes, apart⟩ := arrows_decode inKey
  refine ⟨inKey, between, lexemes.trans (by decide +kernel), fun same => ?_⟩
  have paths := (apart integerText arrowBetweenKeys between same).2.1
  exact absurd paths (by decide)

end Extraction

end JsonColumn
