import JsonColumn.Proofs.Expr.Built

/-!
Sound drafts. Such a draft numbers its placeholders from its start on, one for each value, and keeps
its pieces apart. Built expressions and statements have sound drafts.
-/

namespace JsonColumn

namespace Draft

variable {α : Type}

theorem append_assoc (first second third : Draft α) :
    first ++ second ++ third = first ++ (second ++ third) := by
  change Draft.mk _ _ = Draft.mk _ _
  simp

structure Sound (start : Nat) (draft : Draft α) : Prop where
  clear : ∀ piece ∈ draft.pieces, piece.Clear
  spaced : Piece.Spaced draft.pieces
  numbered : draft.pieces.filterMap Piece.number? =
    (List.range' start draft.values.length).map fun index : Nat => (index : Int)

def Separated (draft : Draft α) : Prop :=
  ∀ piece ∈ draft.pieces.head?, piece.Separates

theorem separated_of_head {draft : Draft α} {text : String} {rest : List Piece}
    (head : draft.pieces = .plain text :: rest) (separates : (Piece.plain text).Separates) :
    draft.Separated := by
  intro piece member
  rw [head, List.head?_cons, Option.mem_some_iff] at member
  exact member ▸ separates

namespace Sound

variable {start : Nat} {first second draft : Draft α}

theorem append (left : first.Sound start) (right : second.Sound (start + first.values.length))
    (apart : ∀ last ∈ first.pieces.getLast?, ∀ next ∈ second.pieces.head?,
      last.IsPlain ∨ next.Separates) : (first ++ second).Sound start where
  clear := List.forall_mem_append.mpr ⟨left.clear, right.clear⟩
  spaced := List.isChain_append.mpr ⟨left.spaced, right.spaced, apart⟩
  numbered := by
    rw [pieces_append, values_append, List.filterMap_append, left.numbered, right.numbered,
      List.length_append, ← List.range'_append_1, List.map_append]

theorem append_separated (left : first.Sound start)
    (right : second.Sound (start + first.values.length)) (apart : second.Separated) :
    (first ++ second).Sound start :=
  left.append right fun _ _ next member => .inr (apart next member)

theorem nil : ({} : Draft α).Sound start where
  clear := by simp
  spaced := .nil
  numbered := rfl

theorem plain {text : String} (clear : Text.Avoids text.toList Piece.loaded) :
    (Draft.plain text : Draft α).Sound start where
  clear := by simpa [Draft.plain, Piece.Clear] using clear
  spaced := .singleton _
  numbered := rfl

theorem plain_append {text : String} (clear : Text.Avoids text.toList Piece.loaded)
    (right : second.Sound start) : (Draft.plain text ++ second).Sound start := by
  refine append (plain clear) (by simpa [Draft.plain] using right) ?_
  intro last member
  simp only [Draft.plain, List.getLast?_singleton, Option.mem_some_iff] at member
  simp [← member, Piece.IsPlain]

theorem enclose {opening : String} (clear : Text.Avoids opening.toList Piece.loaded)
    (sound : draft.Sound start) :
    (Draft.plain opening ++ draft ++ Draft.plain ")").Sound start := by
  refine (plain_append clear sound).append_separated (plain (by decide)) ?_
  exact separated_of_head rfl ⟨')', [], rfl, by decide⟩

theorem parenthesized (sound : draft.Sound start) (wanted : Bool) :
    (draft.parenthesized wanted).Sound start := by
  cases wanted with
  | false => exact sound
  | true => exact sound.enclose (by decide)

end Sound

end Draft

namespace Expr

open Draft

variable {α : Type}

theorem operator_clear (operator : Operator) :
    Text.Avoids (" " ++ operator.sql ++ " ").toList Piece.loaded := by
  cases operator <;> decide

theorem connective_clear (connective : Connective) :
    Text.Avoids (" " ++ connective.sql ++ " ").toList Piece.loaded := by
  cases connective <;> decide

theorem spaced_separates (op : String) : (Piece.plain (" " ++ op ++ " ")).Separates :=
  ⟨' ', (op ++ " ").toList, by simp, by decide⟩

theorem sound_single (piece : Piece) (clear : piece.Clear) (other : piece.number? = none)
    (start : Nat) : Sound start ({ pieces := [piece] } : Draft α) where
  clear := by simpa using clear
  spaced := .singleton _
  numbered := by simp [other]

theorem sound_comparison (piece : Piece) (clear : piece.Clear) (other : piece.number? = none)
    (operator : Operator) (start : Nat) (value : α) :
    Sound start ({ pieces := [piece, .plain (" " ++ operator.sql ++ " "), .placeholder start]
                   values := [value] } : Draft α) where
  clear := by
    rw [List.forall_mem_cons, List.forall_mem_cons, List.forall_mem_singleton]
    exact ⟨clear, operator_clear operator, Int.natCast_nonneg start⟩
  spaced := by
    simpa [Piece.Spaced, Piece.IsPlain] using .inr (spaced_separates operator.sql)
  numbered := by
    rw [List.filterMap_cons_none other]
    rfl

theorem sound_draftRest (connective : Connective) {parts : List (Expr α)}
    (sound : ∀ part ∈ parts, ∀ start : Nat, (part.draft start).Sound start) (start : Nat) :
    (draftRest connective.sql start parts).Sound start ∧
      (draftRest connective.sql start parts).Separated := by
  induction parts generalizing start with
  | nil => exact ⟨.nil, by simp [draftRest, Separated]⟩
  | cons part rest ih =>
      rw [List.forall_mem_cons] at sound
      have next := (sound.1 start).parenthesized part.isGroup
      have later := ih sound.2
        (start + ((part.draft start).parenthesized part.isGroup).values.length)
      push_cast at later
      refine ⟨?_, ?_⟩
      · rw [draftRest]
        refine (Sound.plain_append (connective_clear connective) next).append_separated ?_ later.2
        simpa [Draft.plain] using later.1
      · rw [draftRest]
        exact separated_of_head rfl (spaced_separates connective.sql)

theorem sound_draftParts (connective : Connective) {parts : List (Expr α)}
    (sound : ∀ part ∈ parts, ∀ start : Nat, (part.draft start).Sound start) (start : Nat) :
    (draftParts connective.sql start parts).Sound start := by
  cases parts with
  | nil => exact .nil
  | cons part rest =>
      rw [List.forall_mem_cons] at sound
      have first := (sound.1 start).parenthesized part.isGroup
      have later := sound_draftRest connective sound.2
        (start + ((part.draft start).parenthesized part.isGroup).values.length)
      push_cast at later
      rw [draftParts]
      exact first.append_separated later.1 later.2

theorem Vetted.sound {expr : Expr α} (vetted : expr.Vetted) :
    ∀ start : Nat, (expr.draft start).Sound start := by
  induction vetted with
  | column name operator value =>
      intro start
      exact sound_comparison (.identifier name) trivial rfl operator start value
  | @extract extraction plain =>
      intro start
      exact sound_single (.extract extraction) plain.clear rfl start
  | @compare extraction operator value plain =>
      intro start
      exact sound_comparison (.extract extraction) plain.clear rfl operator start value
  | @present extraction plain =>
      intro start
      have target : Sound start ({ pieces := [.extract extraction] } : Draft α) :=
        sound_single (.extract extraction) plain.clear rfl start
      refine target.append_separated (.plain (by decide)) ?_
      exact separated_of_head rfl ⟨' ', "IS NOT NULL".toList, rfl, by decide⟩
  | joined connective _ _ ih =>
      intro start
      exact sound_draftParts connective ih start
  | negated _ ih =>
      intro start
      exact (ih start).enclose (by decide)

end Expr

namespace Select

open Draft

variable {α : Type}

theorem sound_column {column : Column α}
    (vetted : ∀ expr, column = .computed expr → expr.Vetted) (start : Nat) :
    (column.draft start).Sound start := by
  cases column with
  | star => exact .plain (by decide)
  | named name => exact Expr.sound_single (.identifier name) trivial rfl start
  | computed expr => exact (vetted expr rfl).sound start

theorem sound_draftColumnsRest {columns : List (Column α)}
    (vetted : ∀ expr, .computed expr ∈ columns → expr.Vetted) (start : Nat) :
    (draftColumnsRest start columns).Sound start ∧
      (draftColumnsRest start columns).Separated := by
  induction columns generalizing start with
  | nil => exact ⟨.nil, by simp [draftColumnsRest, Separated]⟩
  | cons column rest ih =>
      have next : (column.draft start).Sound start :=
        sound_column (fun expr same => vetted expr (by simp [same])) start
      have later := ih (fun expr member => vetted expr (by simp [member]))
        (start + (column.draft start).values.length)
      push_cast at later
      rw [draftColumnsRest]
      refine ⟨?_, separated_of_head rfl ⟨',', [' '], rfl, by decide⟩⟩
      refine (Sound.plain_append (by decide) next).append_separated ?_ later.2
      simpa [Draft.plain] using later.1

theorem sound_draftColumns {columns : List (Column α)}
    (vetted : ∀ expr, .computed expr ∈ columns → expr.Vetted) (start : Nat) :
    (draftColumns start columns).Sound start := by
  cases columns with
  | nil => exact .nil
  | cons column rest =>
      have first : (column.draft start).Sound start :=
        sound_column (fun expr same => vetted expr (by simp [same])) start
      have others : ∀ expr, .computed expr ∈ rest → expr.Vetted :=
        fun expr member => vetted expr (by simp [member])
      have later := sound_draftColumnsRest others (start + (column.draft start).values.length)
      push_cast at later
      rw [draftColumns]
      exact first.append_separated later.1 later.2

theorem sound_draftWhere {predicate : Option (Expr α)}
    (vetted : ∀ expr ∈ predicate, expr.Vetted) (start : Nat) :
    (draftWhere start predicate).Sound start ∧ (draftWhere start predicate).Separated := by
  cases predicate with
  | none => exact ⟨.nil, by simp [draftWhere, Separated]⟩
  | some expr =>
      rw [draftWhere]
      refine ⟨Sound.plain_append (by decide) ((vetted expr rfl).sound start), ?_⟩
      exact separated_of_head rfl ⟨' ', "WHERE ".toList, rfl, by decide⟩

theorem sound_statement {columns condition : Draft α} (table : Table) (left : columns.Sound 1)
    (right : condition.Sound (1 + columns.values.length)) (apart : condition.Separated) :
    (Draft.plain "SELECT " ++ columns ++ Draft.plain " FROM " ++
      ({ pieces := [.identifier table.name] } : Draft α) ++ condition).Sound 1 := by
  have source : Sound (1 + columns.values.length)
      ({ pieces := [.identifier table.name] } ++ condition) :=
    (Expr.sound_single (.identifier table.name) trivial rfl _).append_separated right apart
  have clause : Sound (1 + columns.values.length)
      (Draft.plain " FROM " ++ ({ pieces := [.identifier table.name] } ++ condition)) :=
    .plain_append (by decide) source
  have body := left.append_separated clause
    (separated_of_head rfl ⟨' ', "FROM ".toList, rfl, by decide⟩)
  have whole : Sound 1 (Draft.plain "SELECT " ++ (columns ++ (Draft.plain " FROM " ++
      ({ pieces := [.identifier table.name] } ++ condition)))) :=
    .plain_append (by decide) body
  simpa only [Draft.append_assoc] using whole

theorem Vetted.sound {select : Select α} (vetted : select.Vetted) (table : Table) :
    (select.draft table).Sound 1 := by
  have columns := sound_draftColumns vetted.columns 1
  have condition := sound_draftWhere vetted.predicate
    (1 + (draftColumns 1 select.columns).values.length)
  push_cast at columns condition
  exact sound_statement table columns condition.1 condition.2

end Select

end JsonColumn
