import JsonColumn.Proofs.Expr.Sound
import JsonColumn.Proofs.Expr.Truth

/-!
Expressions with a hole. Whatever is put into the hole is written there as it is by itself, with its
placeholders numbered on from those before the hole, and the text around it stays.
-/

namespace JsonColumn

namespace Draft

variable {α : Type}

@[simp] theorem empty_append (draft : Draft α) : ({} : Draft α) ++ draft = draft := rfl

@[simp] theorem append_empty (draft : Draft α) : draft ++ ({} : Draft α) = draft := by
  change Draft.mk _ _ = Draft.mk _ _
  simp

def optional (wanted : Bool) (text : String) : Draft α :=
  if wanted then plain text else {}

theorem parenthesized_eq (wanted : Bool) (draft : Draft α) :
    draft.parenthesized wanted = optional wanted "(" ++ draft ++ optional wanted ")" := by
  cases wanted with
  | false => simp [parenthesized, optional]
  | true => rfl

end Draft

namespace Expr

variable {α : Type}

theorem leavesAll_append (first second : List (Expr α)) :
    leavesAll (first ++ second) = leavesAll first ++ leavesAll second := by
  induction first with
  | nil => rfl
  | cons part rest ih => rw [List.cons_append, leavesAll, leavesAll, ih, List.append_assoc]

theorem draftRest_append (op : String) (start : Int) (first second : List (Expr α)) :
    draftRest op start (first ++ second) = draftRest op start first ++
      draftRest op (start + (boundValuesAll first).length) second := by
  induction first generalizing start with
  | nil => simp [draftRest, boundValuesAll]
  | cons part rest ih =>
      rw [List.cons_append, draftRest, draftRest, ih, values_parenthesized, values_draft,
        boundValuesAll, List.length_append, Int.natCast_add, Int.add_assoc]
      simp only [Draft.append_assoc]

theorem draftParts_split (op : String) (start : Int) (before : List (Expr α)) (part : Expr α)
    (after : List (Expr α)) :
    draftParts op start (before ++ part :: after) = draftParts op start before ++
      Draft.optional (!before.isEmpty) (" " ++ op ++ " ") ++
      (part.draft (start + (boundValuesAll before).length)).parenthesized part.isGroup ++
      draftRest op (start + (boundValuesAll before).length + part.boundValues.length) after := by
  cases before with
  | nil =>
      simp [draftParts, boundValuesAll, Draft.optional, values_parenthesized, values_draft]
  | cons first rest =>
      rw [List.cons_append, draftParts, draftParts, draftRest_append, draftRest]
      simp [values_parenthesized, values_draft, boundValuesAll, Draft.optional, Draft.append_assoc,
        Int.add_assoc]

end Expr

/-- An expression with a hole below connectives and negations. -/
inductive Context (α : Type) where
  | hole
  | joined (op : String) (before : List (Expr α)) (inner : Context α) (after : List (Expr α))
  | negated (inner : Context α)

namespace Context

variable {α : Type}

def fill : Context α → Expr α → Expr α
  | hole, expr => expr
  | joined op before inner after, expr => .joined op (before ++ inner.fill expr :: after)
  | negated inner, expr => .negated (inner.fill expr)

def leavesBefore : Context α → List (Expr α)
  | hole => []
  | joined _ before inner _ => Expr.leavesAll before ++ inner.leavesBefore
  | negated inner => inner.leavesBefore

def leavesAfter : Context α → List (Expr α)
  | hole => []
  | joined _ _ inner after => inner.leavesAfter ++ Expr.leavesAll after
  | negated inner => inner.leavesAfter

def valuesBefore (context : Context α) : List α :=
  context.leavesBefore.flatMap Expr.boundValues

def valuesAfter (context : Context α) : List α :=
  context.leavesAfter.flatMap Expr.boundValues

def isGroup (grouped : Bool) : Context α → Bool
  | hole => grouped
  | joined _ before _ after => !(before.isEmpty && after.isEmpty)
  | negated _ => false

def draftBefore (grouped : Bool) (start : Int) : Context α → Draft α
  | hole => {}
  | joined op before inner _ => Expr.draftParts op start before ++
      .optional (!before.isEmpty) (" " ++ op ++ " ") ++ .optional (inner.isGroup grouped) "(" ++
      inner.draftBefore grouped (start + (Expr.boundValuesAll before).length)
  | negated inner => .plain "NOT (" ++ inner.draftBefore grouped start

def draftAfter (grouped : Bool) (start : Int) : Context α → Draft α
  | hole => {}
  | joined op _ inner after => inner.draftAfter grouped start ++
      .optional (inner.isGroup grouped) ")" ++
      Expr.draftRest op (start + inner.valuesAfter.length) after
  | negated inner => inner.draftAfter grouped start ++ .plain ")"

theorem valuesBefore_joined (op : String) (before : List (Expr α)) (inner : Context α)
    (after : List (Expr α)) :
    (joined op before inner after).valuesBefore =
      Expr.boundValuesAll before ++ inner.valuesBefore := by
  rw [valuesBefore, leavesBefore, List.flatMap_append, Expr.boundValues_leavesAll, valuesBefore]

theorem leaves_fill (context : Context α) (expr : Expr α) :
    (context.fill expr).leaves = context.leavesBefore ++ expr.leaves ++ context.leavesAfter := by
  induction context with
  | hole => simp [fill, leavesBefore, leavesAfter]
  | joined op before inner after ih =>
      rw [fill, Expr.leaves, Expr.leavesAll_append, Expr.leavesAll, ih, leavesBefore, leavesAfter]
      simp only [List.append_assoc]
  | negated inner ih => rw [fill, Expr.leaves, ih, leavesBefore, leavesAfter]

theorem boundValues_fill (context : Context α) (expr : Expr α) :
    (context.fill expr).boundValues =
      context.valuesBefore ++ expr.boundValues ++ context.valuesAfter := by
  rw [← Expr.boundValues_leaves, leaves_fill, List.flatMap_append, List.flatMap_append,
    Expr.boundValues_leaves]
  rfl

theorem isGroup_fill (context : Context α) (expr : Expr α) :
    (context.fill expr).isGroup = context.isGroup expr.isGroup := by
  cases context with
  | hole => rfl
  | negated inner => rfl
  | joined op before inner after =>
      cases before with
      | nil =>
          cases after with
          | nil => rfl
          | cons part rest => rfl
      | cons part rest =>
          cases rest with
          | nil => rfl
          | cons next rest => rfl

theorem draft_fill (context : Context α) (expr : Expr α) (start : Int) :
    (context.fill expr).draft start = context.draftBefore expr.isGroup start ++
      expr.draft (start + context.valuesBefore.length) ++
      context.draftAfter expr.isGroup
        (start + context.valuesBefore.length + expr.boundValues.length) := by
  induction context generalizing start with
  | hole => simp [fill, draftBefore, draftAfter, valuesBefore, leavesBefore]
  | negated inner ih =>
      have same : (negated inner).valuesBefore = inner.valuesBefore := rfl
      rw [fill, Expr.draft, ih, same, draftBefore, draftAfter]
      simp only [Draft.append_assoc]
  | joined op before inner after ih =>
      rw [fill, Expr.draft, Expr.draftParts_split, Draft.parenthesized_eq, isGroup_fill, ih,
        boundValues_fill, draftBefore, draftAfter, valuesBefore_joined]
      simp only [List.length_append, Int.natCast_add, Int.add_assoc, Draft.append_assoc]

theorem write_fill (context : Context α) (dialect : Dialect) (start : Int) (expr : Expr α)
    (buffer : String) :
    ((context.fill expr).write dialect.name start buffer).buffer = buffer ++
      ((context.draftBefore expr.isGroup start).sql dialect ++
        (expr.draft (start + context.valuesBefore.length)).sql dialect ++
        (context.draftAfter expr.isGroup
          (start + context.valuesBefore.length + expr.boundValues.length)).sql dialect) ∧
    ((context.fill expr).write dialect.name start buffer).result.outcome =
      .ok (context.valuesBefore ++ expr.boundValues ++ context.valuesAfter) := by
  obtain ⟨written, succeeded⟩ := ((context.fill expr).draft start).write_known dialect buffer
  rw [Expr.values_draft, boundValues_fill] at succeeded
  rw [draft_fill, Draft.sql_append, Draft.sql_append] at written
  refine ⟨?_, succeeded⟩
  rw [Expr.write, draft_fill]
  exact written

/-- What is in the hole is written as the middle of the whole, numbered on from the values before
the hole. -/
theorem write_fills_hole (context : Context α) (dialect : Dialect) (start : Int) :
    (∀ expr : Expr α, (context.fill expr).leaves =
      context.leavesBefore ++ expr.leaves ++ context.leavesAfter) ∧
    (∃ (front : Bool → String) (back : Bool → Nat → String), ∀ (expr : Expr α) (buffer : String),
      ∃ fragment,
        (expr.render dialect (start + context.valuesBefore.length)).outcome = .ok fragment ∧
        (∀ (other : Dialect) (first : Int), ∃ again,
          (expr.render other first).outcome = .ok again ∧ again.args = fragment.args) ∧
        ((context.fill expr).write dialect.name start buffer).buffer = buffer ++
          (front expr.isGroup ++ fragment.sql ++ back expr.isGroup fragment.args.length) ∧
        ((context.fill expr).write dialect.name start buffer).result.outcome =
          .ok (context.valuesBefore ++ fragment.args ++ context.valuesAfter)) ∧
    ∀ (expr other : Expr α) (fragment changed : Fragment α),
      (expr.render dialect (start + context.valuesBefore.length)).outcome = .ok fragment →
      (other.render dialect (start + context.valuesBefore.length)).outcome = .ok changed →
      expr.isGroup = other.isGroup → fragment.args.length = changed.args.length →
      ∃ before after : String, ∀ buffer : String,
        ((context.fill expr).write dialect.name start buffer).buffer =
          buffer ++ (before ++ fragment.sql ++ after) ∧
        ((context.fill other).write dialect.name start buffer).buffer =
          buffer ++ (before ++ changed.sql ++ after) := by
  refine ⟨context.leaves_fill, ?_, ?_⟩
  · refine ⟨fun grouped => (context.draftBefore grouped start).sql dialect, fun grouped count =>
      (context.draftAfter grouped (start + context.valuesBefore.length + count)).sql dialect, ?_⟩
    intro expr buffer
    obtain ⟨written, succeeded⟩ := context.write_fill dialect start expr buffer
    refine ⟨_, (expr.draft _).render_outcome dialect, ?_, ?_, ?_⟩
    · intro other first
      refine ⟨_, (expr.draft first).render_outcome other, ?_⟩
      simp only [Expr.values_draft]
    · simp only [Expr.values_draft]
      exact written
    · simp only [Expr.values_draft]
      exact succeeded
  · intro expr other fragment changed rendered replaced sameShape sameCount
    cases rendered
    cases replaced
    simp only [Expr.values_draft] at sameCount
    refine ⟨(context.draftBefore expr.isGroup start).sql dialect, (context.draftAfter expr.isGroup
      (start + context.valuesBefore.length + expr.boundValues.length)).sql dialect, ?_⟩
    intro buffer
    refine ⟨(context.write_fill dialect start expr buffer).1, ?_⟩
    rw [sameShape, sameCount]
    exact (context.write_fill dialect start other buffer).1

def negatedDisjunct : Context Nat :=
  .joined "AND" [.column "a" "=" 1] (.negated (.joined "OR" [] .hole [.column "b" "=" 2]))
    [.column "c" "=" 3]

theorem write_fills_hole_negatedDisjunct :
    ∃ before after : String,
      ((negatedDisjunct.fill (.column "d" "<" 8)).write "postgresql" 5 "WHERE ").buffer =
        "WHERE " ++ (before ++ "\"d\" < $6" ++ after) ∧
      ((negatedDisjunct.fill (.negated (.column "e" ">" 9))).write "postgresql" 5 "WHERE ").buffer =
        "WHERE " ++ (before ++ "NOT (\"e\" > $6)" ++ after) := by
  obtain ⟨-, -, replaced⟩ := write_fills_hole negatedDisjunct .postgresql 5
  obtain ⟨before, after, texts⟩ := replaced (.column "d" "<" 8) (.negated (.column "e" ">" 9))
    { sql := "\"d\" < $6", args := [8] } { sql := "NOT (\"e\" > $6)", args := [9] } rfl rfl rfl rfl
  exact ⟨before, after, texts "WHERE "⟩

end Context

end JsonColumn
