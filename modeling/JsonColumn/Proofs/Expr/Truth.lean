import JsonColumn.Proofs.Expr.Built
import JsonColumn.Proofs.Expr.Values
import JsonColumn.Proofs.Expr.Writing
import JsonColumn.Proofs.Sql.Formula

/-!
Writing keeps the meaning of a condition. Its text is a row of tokens, the same in each dialect, and
as SQL reads them they have the value of the expression, whatever the values of its leaves are.
-/

namespace JsonColumn

namespace Connective

def ofSql (op : String) : Connective :=
  if op = "AND" then .and else .or

@[simp] theorem ofSql_sql (connective : Connective) : ofSql connective.sql = connective := by
  cases connective with
  | and => rfl
  | or => rfl

end Connective

namespace Token

def text (texts : List String) : Token → String
  | leaf position => texts.getD position ""
  | negation => "NOT "
  | connective c => " " ++ c.sql ++ " "
  | opening => "("
  | closing => ")"

def spell (texts : List String) (tokens : List Token) : String :=
  String.join (tokens.map (text texts))

def grouped (wanted : Bool) (tokens : List Token) : List Token :=
  if wanted then .opening :: (tokens ++ [.closing]) else tokens

end Token

namespace Expr

variable {α : Type}

def isLeaf : Expr α → Bool
  | joined _ _ => false
  | negated _ => false
  | _ => true

/-- Conditions over leaves, each with at least one. -/
inductive Logical : Expr α → Prop
  | leaf {expr : Expr α} : expr.isLeaf → Logical expr
  | joined (connective : Connective) {parts : List (Expr α)} :
      parts ≠ [] → (∀ part ∈ parts, Logical part) → Logical (.joined connective.sql parts)
  | negated {body : Expr α} : Logical body → Logical (.negated body)

mutual

def leaves : Expr α → List (Expr α)
  | joined _ parts => leavesAll parts
  | negated body => body.leaves
  | expr => [expr]

def leavesAll : List (Expr α) → List (Expr α)
  | [] => []
  | part :: rest => part.leaves ++ leavesAll rest

end

mutual

/-- The value of a condition, its leaves numbered from `next` on. -/
def holds (truth : Nat → Bool) (next : Nat) : Expr α → Bool
  | joined op parts => holdsAll (.ofSql op) truth next parts
  | negated body => !body.holds truth next
  | _ => truth next

def holdsAll (connective : Connective) (truth : Nat → Bool) (next : Nat) : List (Expr α) → Bool
  | [] => connective.unit
  | part :: rest => connective.apply (part.holds truth next)
      (holdsAll connective truth (next + part.leaves.length) rest)

end

mutual

def tokens (next : Nat) : Expr α → List Token
  | joined op parts => tokensParts (.ofSql op) next parts
  | negated body => .negation :: .opening :: (body.tokens next ++ [.closing])
  | _ => [.leaf next]

def tokensParts (connective : Connective) (next : Nat) : List (Expr α) → List Token
  | [] => []
  | part :: rest => Token.grouped part.isGroup (part.tokens next) ++
      tokensRest connective (next + part.leaves.length) rest

def tokensRest (connective : Connective) (next : Nat) : List (Expr α) → List Token
  | [] => []
  | part :: rest => .connective connective :: (Token.grouped part.isGroup (part.tokens next) ++
      tokensRest connective (next + part.leaves.length) rest)

end

/-- The text of each leaf by itself, its placeholder numbered after those of the leaves before. -/
def leafTexts (dialect : Dialect) (start : Int) : List (Expr α) → List String
  | [] => []
  | leaf :: rest => (leaf.draft start).sql dialect ::
      leafTexts dialect (start + leaf.boundValues.length) rest

section Leaf

variable {expr : Expr α}

theorem leaves_of_isLeaf (isLeaf : expr.isLeaf) : expr.leaves = [expr] := by
  cases expr with
  | joined op parts => cases isLeaf
  | negated body => cases isLeaf
  | _ => simp [leaves]

theorem tokens_of_isLeaf (isLeaf : expr.isLeaf) (next : Nat) : expr.tokens next = [.leaf next] := by
  cases expr with
  | joined op parts => cases isLeaf
  | negated body => cases isLeaf
  | _ => simp [tokens]

theorem holds_of_isLeaf (isLeaf : expr.isLeaf) (truth : Nat → Bool) (next : Nat) :
    expr.holds truth next = truth next := by
  cases expr with
  | joined op parts => cases isLeaf
  | negated body => cases isLeaf
  | _ => simp [holds]

end Leaf

/-- Joined predicates keep all leaves in order, and have the value that the connective gives to
those of the parts. -/
theorem combine_keeps_parts {connective : Connective} {parts : List (Expr α)} {expr : Expr α}
    (combined : combine connective parts = .ok expr) :
    expr.leaves = leavesAll parts ∧
      ∀ truth next, expr.holds truth next = holdsAll connective truth next parts := by
  rcases combine_eq_ok_iff.mp combined with rfl | ⟨-, rfl⟩
  · exact ⟨by simp [leavesAll], fun truth next => by simp [holdsAll, connective.apply_unit]⟩
  · exact ⟨by rw [leaves], fun truth next => by rw [holds, Connective.ofSql_sql]⟩

theorem Vetted.logical {expr : Expr α} (vetted : expr.Vetted) : expr.Logical := by
  induction vetted with
  | column name operator value => exact .leaf rfl
  | extract plain => exact .leaf rfl
  | compare operator value plain => exact .leaf rfl
  | present plain => exact .leaf rfl
  | joined connective filled _ ih => exact .joined connective filled ih
  | negated _ ih => exact .negated ih

theorem Built.logical {expr : Expr α} (built : expr.Built) : expr.Logical :=
  built.vetted.logical

end Expr

namespace Token.Parses

variable {tokens : List Token} {formula : Formula}

theorem ofNegation (connective : Connective) (parses : Parses .negation tokens formula) :
    Parses connective.level tokens formula := by
  cases connective with
  | and => exact .single parses
  | or => exact .conjunction (.single parses)

theorem toDisjunction {connective : Connective} (parses : Parses connective.level tokens formula) :
    Parses .disjunction tokens formula := by
  cases connective with
  | and => exact .conjunction parses
  | or => exact parses

end Token.Parses

namespace Expr

variable {α : Type}

def Read (expr : Expr α) (next : Nat) : Prop :=
  ∃ formula, Token.Parses .disjunction (expr.tokens next) formula ∧
    (expr.isGroup = false → Token.Parses .negation (expr.tokens next) formula) ∧
    ∀ truth, formula.eval truth = expr.holds truth next

theorem Read.grouped {expr : Expr α} {next : Nat} (read : expr.Read next) :
    ∃ formula, Token.Parses .negation (Token.grouped expr.isGroup (expr.tokens next)) formula ∧
      ∀ truth, formula.eval truth = expr.holds truth next := by
  obtain ⟨formula, parses, closer, value⟩ := read
  refine ⟨formula, ?_, value⟩
  cases group : expr.isGroup with
  | true => exact .primary (.group parses)
  | false => exact closer group

theorem parses_tokensRest (connective : Connective) {parts : List (Expr α)}
    (read : ∀ part ∈ parts, ∀ next, part.Read next) (next : Nat) {front : List Token}
    {formula : Formula} (parses : Token.Parses connective.level front formula) :
    ∃ whole, Token.Parses connective.level (front ++ tokensRest connective next parts) whole ∧
      ∀ truth, whole.eval truth =
        connective.apply (formula.eval truth) (holdsAll connective truth next parts) := by
  induction parts generalizing next front formula with
  | nil =>
      exact ⟨formula, by simpa [tokensRest] using parses,
        by simp [holdsAll, connective.apply_unit]⟩
  | cons part rest ih =>
      rw [List.forall_mem_cons] at read
      obtain ⟨more, partParses, partValue⟩ := (read.1 next).grouped
      obtain ⟨whole, wholeParses, value⟩ := ih read.2 (next + part.leaves.length)
        (.row connective parses (partParses.ofNegation connective))
      refine ⟨whole, by simpa [tokensRest] using wholeParses, fun truth => ?_⟩
      rw [value, Formula.eval, partValue, connective.apply_assoc, holdsAll]

theorem Logical.read {expr : Expr α} (logical : expr.Logical) (next : Nat) : expr.Read next := by
  induction logical generalizing next with
  | @leaf expr isLeaf =>
      refine ⟨.leaf next, ?_, fun _ => ?_, fun truth => (holds_of_isLeaf isLeaf truth next).symm⟩
      · rw [tokens_of_isLeaf isLeaf]
        exact .conjunction (.single (.primary (.leaf next)))
      · rw [tokens_of_isLeaf isLeaf]
        exact .primary (.leaf next)
  | @joined connective parts filled _ ih =>
      match parts with
      | [] => exact absurd rfl filled
      | [part] =>
          obtain ⟨formula, parses, value⟩ := (ih part (by simp) next).grouped
          have closer : Token.Parses .negation
              ((Expr.joined connective.sql [part]).tokens next) formula := by
            simpa [tokens, tokensParts, tokensRest] using parses
          refine ⟨formula, .conjunction (.single closer), fun _ => closer, fun truth => ?_⟩
          simp [value, holds, holdsAll, connective.apply_unit]
      | part :: second :: rest =>
          rw [List.forall_mem_cons] at ih
          obtain ⟨formula, parses, value⟩ := (ih.1 next).grouped
          obtain ⟨whole, wholeParses, wholeValue⟩ := parses_tokensRest connective ih.2
            (next + part.leaves.length) (parses.ofNegation connective)
          refine ⟨whole, ?_, fun single => absurd single (by simp [isGroup]), fun truth => ?_⟩
          · simpa [tokens, tokensParts] using wholeParses.toDisjunction
          · rw [wholeValue, value, holds, Connective.ofSql_sql]
            rfl
  | @negated body _ ih =>
      obtain ⟨formula, parses, -, value⟩ := ih next
      have closer : Token.Parses .negation ((Expr.negated body).tokens next) (.negation formula) :=
        .negation (.primary (.group parses))
      refine ⟨.negation formula, .conjunction (.single closer), fun _ => closer, fun truth => ?_⟩
      rw [Formula.eval, value, holds]

mutual

theorem boundValues_leaves : ∀ expr : Expr α, expr.leaves.flatMap boundValues = expr.boundValues
  | column _ _ _ => by simp [leaves]
  | extract _ => by simp [leaves]
  | compare _ _ _ => by simp [leaves]
  | present _ => by simp [leaves]
  | joined op parts => by
      rw [leaves, boundValues]
      exact boundValues_leavesAll parts
  | negated body => by
      rw [leaves, boundValues]
      exact boundValues_leaves body

theorem boundValues_leavesAll : ∀ parts : List (Expr α),
    (leavesAll parts).flatMap boundValues = boundValuesAll parts
  | [] => rfl
  | part :: rest => by
      rw [leavesAll, boundValuesAll, List.flatMap_append, boundValues_leaves part,
        boundValues_leavesAll rest]

end

theorem leafTexts_append (dialect : Dialect) (start : Int) (first second : List (Expr α)) :
    leafTexts dialect start (first ++ second) = leafTexts dialect start first ++
      leafTexts dialect (start + (first.flatMap boundValues).length) second := by
  induction first generalizing start with
  | nil => simp [leafTexts]
  | cons leaf rest ih =>
      rw [List.cons_append, leafTexts, leafTexts, ih, List.flatMap_cons, List.length_append,
        Int.natCast_add, Int.add_assoc, List.cons_append]

theorem length_leafTexts (dialect : Dialect) (start : Int) (leaves : List (Expr α)) :
    (leafTexts dialect start leaves).length = leaves.length := by
  induction leaves generalizing start with
  | nil => rfl
  | cons leaf rest ih => simp [leafTexts, ih]

end Expr

namespace Token

@[simp] theorem spell_nil (texts : List String) : spell texts [] = "" := rfl

@[simp] theorem spell_cons (texts : List String) (token : Token) (tokens : List Token) :
    spell texts (token :: tokens) = token.text texts ++ spell texts tokens := by
  simp [spell]

@[simp] theorem spell_append (texts : List String) (first second : List Token) :
    spell texts (first ++ second) = spell texts first ++ spell texts second := by
  simp [spell]

theorem spell_grouped {α : Type} {draft : Draft α} {dialect : Dialect} {texts : List String}
    {tokens : List Token} (spelled : draft.sql dialect = spell texts tokens) (wanted : Bool) :
    (draft.parenthesized wanted).sql dialect = spell texts (grouped wanted tokens) := by
  cases wanted with
  | false => exact spelled
  | true => simp [Draft.parenthesized, grouped, spelled, text, String.append_assoc]

end Token

namespace Expr

variable {α : Type}

def Spelled (dialect : Dialect) (expr : Expr α) : Prop :=
  ∀ (start : Int) (front back : List String), (expr.draft start).sql dialect =
    Token.spell (front ++ (leafTexts dialect start expr.leaves ++ back)) (expr.tokens front.length)

def SpelledRest (dialect : Dialect) (connective : Connective) (parts : List (Expr α)) : Prop :=
  ∀ (start : Int) (front back : List String), (draftRest connective.sql start parts).sql dialect =
    Token.spell (front ++ (leafTexts dialect start (leavesAll parts) ++ back))
      (tokensRest connective front.length parts)

variable {dialect : Dialect} {connective : Connective}

theorem Spelled.draftParts {part : Expr α} {rest : List (Expr α)} (first : part.Spelled dialect)
    (others : SpelledRest dialect connective rest) (start : Int) (front back : List String) :
    (Expr.draftParts connective.sql start (part :: rest)).sql dialect =
      Token.spell (front ++ (leafTexts dialect start (leavesAll (part :: rest)) ++ back))
        (tokensParts connective front.length (part :: rest)) := by
  rw [Expr.draftParts, leavesAll, leafTexts_append, boundValues_leaves, tokensParts]
  simp only [Draft.sql_append, Token.spell_append, values_parenthesized, values_draft]
  congr 1
  · refine Token.spell_grouped ?_ part.isGroup
    rw [List.append_assoc]
    exact first start front _
  · have longer := others (start + part.boundValues.length)
      (front ++ leafTexts dialect start part.leaves) back
    rw [List.length_append, length_leafTexts] at longer
    simpa using longer

theorem spelledRest {parts : List (Expr α)} (spelled : ∀ part ∈ parts, part.Spelled dialect) :
    SpelledRest dialect connective parts := by
  induction parts with
  | nil =>
      intro start front back
      rfl
  | cons part rest ih =>
      rw [List.forall_mem_cons] at spelled
      intro start front back
      have parts := spelled.1.draftParts (ih spelled.2) start front back
      have joined : (draftRest connective.sql start (part :: rest)).sql dialect =
          " " ++ connective.sql ++ " " ++
            (draftParts connective.sql start (part :: rest)).sql dialect := by
        simp [draftRest, draftParts, String.append_assoc]
      rw [joined, parts, tokensRest, Token.spell_cons]
      rfl

theorem Logical.spelled {expr : Expr α} (logical : expr.Logical) (dialect : Dialect) :
    expr.Spelled dialect := by
  induction logical with
  | @leaf expr isLeaf =>
      intro start front back
      simp [tokens_of_isLeaf isLeaf, leaves_of_isLeaf isLeaf, leafTexts, Token.text]
  | @joined connective parts filled _ ih =>
      intro start front back
      cases parts with
      | nil => exact absurd rfl filled
      | cons part rest =>
          rw [List.forall_mem_cons] at ih
          rw [draft, leaves, tokens, Connective.ofSql_sql]
          exact ih.1.draftParts (spelledRest ih.2) start front back
  | @negated body _ ih =>
      intro start front back
      rw [draft, leaves, tokens]
      have opening (rest : String) : "NOT (" ++ rest = "NOT " ++ ("(" ++ rest) := by
        rw [← String.append_assoc]
        rfl
      simp [ih start front back, Token.text, opening, String.append_assoc]

theorem positions_group (tokens : List Token) :
    (.opening :: (tokens ++ [.closing])).filterMap Token.leaf? = tokens.filterMap Token.leaf? := by
  rw [List.filterMap_cons_none rfl, List.filterMap_append]
  exact List.append_nil _

theorem positions_grouped (wanted : Bool) (tokens : List Token) :
    (Token.grouped wanted tokens).filterMap Token.leaf? = tokens.filterMap Token.leaf? := by
  cases wanted with
  | false => rfl
  | true => exact positions_group tokens

mutual

theorem positions_tokens (next : Nat) : ∀ expr : Expr α,
    (expr.tokens next).filterMap Token.leaf? = List.range' next expr.leaves.length
  | column _ _ _ => by simp [tokens, leaves, Token.leaf?]
  | extract _ => by simp [tokens, leaves, Token.leaf?]
  | compare _ _ _ => by simp [tokens, leaves, Token.leaf?]
  | present _ => by simp [tokens, leaves, Token.leaf?]
  | joined op parts => by
      rw [tokens, leaves]
      exact positions_tokensParts (.ofSql op) next parts
  | negated body => by
      rw [tokens, leaves, List.filterMap_cons_none rfl, positions_group, positions_tokens next body]

theorem positions_tokensParts (connective : Connective) (next : Nat) : ∀ parts : List (Expr α),
    (tokensParts connective next parts).filterMap Token.leaf? =
      List.range' next (leavesAll parts).length
  | [] => rfl
  | part :: rest => by
      rw [tokensParts, List.filterMap_append, positions_grouped, positions_tokens next part,
        positions_tokensRest connective _ rest, List.range'_append_1, leavesAll, List.length_append]

theorem positions_tokensRest (connective : Connective) (next : Nat) : ∀ parts : List (Expr α),
    (tokensRest connective next parts).filterMap Token.leaf? =
      List.range' next (leavesAll parts).length
  | [] => rfl
  | part :: rest => by
      rw [tokensRest, List.filterMap_cons_none rfl, List.filterMap_append, positions_grouped,
        positions_tokens next part, positions_tokensRest connective _ rest, List.range'_append_1,
        leavesAll, List.length_append]

end

/-- The tokens of a condition, the same in each dialect, can be parsed, and however they are parsed
they have its value. -/
theorem render_preserves_truth (expr : Expr α) (logical : expr.Logical) :
    ∃ tokens : List Token,
      tokens.filterMap Token.leaf? = List.range expr.leaves.length ∧
      (∀ (dialect : Dialect) (start : Int), ∃ fragment,
        (expr.render dialect start).outcome = .ok fragment ∧
        fragment.sql = Token.spell (leafTexts dialect start expr.leaves) tokens) ∧
      (∃ formula, Token.Parses .disjunction tokens formula) ∧
      ∀ formula, Token.Parses .disjunction tokens formula →
        ∀ truth, formula.eval truth = expr.holds truth 0 := by
  obtain ⟨formula, parses, -, value⟩ := logical.read 0
  refine ⟨expr.tokens 0, ?_, fun dialect start => ?_, ⟨formula, parses⟩,
    fun other parsed truth => ?_⟩
  · rw [positions_tokens, List.range_eq_range']
  · refine ⟨_, (expr.draft start).render_outcome dialect, ?_⟩
    simpa using logical.spelled dialect start [] []
  · rw [parsed.eval_eq parses, value]

def nestedCondition : Expr Nat :=
  .joined "AND" [.column "a" "=" 1, .joined "AND" [.joined "OR" [.column "b" "=" 2,
    .negated (.joined "OR" [.column "c" "=" 3, .column "d" "=" 4])]]]

theorem nestedCondition_logical : nestedCondition.Logical := by
  have column (name : String) (value : Nat) : (Expr.column name "=" value).Logical := .leaf rfl
  have inner : (Expr.joined "OR" [.column "c" "=" 3, .column "d" "=" 4]).Logical :=
    .joined .or (by simp) (by simpa using ⟨column "c" 3, column "d" 4⟩)
  have group : (Expr.joined "OR" [.column "b" "=" 2, .negated
      (.joined "OR" [.column "c" "=" 3, .column "d" "=" 4])]).Logical :=
    .joined .or (by simp) (by simpa using ⟨column "b" 2, .negated inner⟩)
  have single : (Expr.joined "AND" [.joined "OR" [.column "b" "=" 2, .negated
      (.joined "OR" [.column "c" "=" 3, .column "d" "=" 4])]]).Logical :=
    .joined .and (by simp) (by simpa using group)
  exact .joined .and (by simp) (by simpa using ⟨column "a" 1, single⟩)

theorem render_preserves_truth_nestedCondition :
    ∃ tokens, (∃ fragment, (nestedCondition.render .postgresql 5).outcome = .ok fragment ∧
        fragment.sql =
          Token.spell (leafTexts .postgresql 5 nestedCondition.leaves) tokens) ∧
      ∃ formula, Token.Parses .disjunction tokens formula ∧
        ∀ truth, formula.eval truth = (truth 0 && (truth 1 || !(truth 2 || truth 3))) := by
  obtain ⟨tokens, -, spelled, ⟨formula, parses⟩, value⟩ :=
    render_preserves_truth nestedCondition nestedCondition_logical
  refine ⟨tokens, spelled .postgresql 5, formula, parses, fun truth => ?_⟩
  rw [value formula parses]
  simp [nestedCondition, holds, holdsAll, leaves, Connective.ofSql, Connective.apply,
    Connective.unit]

end Expr

end JsonColumn
