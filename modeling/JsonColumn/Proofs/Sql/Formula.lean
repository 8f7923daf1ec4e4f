import JsonColumn.Expr.Basic

/-!
Conditions as SQL reads them: tokens, and a grammar in which `NOT` binds closer than `AND` and `AND`
closer than `OR`. How a row of one connective associates is left open, and has no part in the value:
one pass over the tokens finds the value of each formula that they can be parsed as.
-/

namespace JsonColumn

namespace Connective

def apply : Connective → Bool → Bool → Bool
  | and => Bool.and
  | or => Bool.or

def unit : Connective → Bool
  | and => true
  | or => false

theorem apply_assoc (connective : Connective) (a b c : Bool) :
    connective.apply (connective.apply a b) c = connective.apply a (connective.apply b c) := by
  cases connective with
  | and => exact Bool.and_assoc a b c
  | or => exact Bool.or_assoc a b c

theorem apply_unit (connective : Connective) (value : Bool) :
    connective.apply value connective.unit = value := by
  cases connective with
  | and => exact Bool.and_true value
  | or => exact Bool.or_false value

end Connective

inductive Formula where
  | leaf (position : Nat)
  | negation (body : Formula)
  | joined (connective : Connective) (left right : Formula)

def Formula.eval (truth : Nat → Bool) : Formula → Bool
  | leaf position => truth position
  | negation body => !body.eval truth
  | joined connective left right => connective.apply (left.eval truth) (right.eval truth)

inductive Token where
  | leaf (position : Nat)
  | negation
  | connective (connective : Connective)
  | opening
  | closing
  deriving DecidableEq, Repr

namespace Token

def leaf? : Token → Option Nat
  | leaf position => some position
  | _ => none

/-- Levels of the grammar, the closest binding first. -/
inductive Level where
  | primary
  | negation
  | conjunction
  | disjunction

end Token

def Connective.level : Connective → Token.Level
  | and => .conjunction
  | or => .disjunction

namespace Token

inductive Parses : Level → List Token → Formula → Prop
  | leaf (position : Nat) : Parses .primary [.leaf position] (.leaf position)
  | group {tokens formula} :
      Parses .disjunction tokens formula →
      Parses .primary (.opening :: (tokens ++ [.closing])) formula
  | primary {tokens formula} : Parses .primary tokens formula → Parses .negation tokens formula
  | negation {tokens formula} :
      Parses .negation tokens formula → Parses .negation (.negation :: tokens) (.negation formula)
  | single {tokens formula} :
      Parses .negation tokens formula → Parses .conjunction tokens formula
  | conjunction {tokens formula} :
      Parses .conjunction tokens formula → Parses .disjunction tokens formula
  | row {first second left right} (connective : Connective) :
      Parses connective.level first left → Parses connective.level second right →
      Parses connective.level (first ++ .connective connective :: second)
        (.joined connective left right)

/-- The value of the disjuncts before this one, that of the conditions this one has so far, and
whether the next is negated. -/
structure Frame where
  before : Bool := false
  current : Bool := true
  negated : Bool := false

namespace Frame

def value (frame : Frame) : Bool :=
  frame.before || frame.current

def take (frame : Frame) (value : Bool) : Frame :=
  { frame with current := frame.current && (value ^^ frame.negated), negated := false }

end Frame

def step (truth : Nat → Bool) : List Frame → Token → List Frame
  | frame :: rest, leaf position => frame.take (truth position) :: rest
  | frame :: rest, negation => { frame with negated := !frame.negated } :: rest
  | frame :: rest, connective .and => frame :: rest
  | frame :: rest, connective .or => { before := frame.value } :: rest
  | frames, opening => {} :: frames
  | inner :: frame :: rest, closing => frame.take inner.value :: rest
  | frames, _ => frames

/-- What tokens of a level and a value do to the innermost frame. -/
def Steps (truth : Nat → Bool) (tokens : List Token) (value : Bool) : Level → Prop
  | .primary | .negation => ∀ (frame : Frame) (rest : List Frame),
      tokens.foldl (step truth) (frame :: rest) = frame.take value :: rest
  | .conjunction => ∀ (frame : Frame) (rest : List Frame), frame.negated = false →
      tokens.foldl (step truth) (frame :: rest) = frame.take value :: rest
  | .disjunction => ∀ (frame : Frame) (rest : List Frame), frame.negated = false →
      frame.current = true → ∃ after, tokens.foldl (step truth) (frame :: rest) = after :: rest ∧
        after.negated = false ∧ after.value = (frame.before || value)

theorem Frame.take_take (frame : Frame) (plain : frame.negated = false) (first second : Bool) :
    (frame.take first).take second = frame.take (first && second) := by
  simp [take, plain, Bool.and_assoc]

theorem Parses.steps (truth : Nat → Bool) {level : Level} {tokens : List Token}
    {formula : Formula} (parses : Parses level tokens formula) :
    Steps truth tokens (formula.eval truth) level := by
  -- Rows of one connective may nest either way: the frame takes their conditions one by one.
  induction parses with
  | leaf position =>
      intro frame rest
      rfl
  | @group tokens formula _ ih =>
      intro frame rest
      obtain ⟨after, run, -, value⟩ := ih {} (frame :: rest) rfl rfl
      have closed : step truth (after :: frame :: rest) .closing =
          frame.take (formula.eval truth) :: rest := by
        rw [step, value, Bool.false_or]
      rw [List.foldl_cons, List.foldl_append]
      exact (congrArg (step truth · .closing) run).trans closed
  | primary _ ih => exact ih
  | @negation tokens formula _ ih =>
      intro frame rest
      rw [List.foldl_cons, step, ih]
      simp [Frame.take, Formula.eval]
  | single _ ih =>
      intro frame rest _
      exact ih frame rest
  | @conjunction tokens formula _ ih =>
      intro frame rest plain fresh
      refine ⟨frame.take (formula.eval truth), ih frame rest plain, rfl, ?_⟩
      simp [Frame.value, Frame.take, plain, fresh]
  | @row first second left right connective _ _ ihLeft ihRight =>
      cases connective with
      | and =>
          intro frame rest plain
          rw [List.foldl_append, ihLeft frame rest plain, List.foldl_cons, step,
            ihRight _ rest rfl, Frame.take_take frame plain]
          rfl
      | or =>
          intro frame rest plain fresh
          obtain ⟨middle, runLeft, -, valueLeft⟩ := ihLeft frame rest plain fresh
          obtain ⟨after, runRight, ended, value⟩ :=
            ihRight { before := middle.value } rest rfl rfl
          refine ⟨after, ?_, ended, ?_⟩
          · rw [List.foldl_append, runLeft, List.foldl_cons, step, runRight]
          · rw [value, valueLeft, Bool.or_assoc]
            rfl

theorem Parses.eval_eq {tokens : List Token} {first second : Formula}
    (left : Parses .disjunction tokens first) (right : Parses .disjunction tokens second)
    (truth : Nat → Bool) : first.eval truth = second.eval truth := by
  obtain ⟨after, run, -, value⟩ := left.steps truth {} [] rfl rfl
  obtain ⟨after', run', -, value'⟩ := right.steps truth {} [] rfl rfl
  obtain rfl : after = after' := (List.cons.inj (run.symm.trans run')).1
  simpa using value.symm.trans value'

end Token

end JsonColumn
