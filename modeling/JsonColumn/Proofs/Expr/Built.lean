import JsonColumn.Proofs.Outcome
import JsonColumn.Proofs.Sql.Placeholder
import JsonColumn.Select

/-!
Expressions and statements that a caller can build. Every name in them has been checked, so a built
expression has only operators and connectives that are known, and casts to plain types.
-/

namespace JsonColumn

namespace TypeName

theorem not_mem_of_refused {c : Char} (refused : ∀ stage : Stage, stage.next? c = none)
    {text : String} (accepted : accepts text = true) : c ∉ text.toList := by
  have stuck : ∀ characters : List Char, c ∈ characters → ∀ stage : Stage,
      characters.foldlM Stage.next? stage = none := by
    intro characters member
    induction characters with
    | nil => cases member
    | cons first rest ih =>
        intro stage
        rw [List.foldlM_cons]
        rcases List.mem_cons.mp member with same | later
        · simp [← same, refused stage]
        · cases stage.next? first with
          | none => rfl
          | some next => exact ih later next
  intro member
  simp [accepts, stuck text.toList member .wordStart] at accepted

theorem not_mem_loaded {text : String} (accepted : accepts text = true) :
    Text.Avoids text.toList Piece.loaded := by
  intro c member isLoaded
  refine not_mem_of_refused (fun stage => ?_) accepted member
  have refused : (Piece.loaded.all fun c => (stage.next? c).isNone) = true := by
    cases stage <;> decide
  simpa using List.all_eq_true.mp refused c isLoaded

end TypeName

namespace Options

def Plain (options : Options) : Prop :=
  ∀ type ∈ options.cast, TypeName.accepts type = true

theorem plain_apply {options next : Options} {modifier : Modifier} (plain : options.Plain)
    (applied : options.apply modifier = .ok next) : next.Plain := by
  cases modifier with
  | cast type =>
      cases applied
      simpa [Plain] using type.valid
  | unquote wanted =>
      cases applied
      exact plain
  | unknown value => cases applied

theorem plain_ofModifiers {modifiers : List Modifier} {options : Options}
    (folded : ofModifiers modifiers = .ok options) : options.Plain := by
  have start : Plain {} := by simp [Plain]
  exact Outcome.foldlM_preserves (fun (_ : List Modifier) options => options.Plain)
    (fun _ _ _ _ plain applied => plain_apply plain applied) start folded

theorem Plain.clear {options : Options} (plain : options.Plain) :
    ∀ type ∈ options.castTarget, Text.Avoids type.toList Piece.loaded := by
  intro type wanted
  rw [castTarget, Option.mem_def, Option.filter_eq_some_iff] at wanted
  exact TypeName.not_mem_loaded (plain type wanted.1)

end Options

theorem Extraction.plain_of_build {column : String} {source : PathSource}
    {modifiers : List Modifier} {extraction : Extraction}
    (built : (build column source modifiers).outcome = .ok extraction) :
    extraction.options.Plain := by
  simp only [build, Traced.outcome_bind] at built
  obtain ⟨-, -, built⟩ := Outcome.bind_eq_ok_iff.mp built
  obtain ⟨path, -, built⟩ := Outcome.bind_eq_ok_iff.mp built
  obtain ⟨options, folded, built⟩ := Outcome.bind_eq_ok_iff.mp built
  cases built
  exact Options.plain_ofModifiers folded

namespace Expr

variable {α : Type}

inductive Built : Expr α → Prop
  | column {column name : String} {value : α} {expr : Expr α} :
      compareColumn column name value = .ok expr → Built expr
  | value {column : String} {source : PathSource} {modifiers : List Modifier} {expr : Expr α} :
      (valueAt column source modifiers).outcome = .ok expr → Built expr
  | compare {column : String} {operator : Operator} {value : α} {source : PathSource}
      {modifiers : List Modifier} {expr : Expr α} :
      (compareValue column operator value source modifiers).outcome = .ok expr → Built expr
  | compareBy {column op : String} {value : α} {source : PathSource}
      {modifiers : List Modifier} {expr : Expr α} :
      (compareValueBy column op value source modifiers).outcome = .ok expr → Built expr
  | present {column : String} {source : PathSource} {modifiers : List Modifier} {expr : Expr α} :
      (hasKey column source modifiers).outcome = .ok expr → Built expr
  | allOf {parts : List (Expr α)} {expr : Expr α} :
      (∀ part ∈ parts, Built part) → allOf parts = .ok expr → Built expr
  | anyOf {parts : List (Expr α)} {expr : Expr α} :
      (∀ part ∈ parts, Built part) → anyOf parts = .ok expr → Built expr
  | negated {body : Expr α} : Built body → Built (.negated body)

/-- What can be seen of a built expression: known operators, connectives with parts to join, and
casts to plain types. -/
inductive Vetted : Expr α → Prop
  | column (name : String) (operator : Operator) (value : α) :
      Vetted (.column name operator.sql value)
  | extract {extraction : Extraction} : extraction.options.Plain → Vetted (.extract extraction)
  | compare {extraction : Extraction} (operator : Operator) (value : α) :
      extraction.options.Plain → Vetted (.compare (.extract extraction) operator.sql value)
  | present {extraction : Extraction} :
      extraction.options.Plain → Vetted (.present (.extract extraction))
  | joined (connective : Connective) {parts : List (Expr α)} :
      parts ≠ [] → (∀ part ∈ parts, Vetted part) → Vetted (.joined connective.sql parts)
  | negated {body : Expr α} : Vetted body → Vetted (.negated body)

theorem valueAt_eq_ok {column : String} {source : PathSource} {modifiers : List Modifier}
    {expr : Expr α} (built : (valueAt column source modifiers).outcome = .ok expr) :
    ∃ extraction : Extraction, extraction.options.Plain ∧ expr = .extract extraction := by
  simp only [valueAt, Traced.outcome_bind] at built
  obtain ⟨extraction, located, built⟩ := Outcome.bind_eq_ok_iff.mp built
  cases built
  exact ⟨extraction, Extraction.plain_of_build located, rfl⟩

theorem vetted_compareValue {column : String} {operator : Operator} {value : α}
    {source : PathSource} {modifiers : List Modifier} {expr : Expr α}
    (built : (compareValue column operator value source modifiers).outcome = .ok expr) :
    expr.Vetted := by
  simp only [compareValue, Traced.outcome_bind] at built
  obtain ⟨target, located, built⟩ := Outcome.bind_eq_ok_iff.mp built
  cases built
  obtain ⟨extraction, plain, rfl⟩ := valueAt_eq_ok located
  exact .compare operator value plain

theorem combine_eq_ok_iff {connective : Connective} {parts : List (Expr α)} {expr : Expr α} :
    combine connective parts = .ok expr ↔
      parts = [expr] ∨ 2 ≤ parts.length ∧ expr = .joined connective.sql parts := by
  match parts with
  | [] => simp [combine]
  | [single] => simp [combine]
  | first :: second :: others => simp [combine, eq_comm]

theorem vetted_combine {connective : Connective} {parts : List (Expr α)} {expr : Expr α}
    (vetted : ∀ part ∈ parts, part.Vetted) (built : combine connective parts = .ok expr) :
    expr.Vetted := by
  rcases combine_eq_ok_iff.mp built with rfl | ⟨several, rfl⟩
  · exact vetted expr (by simp)
  · exact .joined connective (List.ne_nil_of_length_pos (by omega)) vetted

theorem Built.vetted {expr : Expr α} (built : expr.Built) : expr.Vetted := by
  induction built with
  | column built =>
      obtain ⟨-, -, built⟩ := Outcome.bind_eq_ok_iff.mp built
      obtain ⟨operator, -, built⟩ := Outcome.bind_eq_ok_iff.mp built
      cases built
      exact .column _ operator _
  | value built =>
      obtain ⟨extraction, plain, rfl⟩ := valueAt_eq_ok built
      exact .extract plain
  | compare built => exact vetted_compareValue built
  | compareBy built =>
      simp only [compareValueBy, Traced.outcome_bind] at built
      obtain ⟨operator, -, built⟩ := Outcome.bind_eq_ok_iff.mp built
      exact vetted_compareValue built
  | present built =>
      simp only [hasKey, Traced.outcome_bind] at built
      obtain ⟨target, located, built⟩ := Outcome.bind_eq_ok_iff.mp built
      cases built
      obtain ⟨extraction, plain, rfl⟩ := valueAt_eq_ok located
      exact .present plain
  | allOf _ built ih => exact vetted_combine ih built
  | anyOf _ built ih => exact vetted_combine ih built
  | negated _ ih => exact .negated ih

end Expr

namespace Select

variable {α : Type}

inductive Built : Select α → Prop
  | start {columns : List (Column α)} {dialect : Datum} {select : Select α} :
      (∀ expr, .computed expr ∈ columns → expr.Built) →
      Select.start columns dialect = .ok select → Built select
  | fromTable {select : Select α} (table : Table) : Built select → Built (select.fromTable table)
  | restrict {select : Select α} {predicate : Expr α} :
      Built select → predicate.Built → Built (select.restrict predicate)

structure Vetted (select : Select α) : Prop where
  known : ∃ dialect : Dialect, select.dialect = dialect.name
  columns : ∀ expr, .computed expr ∈ select.columns → expr.Vetted
  predicate : ∀ predicate ∈ select.predicate, predicate.Vetted

theorem start_eq_ok {columns : List (Column α)} {dialect : Datum} {select : Select α}
    (started : start columns dialect = .ok select) :
    ∃ known : Dialect, Dialect.ofDatum dialect = .ok known ∧
      select.columns = (if columns.isEmpty then [.star] else columns) ∧
      select.dialect = known.name ∧ select.table = none ∧ select.predicate = none := by
  obtain ⟨-, -, started⟩ := Outcome.bind_eq_ok_iff.mp started
  obtain ⟨known, resolved, started⟩ := Outcome.bind_eq_ok_iff.mp started
  cases started
  exact ⟨known, resolved, rfl, rfl, rfl, rfl⟩

theorem vetted_start {columns : List (Column α)} {dialect : Datum} {select : Select α}
    (vetted : ∀ expr, .computed expr ∈ columns → expr.Vetted)
    (started : start columns dialect = .ok select) : select.Vetted := by
  obtain ⟨known, -, kept, named, -, unrestricted⟩ := start_eq_ok started
  refine ⟨⟨known, named⟩, ?_, by simp [unrestricted]⟩
  rw [kept]
  cases columns with
  | nil => simp
  | cons column columns => simpa using vetted

theorem vetted_restrict {select : Select α} {predicate : Expr α} (vetted : select.Vetted)
    (added : predicate.Vetted) : (select.restrict predicate).Vetted := by
  refine ⟨vetted.known, vetted.columns, ?_⟩
  cases earlier : select.predicate with
  | none => simpa [restrict, earlier] using added
  | some first =>
      have both : ∀ part ∈ [first, predicate], part.Vetted := by
        simpa using ⟨vetted.predicate first earlier, added⟩
      have joined : Expr.allOf [first, predicate] =
          .ok (.joined Connective.and.sql [first, predicate]) := rfl
      simpa [restrict, earlier, joined, Except.toOption] using Expr.vetted_combine both joined

theorem Built.vetted {select : Select α} (built : select.Built) : select.Vetted := by
  induction built with
  | start columns started =>
      exact vetted_start (fun expr member => (columns expr member).vetted) started
  | fromTable table _ ih => exact ⟨ih.known, ih.columns, ih.predicate⟩
  | restrict _ added ih => exact vetted_restrict ih added.vetted

end Select

end JsonColumn
