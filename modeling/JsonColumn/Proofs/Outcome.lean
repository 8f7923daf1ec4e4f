import Mathlib.Data.List.Forall2

/-! Computations taken apart, one after the other and step by step along a list. -/

namespace JsonColumn.Outcome

variable {ε α β σ τ : Type}

theorem bind_eq_ok_iff {first : Except ε α} {next : α → Except ε β} {value : β} :
    first.bind next = .ok value ↔ ∃ middle, first = .ok middle ∧ next middle = .ok value := by
  cases first with
  | error fault => simp [Except.bind]
  | ok middle => simp [Except.bind]

theorem bind_eq_error_iff {first : Except ε α} {next : α → Except ε β} {fault : ε} :
    first.bind next = .error fault ↔
      first = .error fault ∨ ∃ middle, first = .ok middle ∧ next middle = .error fault := by
  cases first with
  | error found => simp [Except.bind]
  | ok middle => simp [Except.bind]

theorem bind_ok_eq_error_iff {first : Except ε α} {make : α → β} {fault : ε} :
    (first.bind fun value => .ok (make value)) = .error fault ↔ first = .error fault := by
  cases first with
  | error found => simp [Except.bind]
  | ok value => simp [Except.bind]

theorem foldlM_cons_of_ok {step : σ → τ → Except ε σ} {state next : σ} {item : τ}
    (stepped : step state item = .ok next) (items : List τ) :
    (item :: items).foldlM step state = items.foldlM step next := by
  rw [List.foldlM_cons, stepped]
  rfl

theorem foldlM_append_of_ok {step : σ → τ → Except ε σ} {state next : σ} {front : List τ}
    (run : front.foldlM step state = .ok next) (items : List τ) :
    (front ++ items).foldlM step state = items.foldlM step next := by
  rw [List.foldlM_append, run]
  rfl

/-- What each step preserves, with the items taken so far in view, a whole run preserves. -/
theorem foldlM_preserves {step : σ → τ → Except ε σ} (Holds : List τ → σ → Prop)
    (keeps : ∀ taken state item next, Holds taken state → step state item = .ok next →
      Holds (taken ++ [item]) next)
    {items : List τ} {state final : σ} (start : Holds [] state)
    (run : items.foldlM step state = .ok final) : Holds items final := by
  have fromTaken : ∀ items taken state, Holds taken state → items.foldlM step state = .ok final →
      Holds (taken ++ items) final := by
    intro items
    induction items with
    | nil =>
        intro taken state start run
        cases run
        simpa using start
    | cons item items ih =>
        intro taken state start run
        rw [List.foldlM_cons] at run
        obtain ⟨next, stepped, rest⟩ := bind_eq_ok_iff.mp run
        simpa using ih (taken ++ [item]) next (keeps taken state item next start stepped) rest
  exact fromTaken items [] state start run

theorem foldlM_eq_error_iff {step : σ → τ → Except ε σ} {items : List τ} {state : σ} {fault : ε} :
    items.foldlM step state = .error fault ↔ ∃ taken item rest middle,
      items = taken ++ item :: rest ∧ taken.foldlM step state = .ok middle ∧
      step middle item = .error fault := by
  constructor
  · intro failed
    induction items generalizing state with
    | nil => cases failed
    | cons item items ih =>
        rw [List.foldlM_cons] at failed
        rcases bind_eq_error_iff.mp failed with refused | ⟨next, stepped, later⟩
        · exact ⟨[], item, items, state, rfl, rfl, refused⟩
        · obtain ⟨taken, last, rest, middle, split, run, refused⟩ := ih later
          refine ⟨item :: taken, last, rest, middle, by rw [split]; rfl, ?_, refused⟩
          rw [foldlM_cons_of_ok stepped, run]
  · rintro ⟨taken, item, rest, middle, rfl, run, refused⟩
    rw [foldlM_append_of_ok run, List.foldlM_cons, refused]
    rfl

/-- Every fault that a computation can end with is an allowed one. -/
def FailsWithin (Allowed : ε → Prop) (outcome : Except ε α) : Prop :=
  ∀ fault, outcome = .error fault → Allowed fault

namespace FailsWithin

variable {Allowed : ε → Prop}

theorem ok (value : α) : FailsWithin Allowed (.ok value : Except ε α) := by
  intro fault failed
  cases failed

theorem error {fault : ε} (allowed : Allowed fault) :
    FailsWithin Allowed (.error fault : Except ε α) := by
  intro found failed
  cases failed
  exact allowed

theorem bind {first : Except ε α} {next : α → Except ε β} (early : FailsWithin Allowed first)
    (late : ∀ value, FailsWithin Allowed (next value)) :
    FailsWithin Allowed (first.bind next) := by
  intro fault failed
  rcases bind_eq_error_iff.mp failed with failed | ⟨value, -, failed⟩
  · exact early fault failed
  · exact late value fault failed

theorem mapM {make : τ → Except ε σ} {items : List τ}
    (each : ∀ item ∈ items, FailsWithin Allowed (make item)) :
    FailsWithin Allowed (items.mapM make) := by
  induction items with
  | nil => exact ok []
  | cons item items ih =>
      rw [List.forall_mem_cons] at each
      rw [List.mapM_cons]
      exact each.1.bind fun value => (ih each.2).bind fun values => ok (value :: values)

theorem forM {check : τ → Except ε Unit} {items : List τ}
    (each : ∀ item ∈ items, FailsWithin Allowed (check item)) :
    FailsWithin Allowed (items.forM check) := by
  induction items with
  | nil => exact ok ()
  | cons item items ih =>
      rw [List.forall_mem_cons] at each
      exact each.1.bind fun _ => ih each.2

theorem foldlM {step : σ → τ → Except ε σ}
    (each : ∀ state item, FailsWithin Allowed (step state item)) (items : List τ) :
    ∀ state, FailsWithin Allowed (items.foldlM step state) := by
  induction items with
  | nil => exact ok
  | cons item items ih =>
      intro state
      rw [List.foldlM_cons]
      exact (each state item).bind ih

end FailsWithin

/-- One computation is another, unless it is cut short with a fault. -/
def CutOf (cut : ε) (first second : Except ε α) : Prop :=
  first = .error cut ∨ first = second

theorem CutOf.bind {cut : ε} {first second : Except ε α} {next others : α → Except ε β}
    (same : CutOf cut first second) (later : ∀ value, CutOf cut (next value) (others value)) :
    CutOf cut (first.bind next) (second.bind others) := by
  rcases same with cutShort | equal
  · left
    rw [cutShort]
    rfl
  · subst equal
    cases first with
    | error fault => exact .inr rfl
    | ok value => exact later value

theorem CutOf.foldlM {cut : ε} {step other : σ → τ → Except ε σ}
    (same : ∀ state item, CutOf cut (step state item) (other state item)) (items : List τ) :
    ∀ state, CutOf cut (items.foldlM step state) (items.foldlM other state) := by
  induction items with
  | nil =>
      intro state
      exact .inr rfl
  | cons item items ih =>
      intro state
      rw [List.foldlM_cons, List.foldlM_cons]
      exact (same state item).bind ih

def relabel (onFault : ε → ε) (onValue : α → β) : Except ε α → Except ε β
  | .error fault => .error (onFault fault)
  | .ok value => .ok (onValue value)

section Relabel

variable {onFault : ε → ε}

theorem relabel_eq_error_iff {onValue : α → β} {first : Except ε α} {fault : ε} :
    relabel onFault onValue first = .error fault ↔
      ∃ found, first = .error found ∧ onFault found = fault := by
  cases first with
  | error found => simp [relabel]
  | ok value => simp [relabel]

theorem relabel_eq_ok_iff {onValue : α → β} {first : Except ε α} {result : β} :
    relabel onFault onValue first = .ok result ↔
      ∃ value, first = .ok value ∧ onValue value = result := by
  cases first with
  | error found => simp [relabel]
  | ok value => simp [relabel]

theorem relabel_bind {onFirst : α → α} {onSecond : β → β} {next other : α → Except ε β}
    (same : ∀ value, other (onFirst value) = relabel onFault onSecond (next value))
    (first : Except ε α) :
    (relabel onFault onFirst first).bind other = relabel onFault onSecond (first.bind next) := by
  cases first with
  | error fault => rfl
  | ok value => exact same value

theorem relabel_foldlM {onState : σ → σ} {step other : σ → τ → Except ε σ}
    (same : ∀ state item, other (onState state) item = relabel onFault onState (step state item))
    (items : List τ) (state : σ) :
    items.foldlM other (onState state) = relabel onFault onState (items.foldlM step state) := by
  induction items generalizing state with
  | nil => rfl
  | cons item items ih =>
      rw [List.foldlM_cons, List.foldlM_cons, same]
      exact relabel_bind ih (step state item)

end Relabel

theorem mapM_eq_ok_iff {make : τ → Except ε σ} {items : List τ} {values : List σ} :
    items.mapM make = .ok values ↔
      List.Forall₂ (fun item value => make item = .ok value) items values := by
  induction items generalizing values with
  | nil =>
      rw [List.mapM_nil, List.forall₂_nil_left_iff]
      constructor
      · rintro ⟨⟩
        rfl
      · rintro rfl
        rfl
  | cons item items ih =>
      rw [List.mapM_cons, List.forall₂_cons_left_iff]
      constructor
      · intro made
        obtain ⟨value, first, made⟩ := bind_eq_ok_iff.mp made
        obtain ⟨others, rest, made⟩ := bind_eq_ok_iff.mp made
        cases made
        exact ⟨value, others, first, ih.mp rest, rfl⟩
      · rintro ⟨value, others, first, rest, rfl⟩
        exact bind_eq_ok_iff.mpr ⟨value, first, bind_eq_ok_iff.mpr ⟨others, ih.mpr rest, rfl⟩⟩

end JsonColumn.Outcome
