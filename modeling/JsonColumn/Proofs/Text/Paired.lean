import JsonColumn.Text.Basic

/-!
Text whose quotes come in pairs: a row of bare characters and quoted stretches. Cutting such text at
its quotes leaves the bare characters in the even places and the stretches in the odd ones.
-/

namespace JsonColumn.Text

def evenEntries {α : Type} : List α → List α
  | [] => []
  | entry :: rest => entry :: oddEntries rest

@[simp] theorem evenEntries_nil {α : Type} : evenEntries ([] : List α) = [] := rfl

@[simp] theorem evenEntries_cons {α : Type} (entry : α) (rest : List α) :
    evenEntries (entry :: rest) = entry :: oddEntries rest := rfl

@[simp] theorem oddEntries_nil {α : Type} : oddEntries ([] : List α) = [] := rfl

@[simp] theorem oddEntries_cons {α : Type} (entry : α) (rest : List α) :
    oddEntries (entry :: rest) = evenEntries rest := by
  cases rest with
  | nil => rfl
  | cons next rest => rfl

theorem splitOn_append_separator {separator : Char} {front : List Char}
    (absent : separator ∉ front) (rest : List Char) :
    splitOn separator (front ++ separator :: rest) = front :: splitOn separator rest := by
  induction front with
  | nil => simp
  | cons c front ih =>
      simp only [List.mem_cons, not_or] at absent
      have other : ¬c = separator := fun same => absent.1 same.symm
      simp [splitOn, other, ih absent.2]

theorem splitOn_eq_singleton {separator : Char} {text : List Char} (absent : separator ∉ text) :
    splitOn separator text = [text] := by
  induction text with
  | nil => rfl
  | cons c text ih =>
      simp only [List.mem_cons, not_or] at absent
      have other : ¬c = separator := fun same => absent.1 same.symm
      simp [splitOn, other, ih absent.2]

theorem append_separator_inj {separator : Char} {first second rest others : List Char}
    (left : separator ∉ first) (right : separator ∉ second)
    (same : first ++ separator :: rest = second ++ separator :: others) :
    first = second ∧ rest = others := by
  have cut := congrArg (splitOn separator) same
  rw [splitOn_append_separator left, splitOn_append_separator right] at cut
  obtain rfl := (List.cons.inj cut).1
  simpa using same

theorem splitOn_bare {separator c : Char} (other : c ≠ separator) (rest : List Char) :
    ∃ first others, splitOn separator rest = first :: others ∧
      splitOn separator (c :: rest) = (c :: first) :: others := by
  cases parts : splitOn separator rest with
  | nil => exact absurd parts (splitOn_ne_nil separator rest)
  | cons first others => exact ⟨first, others, rfl, by simp [splitOn, other, parts]⟩

def stretches (text : List Char) : List (List Char) :=
  oddEntries (splitOn '"' text)

/-- A text without its quotes and without what stands between them. -/
def bareText (text : List Char) : List Char :=
  (evenEntries (splitOn '"' text)).flatten

theorem stretches_bare {c : Char} (unquoted : c ≠ '"') (rest : List Char) :
    stretches (c :: rest) = stretches rest := by
  obtain ⟨first, others, cut, cutMore⟩ := splitOn_bare unquoted rest
  rw [stretches, stretches, cut, cutMore, oddEntries_cons, oddEntries_cons]

theorem stretches_quoted {content : List Char} (unquoted : '"' ∉ content) (rest : List Char) :
    stretches ('"' :: (content ++ '"' :: rest)) = content :: stretches rest := by
  rw [stretches, splitOn_separator, splitOn_append_separator unquoted, oddEntries_cons,
    evenEntries_cons, stretches]

/-- Bare characters and stretches between a pair of quotes, in any order. -/
inductive Paired (Bare : Char → Prop) (Stretch : List Char → Prop) : List Char → Prop
  | nil : Paired Bare Stretch []
  | bare {c rest} : c ≠ '"' → Bare c → Paired Bare Stretch rest → Paired Bare Stretch (c :: rest)
  | quoted {content rest} : '"' ∉ content → Stretch content → Paired Bare Stretch rest →
      Paired Bare Stretch ('"' :: (content ++ '"' :: rest))

namespace Paired

variable {Bare : Char → Prop} {Stretch : List Char → Prop}

theorem of_bare {text : List Char} (bare : ∀ c ∈ text, c ≠ '"' ∧ Bare c) :
    Paired Bare Stretch text := by
  induction text with
  | nil => exact .nil
  | cons c rest ih =>
      rw [List.forall_mem_cons] at bare
      exact .bare bare.1.1 bare.1.2 (ih bare.2)

theorem append {first second : List Char} (left : Paired Bare Stretch first)
    (right : Paired Bare Stretch second) : Paired Bare Stretch (first ++ second) := by
  induction left with
  | nil => exact right
  | bare unquoted allowed _ ih => exact .bare unquoted allowed ih
  | quoted unquoted allowed _ ih => simpa using Paired.quoted unquoted allowed ih

theorem restrict {Bare' : Char → Prop} {text : List Char} (paired : Paired Bare Stretch text)
    (allowed : ∀ c ∈ text, Bare' c) : Paired Bare' Stretch text := by
  induction paired with
  | nil => exact .nil
  | bare unquoted _ _ ih =>
      rw [List.forall_mem_cons] at allowed
      exact .bare unquoted allowed.1 (ih allowed.2)
  | quoted unquoted stretch _ ih =>
      exact .quoted unquoted stretch (ih fun c member => allowed c (by simp [member]))

theorem entries {text : List Char} (paired : Paired Bare Stretch text) :
    (splitOn '"' text).length % 2 = 1 ∧
      (∀ part ∈ evenEntries (splitOn '"' text), ∀ c ∈ part, Bare c) ∧
      ∀ content ∈ oddEntries (splitOn '"' text), Stretch content := by
  induction paired with
  | nil => simp
  | @bare c rest unquoted allowed _ ih =>
      obtain ⟨first, others, cut, cutMore⟩ := splitOn_bare unquoted rest
      rw [cut] at ih
      rw [cutMore]
      simp only [List.length_cons, evenEntries_cons, oddEntries_cons, List.forall_mem_cons] at ih ⊢
      exact ⟨ih.1, ⟨⟨allowed, ih.2.1.1⟩, ih.2.1.2⟩, ih.2.2⟩
  | @quoted content rest unquoted allowed _ ih =>
      rw [splitOn_separator, splitOn_append_separator unquoted]
      simp only [List.length_cons, evenEntries_cons, oddEntries_cons, List.forall_mem_cons,
        List.not_mem_nil, false_implies, implies_true, true_and]
      exact ⟨by omega, ih.2.1, allowed, ih.2.2⟩

theorem bare_of_mem {text : List Char} (paired : Paired Bare Stretch text) :
    ∀ c ∈ bareText text, Bare c := by
  intro c member
  obtain ⟨part, isPart, inside⟩ := List.mem_flatten.mp member
  exact paired.entries.2.1 part isPart c inside

theorem of_entries {text : List Char} (odd : (splitOn '"' text).length % 2 = 1)
    (bare : ∀ part ∈ evenEntries (splitOn '"' text), ∀ c ∈ part, Bare c)
    (stretches : ∀ content ∈ oddEntries (splitOn '"' text), Stretch content) :
    Paired Bare Stretch text := by
  generalize size : text.length = length
  induction length using Nat.strongRecOn generalizing text with
  | ind length ih =>
      cases text with
      | nil => exact .nil
      | cons c rest =>
          simp only [List.length_cons] at size
          by_cases quote : c = '"'
          · subst quote
            have closing : '"' ∈ rest := by
              rw [length_splitOn, List.count_cons_self] at odd
              exact List.count_pos_iff.mp (by omega)
            obtain ⟨content, more, cut, unquoted⟩ := List.eq_append_cons_of_mem closing
            subst cut
            rw [splitOn_separator, splitOn_append_separator unquoted] at odd bare stretches
            simp only [List.length_cons, evenEntries_cons, oddEntries_cons,
              List.forall_mem_cons] at odd bare stretches
            simp only [List.length_append, List.length_cons] at size
            exact .quoted unquoted stretches.1
              (ih more.length (by omega) (by omega) bare.2 stretches.2 rfl)
          · obtain ⟨first, others, cut, cutMore⟩ := splitOn_bare quote rest
            rw [cutMore] at odd bare stretches
            simp only [List.length_cons, evenEntries_cons, oddEntries_cons,
              List.forall_mem_cons] at odd bare stretches
            refine .bare quote bare.1.1 (ih rest.length (by omega) ?_ ?_ ?_ rfl)
            · simpa [cut] using odd
            · simpa [cut] using ⟨bare.1.2, bare.2⟩
            · simpa [cut] using stretches

theorem cut_append {first : List Char} (paired : Paired Bare Stretch first) (second : List Char) :
    stretches (first ++ second) = stretches first ++ stretches second ∧
      bareText (first ++ second) = bareText first ++ bareText second := by
  unfold stretches bareText
  induction paired with
  | nil => simp
  | @bare c rest unquoted _ _ ih =>
      obtain ⟨part, parts, cut, cutMore⟩ := splitOn_bare unquoted rest
      obtain ⟨whole, wholes, cutAll, cutAllMore⟩ := splitOn_bare unquoted (rest ++ second)
      rw [cut, cutAll] at ih
      rw [List.cons_append, cutMore, cutAllMore]
      simpa using ih
  | @quoted content rest unquoted _ _ ih =>
      rw [List.cons_append, List.append_assoc, List.cons_append, splitOn_separator,
        splitOn_append_separator unquoted, splitOn_separator, splitOn_append_separator unquoted]
      simpa using ih

end Paired

theorem paired_iff_entries {Bare : Char → Prop} {Stretch : List Char → Prop} {text : List Char} :
    Paired Bare Stretch text ↔ (splitOn '"' text).length % 2 = 1 ∧
      (∀ part ∈ evenEntries (splitOn '"' text), ∀ c ∈ part, Bare c) ∧
      ∀ content ∈ oddEntries (splitOn '"' text), Stretch content :=
  ⟨Paired.entries, fun ⟨odd, bare, stretches⟩ => .of_entries odd bare stretches⟩

end JsonColumn.Text
