import JsonColumn.Path.Basic
import JsonColumn.Proofs.Text.Paired

/-!
The names that are keys, as a language: bare characters, and quoted stretches of a small alphabet.
The text of a path is in the same language, since keys are written into it as they are.
-/

namespace JsonColumn

namespace Key

def BareChar (c : Char) : Prop :=
  c ≠ '\\' ∧ c ≠ '\x00'

def Quotable (content : List Char) : Prop :=
  isQuotable content = true

theorem bareChar_of_isQuotableChar {c : Char} (quotable : isQuotableChar c = true) :
    BareChar c := by
  constructor
  · intro same
    subst same
    revert quotable
    decide
  · intro same
    subst same
    revert quotable
    decide

theorem hasDoubleHyphen_iff_infix (text : List Char) :
    hasDoubleHyphen text = true ↔ ['-', '-'] <:+: text := by
  fun_induction hasDoubleHyphen text with
  | case1 rest => simpa using (List.prefix_append ['-', '-'] rest).isInfix
  | case2 c rest apart ih =>
      rw [ih, List.infix_cons_iff]
      constructor
      · exact .inr
      · rintro (⟨more, front⟩ | later)
        · simp only [List.cons_append, List.nil_append, List.cons.injEq] at front
          exact absurd front.2.symm (apart more front.1.symm)
        · exact later
  | case3 => simp

namespace Quotable

variable {content : List Char}

theorem ne_nil (quotable : Quotable content) : content ≠ [] := by
  intro empty
  subst empty
  simp [Quotable, isQuotable] at quotable

theorem isQuotableChar (quotable : Quotable content) :
    ∀ c ∈ content, isQuotableChar c = true := by
  simp only [Quotable, isQuotable, Bool.and_eq_true] at quotable
  exact List.all_eq_true.mp quotable.1.2

theorem hasDoubleHyphen_eq_false (quotable : Quotable content) :
    hasDoubleHyphen content = false := by
  simp only [Quotable, isQuotable, Bool.and_eq_true] at quotable
  simpa using quotable.2

end Quotable

theorem bareChar_of_paired {text : List Char} (paired : Text.Paired BareChar Quotable text) :
    ∀ c ∈ text, BareChar c := by
  induction paired with
  | nil => simp
  | bare _ allowed _ ih => simpa using ⟨allowed, ih⟩
  | quoted _ allowed _ ih =>
      intro c member
      simp only [List.mem_cons, List.mem_append] at member
      rcases member with quote | inside | quote | later
      · subst quote
        exact ⟨by decide, by decide⟩
      · exact bareChar_of_isQuotableChar (allowed.isQuotableChar c inside)
      · subst quote
        exact ⟨by decide, by decide⟩
      · exact ih c later

theorem fault?_eq_none_iff (name : String) :
    fault? name = none ↔ Text.Paired BareChar Quotable name.toList := by
  constructor
  · intro valid
    unfold fault? at valid
    split at valid
    · cases valid
    · rename_i allowed
      simp only [not_or] at allowed
      dsimp only at valid
      split at valid
      · cases valid
      · rename_i odd
        simp only [Option.map_eq_none_iff, List.find?_eq_none, Bool.not_eq_true',
          Bool.not_eq_false] at valid
        have cut : Text.Paired (fun _ => True) Quotable name.toList :=
          .of_entries (by omega) (by simp) valid
        refine cut.restrict fun c member => ⟨?_, ?_⟩
        · exact fun same => allowed.1 (same ▸ member)
        · exact fun same => allowed.2 (same ▸ member)
  · intro paired
    have allowed := bareChar_of_paired paired
    obtain ⟨odd, -, stretches⟩ := paired.entries
    unfold fault?
    rw [if_neg, if_neg]
    · simpa [List.find?_eq_none, Quotable] using stretches
    · omega
    · rintro (backslash | null)
      · exact (allowed _ backslash).1 rfl
      · exact (allowed _ null).2 rfl

theorem paired (key : Key) : Text.Paired BareChar Quotable key.name.toList :=
  (fault?_eq_none_iff key.name).mp key.valid

end Key

theorem Segment.paired_step (segment : Segment) :
    Text.Paired Key.BareChar Key.Quotable segment.step.toList := by
  cases segment with
  | key key =>
      have paired : Text.Paired Key.BareChar Key.Quotable ('.' :: key.name.toList) :=
        .bare (by decide) ⟨by decide, by decide⟩ key.paired
      simpa [step, text] using paired
  | index position =>
      refine .of_bare fun c member => ?_
      simp only [step, text, String.toList_append, Nat.toList_repr, List.mem_append] at member
      rcases member with (bracket | digit) | bracket
      · have same : c = '[' := by simpa using bracket
        subst same
        exact ⟨by decide, by decide, by decide⟩
      · have isDigit := Nat.isDigit_of_mem_toDigits (by decide) (by decide) digit
        refine ⟨?_, ?_, ?_⟩
        all_goals
          rintro rfl
          simp at isDigit
      · have same : c = ']' := by simpa using bracket
        subst same
        exact ⟨by decide, by decide, by decide⟩

theorem Path.paired_format (path : Path) :
    Text.Paired Key.BareChar Key.Quotable path.format.toList := by
  have steps : ∀ segments : List Segment, Text.Paired Key.BareChar Key.Quotable
      (String.join (segments.map Segment.step)).toList := by
    intro segments
    induction segments with
    | nil => simpa using Text.Paired.nil
    | cons segment segments ih => simpa using segment.paired_step.append (by simpa using ih)
  simpa [format] using Text.Paired.bare (by decide) ⟨by decide, by decide⟩ (steps path.segments)

end JsonColumn
