import JsonColumn.Path.Basic
import JsonColumn.Proofs.Text.Paired
import Mathlib.Data.List.Chain
import Mathlib.Data.Nat.Digits.Defs

/-!
The grammar of the text of a path: a row of separators, indexes and key runs, with no two runs side
by side. A text is such a row in one way at most.
-/

namespace JsonColumn.Path

inductive Item where
  | separator (c : Char)
  | index (digits : List Char)
  | key (run : List Char)

namespace Item

def text : Item → List Char
  | separator c => [c]
  | index digits => '[' :: (digits ++ [']'])
  | key run => run

def stops : List Char :=
  ['.', '$', '[']

theorem separator_mem_stops {c : Char} (separator : c = '.' ∨ c = '$') : c ∈ stops := by
  rcases separator with rfl | rfl
  · decide
  · decide

/-- Any text with its quotes in pairs and without a stop outside of them. -/
def IsRun (run : List Char) : Prop :=
  Text.Paired (· ∉ stops) (fun _ => True) run

def WellFormed : Item → Prop
  | separator c => c = '.' ∨ c = '$'
  | index digits => (∀ c ∈ digits, c.isDigit = true) ∧ 1 ≤ digits.length ∧ digits.length ≤ 18
  | key run => run ≠ [] ∧ IsRun run

def isKey : Item → Bool
  | key _ => true
  | _ => false

def isSegment : Item → Bool
  | separator _ => false
  | _ => true

def decimal (digits : List Char) : Nat :=
  Nat.ofDigits 10 (digits.reverse.map fun c => c.toNat - '0'.toNat)

theorem ofDigitChars_eq_decimal (digits : List Char) :
    Nat.ofDigitChars 10 digits 0 = decimal digits := by
  induction digits using List.reverseRecOn with
  | nil => rfl
  | append_singleton digits c ih =>
      rw [Nat.ofDigitChars_append, Nat.ofDigitChars_cons, Nat.ofDigitChars_nil, ih]
      simp only [decimal, List.reverse_append, List.reverse_singleton, List.singleton_append,
        List.map_cons, Nat.ofDigits_cons]
      omega

theorem decimal_toDigits (position : Nat) : decimal (Nat.toDigits 10 position) = position := by
  rw [← ofDigitChars_eq_decimal, Nat.ofDigitChars_ten_toDigits]

theorem decimal_lt {digits : List Char} (wellFormed : (index digits).WellFormed) :
    decimal digits < 10 ^ 18 := by
  obtain ⟨areDigits, -, short⟩ := wellFormed
  have small : ∀ value ∈ digits.reverse.map fun c => c.toNat - '0'.toNat, value < 10 := by
    intro value member
    obtain ⟨c, inDigits, rfl⟩ := List.mem_map.mp member
    have digit : 48 ≤ c.toNat ∧ c.toNat ≤ 57 :=
      Char.isDigit_iff_toNat.mp (areDigits c (List.mem_reverse.mp inDigits))
    change c.toNat - 48 < 10
    omega
  calc decimal digits < 10 ^ (digits.reverse.map fun c => c.toNat - '0'.toNat).length :=
        Nat.ofDigits_lt_base_pow_length (by decide) small
    _ ≤ 10 ^ 18 := Nat.pow_le_pow_right (by decide) (by simpa using short)

end Item

structure Decomposes (text : List Char) (items : List Item) : Prop where
  covers : items.flatMap Item.text = text
  wellFormed : ∀ item ∈ items, item.WellFormed
  maximal : items.IsChain fun first second => ¬(first.isKey ∧ second.isKey)

/-- The segments that items stand for. Only a run that is a valid key stands for one. -/
inductive Denotes : List Item → List Segment → Prop
  | nil : Denotes [] []
  | separator {items segments} (c : Char) :
      Denotes items segments → Denotes (.separator c :: items) segments
  | index {items segments} (digits : List Char) :
      Denotes items segments →
      Denotes (.index digits :: items) (.index (Item.decimal digits) :: segments)
  | key {items segments} (key : Key) :
      Denotes items segments → Denotes (.key key.name.toList :: items) (.key key :: segments)

namespace Denotes

variable {items more : List Item} {segments others : List Segment}

theorem append (front : Denotes items segments) (back : Denotes more others) :
    Denotes (items ++ more) (segments ++ others) := by
  induction front with
  | nil => exact back
  | separator c _ ih => exact .separator c ih
  | index digits _ ih => exact .index digits ih
  | key key _ ih => exact .key key ih

theorem length_eq (denotes : Denotes items segments) :
    segments.length = items.countP Item.isSegment := by
  induction denotes with
  | nil => rfl
  | separator c _ ih => rw [ih, List.countP_cons_of_neg (by simp [Item.isSegment])]
  | index digits _ ih => rw [List.length_cons, ih, List.countP_cons_of_pos rfl]
  | key key _ ih => rw [List.length_cons, ih, List.countP_cons_of_pos rfl]

end Denotes

namespace Item

def Stopped (rest : List Char) : Prop :=
  ∀ c ∈ rest.head?, c ∈ stops

theorem IsRun.eq_nil_of_stopped {run rest : List Char} (isRun : IsRun run)
    (stopped : Stopped (run ++ rest)) : run = [] := by
  cases isRun with
  | nil => rfl
  | bare _ allowed _ => exact absurd (stopped _ rfl) allowed
  | quoted _ _ _ => exact absurd (stopped _ rfl) (by decide)

theorem IsRun.unique {first second rest others : List Char} (left : IsRun first)
    (right : IsRun second) (leftEnd : Stopped rest) (rightEnd : Stopped others)
    (same : first ++ rest = second ++ others) : first = second := by
  induction left generalizing second with
  | nil => exact (right.eq_nil_of_stopped (by rwa [← same])).symm
  | @bare c run unquoted allowed _ ih =>
      cases right with
      | nil =>
          have stop : c ∈ stops := rightEnd c (by rw [← List.nil_append others, ← same]; rfl)
          exact absurd stop allowed
      | bare _ _ right =>
          obtain ⟨rfl, sameRest⟩ := List.cons.inj same
          rw [ih right sameRest]
      | quoted _ _ _ => exact absurd (List.cons.inj same).1 unquoted
  | @quoted content run unquoted _ _ ih =>
      cases right with
      | nil =>
          have stop : '"' ∈ stops := rightEnd '"' (by rw [← List.nil_append others, ← same]; rfl)
          exact absurd stop (by decide)
      | bare unquoted _ _ => exact absurd (List.cons.inj same).1.symm unquoted
      | @quoted content' run' unquoted' _ right =>
          simp only [List.cons_append, List.append_assoc, List.cons.injEq, true_and] at same
          obtain ⟨rfl, sameRest⟩ := Text.append_separator_inj unquoted unquoted' same
          rw [ih right sameRest]

theorem closing_not_mem {digits : List Char} (areDigits : ∀ c ∈ digits, c.isDigit = true) :
    ']' ∉ digits :=
  fun bracket => absurd (areDigits ']' bracket) (by decide)

theorem WellFormed.stopped {item : Item} (wellFormed : item.WellFormed) (other : ¬item.isKey)
    (rest : List Char) : Stopped (item.text ++ rest) := by
  cases item with
  | separator c =>
      rcases wellFormed with rfl | rfl
      · simp [Stopped, text, stops]
      · simp [Stopped, text, stops]
  | index digits => simp [Stopped, text, stops]
  | key run => simp [isKey] at other

theorem WellFormed.text_ne_nil {item : Item} (wellFormed : item.WellFormed) : item.text ≠ [] := by
  cases item with
  | separator c => simp [text]
  | index digits => simp [text]
  | key run => exact wellFormed.1

theorem WellFormed.not_stopped {run : List Char} (wellFormed : (key run).WellFormed)
    (rest : List Char) : ¬Stopped (run ++ rest) :=
  fun stopped => wellFormed.1 (wellFormed.2.eq_nil_of_stopped stopped)

theorem WellFormed.eq_of_text {first second : Item} {rest others : List Char}
    (left : first.WellFormed) (right : second.WellFormed)
    (leftEnd : first.isKey → Stopped rest) (rightEnd : second.isKey → Stopped others)
    (same : first.text ++ rest = second.text ++ others) : first = second := by
  cases first with
  | key run =>
      cases second with
      | key run' => rw [left.2.unique right.2 (leftEnd rfl) (rightEnd rfl) same]
      | separator c =>
          exact absurd (same ▸ right.stopped (by simp [isKey]) others) (left.not_stopped rest)
      | index digits =>
          exact absurd (same ▸ right.stopped (by simp [isKey]) others) (left.not_stopped rest)
  | separator c =>
      cases second with
      | key run =>
          exact absurd (same ▸ left.stopped (by simp [isKey]) rest) (right.not_stopped others)
      | separator c' => rw [(List.cons.inj same).1]
      | index digits =>
          have bracket : c = '[' := (List.cons.inj same).1
          subst bracket
          simp [WellFormed] at left
  | index digits =>
      cases second with
      | key run =>
          exact absurd (same ▸ left.stopped (by simp [isKey]) rest) (right.not_stopped others)
      | separator c =>
          have bracket : '[' = c := (List.cons.inj same).1
          subst bracket
          simp [WellFormed] at right
      | index digits' =>
          simp only [text, List.cons_append, List.append_assoc, List.cons.injEq, true_and] at same
          rw [(Text.append_separator_inj (closing_not_mem left.1) (closing_not_mem right.1) same).1]

end Item

namespace Decomposes

theorem tail {text : List Char} {item : Item} {items : List Item}
    (decomposes : Decomposes text (item :: items)) :
    Decomposes (items.flatMap Item.text) items where
  covers := rfl
  wellFormed := (List.forall_mem_cons.mp decomposes.wellFormed).2
  maximal := decomposes.maximal.tail

theorem stopped {text : List Char} {item : Item} {items : List Item}
    (decomposes : Decomposes text (item :: items)) (isKey : item.isKey) :
    Item.Stopped (items.flatMap Item.text) := by
  cases items with
  | nil => simp [Item.Stopped]
  | cons next items =>
      have other : ¬next.isKey := fun next =>
        (List.isChain_cons_cons.mp decomposes.maximal).1 ⟨isKey, next⟩
      exact Item.WellFormed.stopped (decomposes.wellFormed next (by simp)) other _

theorem eq_nil {items : List Item} (decomposes : Decomposes [] items) : items = [] := by
  cases items with
  | nil => rfl
  | cons item items =>
      have covers := decomposes.covers
      simp only [List.flatMap_cons, List.append_eq_nil_iff] at covers
      exact absurd covers.1 (decomposes.wellFormed item (by simp)).text_ne_nil

theorem unique {text : List Char} {first second : List Item} (left : Decomposes text first)
    (right : Decomposes text second) : first = second := by
  induction first generalizing text second with
  | nil =>
      obtain rfl := left.covers
      exact right.eq_nil.symm
  | cons item items ih =>
      cases second with
      | nil =>
          obtain rfl := right.covers
          exact left.eq_nil
      | cons other others =>
          have same := left.covers.trans right.covers.symm
          simp only [List.flatMap_cons] at same
          have head : item = other :=
            (left.wellFormed item (by simp)).eq_of_text (right.wellFormed other (by simp))
              left.stopped right.stopped same
          subst head
          have rest := List.append_cancel_left same
          rw [ih left.tail (rest ▸ right.tail)]

end Decomposes

end JsonColumn.Path
