import JsonColumn.Proofs.Expr.Built
import Mathlib.Computability.Language

/-!
The plain names of types as a regular language. The check of a name is an automaton, and the texts
that it takes from each of its stages on solve the equations that its arrows give.
-/

open scoped Computability

namespace JsonColumn.TypeName

def single (Allowed : Char → Prop) : Language Char :=
  {text | ∃ c, text = [c] ∧ Allowed c}

def mark (c : Char) : Language Char :=
  single (· = c)

def WordStart (c : Char) : Prop :=
  'A' ≤ c ∧ c ≤ 'Z' ∨ 'a' ≤ c ∧ c ≤ 'z' ∨ c = '_'

def WordChar (c : Char) : Prop :=
  WordStart c ∨ '0' ≤ c ∧ c ≤ '9'

def Decimal (c : Char) : Prop :=
  Text.isDecimal c = true

def oneWord : Language Char :=
  single WordStart * (single WordChar)∗

def words : Language Char :=
  oneWord * (mark ' ' * oneWord)∗

def number : Language Char :=
  single Decimal * (single Decimal)∗

def secondNumber : Language Char :=
  mark ',' * (1 + mark ' ') * number

def size : Language Char :=
  1 + mark '(' * number * (1 + secondNumber) * mark ')'

def brackets : Language Char :=
  (mark '[' * mark ']')∗

def language : Language Char :=
  words * size * brackets

section

variable {Allowed : Char → Prop} {later : Language Char} {c first : Char} {rest : List Char}

theorem nil_not_mem_single_mul : [] ∉ single Allowed * later := by
  rintro ⟨front, ⟨c, rfl, -⟩, back, -, joined⟩
  cases joined

theorem cons_mem_single_mul : c :: rest ∈ single Allowed * later ↔ Allowed c ∧ rest ∈ later := by
  constructor
  · rintro ⟨front, ⟨first, rfl, allowed⟩, back, member, joined⟩
    cases joined
    exact ⟨allowed, member⟩
  · rintro ⟨allowed, member⟩
    exact ⟨[c], ⟨c, rfl, allowed⟩, rest, member, rfl⟩

theorem cons_mem_mark_mul : c :: rest ∈ mark first * later ↔ c = first ∧ rest ∈ later :=
  cons_mem_single_mul

theorem kstar_mul (repeated later : Language Char) :
    repeated∗ * later = repeated * (repeated∗ * later) + later := by
  rw [← mul_assoc, ← add_one_mul, add_comm, Language.one_add_self_mul_kstar_eq_kstar]

end

section Characters

variable {c : Char}

theorem isWordStart_iff : isWordStart c = true ↔ WordStart c := by
  unfold isWordStart WordStart Char.isAlpha Char.isUpper Char.isLower
  simp [Char.le_def, or_assoc]

theorem isWordChar_iff : isWordChar c = true ↔ WordChar c := by
  have alphabetic : isWordChar c = (isWordStart c || c.isDigit) := by
    simp only [isWordChar, isWordStart, Char.isAlphanum, Bool.or_right_comm]
  rw [alphabetic, Bool.or_eq_true, isWordStart_iff]
  simp [WordChar, Char.isDigit, Char.le_def]

theorem not_wordChar_marks : ¬WordChar ' ' ∧ ¬WordChar '(' ∧ ¬WordChar '[' := by
  simp only [← isWordChar_iff]
  decide

theorem not_decimal_marks : ¬Decimal ' ' ∧ ¬Decimal ',' ∧ ¬Decimal ')' := by
  simp only [Decimal]
  decide

end Characters

namespace Stage

/-- What may follow at a stage. -/
def language : Stage → Language Char
  | wordStart => TypeName.language
  | word => (single WordChar)∗ * ((mark ' ' * oneWord)∗ * (size * brackets))
  | firstStart => number * ((1 + secondNumber) * (mark ')' * brackets))
  | first => (single Decimal)∗ * ((1 + secondNumber) * (mark ')' * brackets))
  | secondStart => (1 + mark ' ') * (number * (mark ')' * brackets))
  | secondDigit => number * (mark ')' * brackets)
  | second => (single Decimal)∗ * (mark ')' * brackets)
  | closed => brackets
  | bracket => mark ']' * brackets

/-- What may follow at a stage, told by its first character and the stage after it. -/
def unfolded : Stage → Language Char
  | wordStart => single WordStart * word.language
  | word => single WordChar * word.language + mark ' ' * wordStart.language +
      mark '(' * firstStart.language + mark '[' * bracket.language + 1
  | firstStart => single Decimal * first.language
  | first => single Decimal * first.language + mark ',' * secondStart.language +
      mark ')' * closed.language
  | secondStart => single Decimal * second.language + mark ' ' * secondDigit.language
  | secondDigit => single Decimal * second.language
  | second => single Decimal * second.language + mark ')' * closed.language
  | closed => mark '[' * bracket.language + 1
  | bracket => mark ']' * closed.language

theorem brackets_eq : brackets = mark '[' * bracket.language + 1 := by
  have unrolled := kstar_mul (mark '[' * mark ']') 1
  rwa [mul_one, mul_assoc] at unrolled

theorem size_mul_brackets : size * brackets =
    mark '(' * firstStart.language + mark '[' * bracket.language + 1 := by
  rw [add_assoc, ← brackets_eq, add_comm]
  simp only [size, language, add_mul, one_mul, mul_assoc]

theorem spaced_mul_size : (mark ' ' * oneWord)∗ * (size * brackets) =
    mark ' ' * wordStart.language + size * brackets := by
  rw [kstar_mul]
  simp only [language, TypeName.language, words, mul_assoc]

theorem language_eq_unfolded (stage : Stage) : stage.language = stage.unfolded := by
  cases stage with
  | wordStart => simp only [language, unfolded, TypeName.language, words, oneWord, mul_assoc]
  | word =>
      calc word.language
          = single WordChar * word.language + (mark ' ' * oneWord)∗ * (size * brackets) :=
            kstar_mul _ _
        _ = word.unfolded := by
            rw [spaced_mul_size, size_mul_brackets]
            simp only [unfolded, add_assoc]
  | firstStart => simp only [language, unfolded, number, mul_assoc]
  | first =>
      calc first.language
          = single Decimal * first.language + (1 + secondNumber) * (mark ')' * brackets) :=
            kstar_mul _ _
        _ = first.unfolded := by
            rw [add_comm 1]
            simp only [secondNumber, language, unfolded, add_mul, one_mul, mul_assoc, add_assoc]
  | secondStart => simp only [language, unfolded, number, add_mul, one_mul, mul_assoc]
  | secondDigit => simp only [language, unfolded, number, mul_assoc]
  | second => exact kstar_mul _ _
  | closed => exact brackets_eq
  | bracket => rfl

theorem nil_mem_language {stage : Stage} : [] ∈ stage.language ↔ stage.isFinal = true := by
  rw [language_eq_unfolded]
  cases stage <;>
    simp only [unfolded, mark, Language.mem_add, nil_not_mem_single_mul, Language.nil_mem_one,
      isFinal, or_true, or_self, Bool.false_eq_true]

theorem exists_ite_some {p : Prop} [Decidable p] {stage : Stage} {other : Option Stage}
    {Holds : Stage → Prop} :
    (∃ next, (if p then some stage else other) = some next ∧ Holds next) ↔
      p ∧ Holds stage ∨ ¬p ∧ ∃ next, other = some next ∧ Holds next := by
  by_cases met : p
  · simp [met]
  · simp [met]

theorem cons_mem_language {stage : Stage} {c : Char} {rest : List Char} :
    c :: rest ∈ stage.language ↔
      ∃ next, stage.next? c = some next ∧ rest ∈ next.language := by
  -- No mark belongs to a class that is tested before it, so the order of the tests is no matter.
  have notWord := not_wordChar_marks
  have notDecimal := not_decimal_marks
  rw [language_eq_unfolded]
  cases stage <;>
    simp only [unfolded, next?, exists_ite_some, Language.mem_add, cons_mem_single_mul,
      cons_mem_mark_mul, Language.mem_one, isWordStart_iff, isWordChar_iff, ← Decimal.eq_def] <;>
    grind

theorem run_iff (text : List Char) (stage : Stage) :
    (text.foldlM next? stage).any isFinal = true ↔ text ∈ stage.language := by
  induction text generalizing stage with
  | nil => exact nil_mem_language.symm
  | cons c rest ih =>
      rw [cons_mem_language, List.foldlM_cons]
      cases stage.next? c with
      | none => simp
      | some next => simpa using ih next

def depth : Stage → Nat
  | firstStart => 1
  | first => 1
  | secondStart => 1
  | secondDigit => 1
  | second => 1
  | _ => 0

theorem depth_of_isFinal {stage : Stage} (final : stage.isFinal = true) : stage.depth = 0 := by
  cases stage with
  | word => rfl
  | closed => rfl
  | _ => cases final

theorem depth_next? {stage next : Stage} {c : Char} (moved : stage.next? c = some next) :
    [c].count '(' + stage.depth = [c].count ')' + next.depth := by
  by_cases parenthesis : c = '(' ∨ c = ')'
  · revert next
    rcases parenthesis with rfl | rfl
    all_goals cases stage <;> simp [next?, depth, isWordStart, isWordChar, Text.isDecimal]
  · have kept : next.depth = stage.depth := by
      cases stage <;> grind [next?, depth]
    rw [not_or] at parenthesis
    simp [parenthesis, kept]

theorem depth_run {text : List Char} {stage last : Stage}
    (run : text.foldlM next? stage = some last) :
    text.count '(' + stage.depth = text.count ')' + last.depth := by
  induction text generalizing stage with
  | nil =>
      cases run
      rfl
  | cons c rest ih =>
      rw [List.foldlM_cons] at run
      obtain ⟨next, moved, run⟩ := Option.bind_eq_some_iff.mp run
      have step := depth_next? moved
      have later := ih run
      rw [← List.singleton_append, List.count_append, List.count_append]
      omega

end Stage

/-- Quotes, the end of a statement, and the marks of placeholders, comments and escapes. -/
def hazards : List Char :=
  "'\"`;$?-\\".toList

def IsControl (c : Char) : Prop :=
  c.toNat < 0x20 ∨ 0x7F ≤ c.toNat ∧ c.toNat < 0xA0

def Plain (c : Char) : Prop :=
  WordChar c ∨ Decimal c ∨ c ∈ " (),[]".toList

section Characters

variable {c : Char}

theorem WordChar.code (isWord : WordChar c) :
    48 ≤ c.toNat ∧ c.toNat ≤ 57 ∨ 65 ≤ c.toNat ∧ c.toNat ≤ 90 ∨ c.toNat = 95 ∨
      97 ≤ c.toNat ∧ c.toNat ≤ 122 := by
  rcases isWord with (upper | lower | rfl) | digit
  · exact .inr (.inl upper)
  · exact .inr (.inr (.inr lower))
  · decide
  · exact .inl digit

theorem Decimal.code (decimal : Decimal c) :
    48 ≤ c.toNat ∧ c.toNat ≤ 57 ∨ 0x660 ≤ c.toNat := by
  unfold Decimal Text.isDecimal at decimal
  split at decimal
  · exact .inl (Char.isDigit_iff_toNat.mp decimal)
  · right
    by_contra low
    rw [Text.decimalRanges, Text.Ranges.contains, if_pos (by omega)] at decimal
    exact low (of_decide_eq_true decimal)

theorem Plain.not_hazard (plain : Plain c) : c ∉ hazards ∧ ¬IsControl c := by
  have codes : c.toNat ∈ [32, 40, 41, 44, 91, 93] ∨ 48 ≤ c.toNat ∧ c.toNat ≤ 57 ∨
      65 ≤ c.toNat ∧ c.toNat ≤ 90 ∨ c.toNat = 95 ∨ 97 ≤ c.toNat ∧ c.toNat ≤ 122 ∨
      0x660 ≤ c.toNat := by
    rcases plain with isWord | decimal | isMark
    · have code := isWord.code
      exact .inr (by omega)
    · have code := decimal.code
      exact .inr (by omega)
    · exact .inl (List.mem_map_of_mem isMark)
  simp only [List.mem_cons, List.not_mem_nil, or_false] at codes
  constructor
  · intro member
    have code : c.toNat ∈ [39, 34, 96, 59, 36, 63, 45, 92] := List.mem_map_of_mem member
    simp only [List.mem_cons, List.not_mem_nil, or_false] at code
    omega
  · unfold IsControl
    omega

theorem Stage.plain_of_next? {stage next : Stage} (moved : stage.next? c = some next) :
    Plain c := by
  have marks : c ∈ " (),[]".toList ↔ c ∈ [' ', '(', ')', ',', '[', ']'] := Iff.rfl
  have wordStart : isWordStart c = true → WordChar c := fun start => .inl (isWordStart_iff.mp start)
  rw [Plain, marks, Decimal]
  cases stage <;> grind [next?, isWordChar_iff]

end Characters

variable {text : String}

theorem accepts_iff : accepts text = true ↔ text.toList ∈ language :=
  Stage.run_iff text.toList .wordStart

theorem plain_of_accepts (accepted : accepts text = true) : ∀ c ∈ text.toList, Plain c := by
  intro c member
  by_contra foreign
  refine not_mem_of_refused (fun stage => ?_) accepted member
  by_contra taken
  obtain ⟨next, moved⟩ := Option.ne_none_iff_exists'.mp taken
  exact foreign (Stage.plain_of_next? moved)

theorem exists_stage_of_prefix (accepted : accepts text = true) {taken : List Char}
    (front : taken <+: text.toList) :
    ∃ stage, taken.foldlM Stage.next? .wordStart = some stage := by
  obtain ⟨rest, joined⟩ := front
  rw [accepts, ← joined, List.foldlM_append] at accepted
  cases run : taken.foldlM Stage.next? .wordStart with
  | none => simp [run] at accepted
  | some stage => exact ⟨stage, rfl⟩

/-- No prefix closes more parentheses than it opens, and the whole text closes all of them. -/
structure Balanced (text : List Char) : Prop where
  fronts : ∀ taken, taken <+: text → taken.count ')' ≤ taken.count '('
  whole : text.count ')' = text.count '('

theorem balanced_of_accepts (accepted : accepts text = true) : Balanced text.toList := by
  constructor
  · intro taken front
    obtain ⟨stage, run⟩ := exists_stage_of_prefix accepted front
    have counts := Stage.depth_run run
    simp only [Stage.depth] at counts
    omega
  · obtain ⟨stage, run⟩ := exists_stage_of_prefix accepted List.prefix_rfl
    rw [accepts, run] at accepted
    have counts := Stage.depth_run run
    rw [Stage.depth_of_isFinal accepted] at counts
    exact counts.symm

def Accepted (text : String) : Prop :=
  ∃ type : TypeName, ofDatum (.text text) = .ok type ∧ type.text = text

def Refused (text : String) : Prop :=
  ∃ rejection : Rejection, ofDatum (.text text) = .error (.rejection rejection) ∧
    rejection.kind = .castType

theorem accepted_iff_accepts : Accepted text ↔ accepts text = true := by
  by_cases valid : accepts text = true
  · simp [Accepted, ofDatum, ofText, valid]
  · simp [Accepted, ofDatum, ofText, valid]

theorem refused_iff_not_accepts : Refused text ↔ ¬accepts text = true := by
  by_cases valid : accepts text = true
  · simp [Refused, ofDatum, ofText, valid]
  · simp [Refused, ofDatum, ofText, valid, Rejection.kind]

/-- A text is accepted just when it is in the language of plain names, so it can neither end nor
unbalance a cast. -/
theorem ofDatum_accepts_language (text : String) :
    (Accepted text ↔ text.toList ∈ language) ∧
    (Refused text ↔ text.toList ∉ language) ∧
    (Accepted text → (∀ c ∈ text.toList, c ∉ hazards ∧ ¬IsControl c) ∧ Balanced text.toList) := by
  rw [← accepts_iff]
  refine ⟨accepted_iff_accepts, refused_iff_not_accepts, ?_⟩
  intro accepted
  have valid := accepted_iff_accepts.mp accepted
  exact ⟨fun c member => (plain_of_accepts valid c member).not_hazard, balanced_of_accepts valid⟩

theorem ofDatum_accepts_language_everyPart :
    Accepted "time zone(١0, 2)[][]" ∧ "time zone(١0, 2)[][]".toList ∈ language ∧
      Balanced "time zone(١0, 2)[][]".toList ∧ ';' ∉ "time zone(١0, 2)[][]".toList ∧
      "int\n".toList ∉ language := by
  have accepted : Accepted "time zone(١0, 2)[][]" := ⟨⟨_, by decide +kernel⟩, rfl, rfl⟩
  obtain ⟨plain, -, contained⟩ := ofDatum_accepts_language "time zone(١0, 2)[][]"
  obtain ⟨-, refused, -⟩ := ofDatum_accepts_language "int\n"
  obtain ⟨harmless, balanced⟩ := contained accepted
  refine ⟨accepted, plain.mp accepted, balanced, ?_, refused.mp ⟨_, rfl, rfl⟩⟩
  intro member
  exact (harmless ';' member).1 (by decide)

end JsonColumn.TypeName
