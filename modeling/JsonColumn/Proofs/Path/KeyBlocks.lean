import JsonColumn.Path.Source
import JsonColumn.Proofs.Path.KeyText

/-!
The names that are keys, block by block. A block is a single character, or a stretch of the small
alphabet between a pair of quotes, and any row of blocks is the name of a key.
-/

namespace JsonColumn.Key

inductive SafeBlock : List Char → Prop
  | bare {c : Char} : c ≠ '"' → c ≠ '\\' → c ≠ '\x00' → SafeBlock [c]
  | quoted {content : List Char} : content ≠ [] →
      (∀ c ∈ content, Text.isWord c = true ∨ c ∈ " .[]*$@:+-".toList) →
      ¬['-', '-'] <:+: content → SafeBlock ('"' :: (content ++ ['"']))

def Blocks (text : List Char) : Prop :=
  ∃ blocks : List (List Char), text = blocks.flatten ∧ ∀ block ∈ blocks, SafeBlock block

theorem quotable_iff (content : List Char) : Quotable content ↔ content ≠ [] ∧
    (∀ c ∈ content, Text.isWord c = true ∨ c ∈ " .[]*$@:+-".toList) ∧
      ¬['-', '-'] <:+: content := by
  have alphabet (c : Char) : isQuotableChar c = true ↔
      Text.isWord c = true ∨ c ∈ " .[]*$@:+-".toList := by
    simp [isQuotableChar]
  rw [Quotable, isQuotable, ← hasDoubleHyphen_iff_infix]
  simp only [Bool.and_eq_true, List.all_eq_true, alphabet, and_assoc]
  simp

theorem blocks_of_paired {text : List Char} (paired : Text.Paired BareChar Quotable text) :
    Blocks text := by
  induction paired with
  | nil => exact ⟨[], rfl, by simp⟩
  | @bare c rest unquoted allowed _ ih =>
      obtain ⟨blocks, rfl, safe⟩ := ih
      refine ⟨[c] :: blocks, rfl, List.forall_mem_cons.mpr ⟨?_, safe⟩⟩
      exact .bare unquoted allowed.1 allowed.2
  | @quoted content rest _ quotable _ ih =>
      obtain ⟨blocks, rfl, safe⟩ := ih
      obtain ⟨filled, alphabet, single⟩ := (quotable_iff content).mp quotable
      refine ⟨('"' :: (content ++ ['"'])) :: blocks, by simp, ?_⟩
      exact List.forall_mem_cons.mpr ⟨.quoted filled alphabet single, safe⟩

theorem SafeBlock.paired {block : List Char} (safe : SafeBlock block) :
    Text.Paired BareChar Quotable block := by
  cases safe with
  | bare unquoted noBackslash noNull => exact .bare unquoted ⟨noBackslash, noNull⟩ .nil
  | @quoted content filled alphabet single =>
      have unquoted : '"' ∉ content := by
        intro quote
        have outside : ¬(Text.isWord '"' = true ∨ '"' ∈ " .[]*$@:+-".toList) := by decide
        exact outside (alphabet '"' quote)
      exact .quoted unquoted ((quotable_iff content).mpr ⟨filled, alphabet, single⟩) .nil

theorem Blocks.paired {text : List Char} (row : Blocks text) :
    Text.Paired BareChar Quotable text := by
  obtain ⟨blocks, rfl, safe⟩ := row
  induction blocks with
  | nil => exact .nil
  | cons block blocks ih =>
      rw [List.forall_mem_cons] at safe
      exact safe.1.paired.append (ih safe.2)

theorem Blocks.append {first second : List Char} (left : Blocks first) (right : Blocks second) :
    Blocks (first ++ second) := by
  obtain ⟨blocks, rfl, safe⟩ := left
  obtain ⟨others, rfl, alsoSafe⟩ := right
  exact ⟨blocks ++ others, by simp, List.forall_mem_append.mpr ⟨safe, alsoSafe⟩⟩

theorem fault?_eq_none_iff_blocks (name : String) : fault? name = none ↔ Blocks name.toList := by
  rw [fault?_eq_none_iff]
  exact ⟨blocks_of_paired, Blocks.paired⟩

theorem ofDatum_text (name : String) :
    (∃ valid : fault? name = none, ofDatum (.text name) = .ok { name, valid }) ∨
      fault? name ≠ none ∧ ∃ rejection : Rejection,
        ofDatum (.text name) = .error (.rejection rejection) ∧ rejection.kind = .path := by
  cases accepted : ofText name with
  | ok key =>
      have same := (ofText_eq_ok_iff name key).mp accepted
      subst same
      exact .inl ⟨key.valid, by rw [ofDatum, accepted]⟩
  | error fault =>
      obtain ⟨cause, found, rfl⟩ := (ofText_eq_error_iff name fault).mp accepted
      exact .inr ⟨by simp [found], _, by rw [ofDatum, accepted], rfl⟩

def Accepted (name : String) : Prop :=
  ∃ key : Key, ofDatum (.text name) = .ok key ∧ key.name = name

theorem accepted_iff_blocks (name : String) : Accepted name ↔ Blocks name.toList := by
  rw [Accepted, ← fault?_eq_none_iff_blocks]
  rcases ofDatum_text name with ⟨valid, accepted⟩ | ⟨found, rejection, rejected, -⟩
  · simp [accepted, valid]
  · simp [rejected, found]

/-- A name is accepted just when it is a row of blocks, so two accepted names in a row are accepted
as one. -/
theorem ofDatum_accepts_blocks (name : String) :
    (Accepted name ↔ Blocks name.toList) ∧
    ((∃ rejection : Rejection, ofDatum (.text name) = .error (.rejection rejection) ∧
      rejection.kind = .path) ↔ ¬Blocks name.toList) ∧
    ∀ more : String, Accepted name → Accepted more → Accepted (name ++ more) := by
  refine ⟨accepted_iff_blocks name, ?_, ?_⟩
  · rw [← fault?_eq_none_iff_blocks]
    rcases ofDatum_text name with ⟨valid, accepted⟩ | ⟨found, rejection, rejected, kind⟩
    · simp [accepted, valid]
    · simp [rejected, found, kind]
  · intro more first second
    rw [accepted_iff_blocks] at first second ⊢
    rw [String.toList_append]
    exact first.append second

theorem ofDatum_accepts_blocks_pairsInName :
    Accepted "a\"b.c\"\"d\"" ∧ Blocks "a\"b.c\"\"d\"".toList ∧
      Accepted ("a\"b.c\"\"d\"" ++ "x--y") ∧ ¬Blocks "\"x--y\"".toList := by
  have first : Accepted "a\"b.c\"\"d\"" := ⟨⟨_, by decide +kernel⟩, rfl, rfl⟩
  have second : Accepted "x--y" := ⟨⟨_, by decide +kernel⟩, rfl, rfl⟩
  obtain ⟨blocks, -, joined⟩ := ofDatum_accepts_blocks "a\"b.c\"\"d\""
  obtain ⟨-, rejected, -⟩ := ofDatum_accepts_blocks "\"x--y\""
  exact ⟨first, blocks.mp first, joined "x--y" first second, rejected.mp ⟨_, rfl, rfl⟩⟩

end JsonColumn.Key
