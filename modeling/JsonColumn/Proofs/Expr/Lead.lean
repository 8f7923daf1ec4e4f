import JsonColumn.Proofs.Expr.Built
import JsonColumn.Proofs.Expr.Writing

/-!
Writing for a name that is no dialect. The writing goes on as long as the text is the same in every
dialect, and stops before the first identifier, extraction or placeholder.
-/

namespace JsonColumn

theorem Dialect.ofName?_eq_none {name : String} (notMysql : name ≠ "mysql")
    (notPostgresql : name ≠ "postgresql") : ofName? name = none := by
  simp [ofName?, all, Dialect.name, notMysql.symm, notPostgresql.symm]

/-- What can be written without a dialect, and whether that is the whole text. -/
structure Lead where
  text : String := ""
  whole : Bool := true

namespace Lead

def append (first second : Lead) : Lead :=
  if first.whole then { text := first.text ++ second.text, whole := second.whole } else first

instance : Append Lead where
  append := append

def plain (text : String) : Lead where
  text := text

def cut : Lead where
  whole := false

def parenthesized (wanted : Bool) (lead : Lead) : Lead :=
  if wanted then plain "(" ++ lead ++ plain ")" else lead

theorem append_eq (first second : Lead) : first ++ second =
    if first.whole then { text := first.text ++ second.text, whole := second.whole } else first :=
  rfl

theorem append_of_not_whole {first : Lead} (stopped : first.whole = false) (second : Lead) :
    first ++ second = first := by
  simp [append_eq, stopped]

@[simp] theorem plain_append (text : String) (lead : Lead) :
    plain text ++ lead = { text := text ++ lead.text, whole := lead.whole } := rfl

@[simp] theorem cut_append (lead : Lead) : cut ++ lead = cut := rfl

theorem enclose {lead : Lead} (stopped : lead.whole = false) (opening closing : String) :
    plain opening ++ lead ++ plain closing = { text := opening ++ lead.text, whole := false } := by
  rw [plain_append, stopped, append_of_not_whole rfl]

theorem append_assoc (first second third : Lead) :
    first ++ second ++ third = first ++ (second ++ third) := by
  by_cases whole : first.whole = true
  · by_cases more : second.whole = true
    · simp [append_eq, whole, more, String.append_assoc]
    · simp [append_eq, whole, more]
  · simp [append_eq, whole]

end Lead

namespace Piece

def lead : Piece → Lead
  | plain text => .plain text
  | _ => .cut

def leadAll : List Piece → Lead
  | [] => {}
  | piece :: rest => piece.lead ++ leadAll rest

theorem leadAll_append (first second : List Piece) :
    leadAll (first ++ second) = leadAll first ++ leadAll second := by
  induction first with
  | nil => simp [leadAll, Lead.append_eq]
  | cons piece rest ih => rw [List.cons_append, leadAll, leadAll, ih, Lead.append_assoc]

theorem leadAll_plain (text : String) (rest : List Piece) :
    leadAll (.plain text :: rest) =
      { text := text ++ (leadAll rest).text, whole := (leadAll rest).whole } := rfl

theorem plain_or_cut (piece : Piece) : (∃ text, piece = .plain text) ∨
    ¬piece.IsPlain ∧ ∀ rest, leadAll (piece :: rest) = .cut := by
  cases piece with
  | plain text => exact .inl ⟨text, rfl⟩
  | identifier name => exact .inr ⟨id, fun _ => rfl⟩
  | extract extraction => exact .inr ⟨id, fun _ => rfl⟩
  | placeholder index => exact .inr ⟨id, fun _ => rfl⟩

theorem whole_leadAll_iff (pieces : List Piece) :
    (leadAll pieces).whole = true ↔ ∀ piece ∈ pieces, piece.IsPlain := by
  induction pieces with
  | nil => simp [leadAll]
  | cons piece rest ih =>
      rw [List.forall_mem_cons]
      rcases piece.plain_or_cut with ⟨text, rfl⟩ | ⟨dependent, cut⟩
      · simp [leadAll_plain, IsPlain, ih]
      · simp [cut, Lead.cut, dependent]

theorem sql_of_whole {pieces : List Piece} (whole : (leadAll pieces).whole = true)
    (dialect : Dialect) : String.join (pieces.map (sql dialect)) = (leadAll pieces).text := by
  induction pieces with
  | nil => rfl
  | cons piece rest ih =>
      rcases piece.plain_or_cut with ⟨text, rfl⟩ | ⟨-, cut⟩
      · rw [List.map_cons, String.join_cons, ih whole]
        rfl
      · rw [cut] at whole
        cases whole

theorem split_of_not_whole {pieces : List Piece} (stopped : (leadAll pieces).whole = false) :
    ∃ (before : List String) (piece : Piece) (after : List Piece),
      pieces = before.map .plain ++ piece :: after ∧ ¬piece.IsPlain ∧
      (leadAll pieces).text = String.join before := by
  induction pieces with
  | nil => cases stopped
  | cons first rest ih =>
      rcases first.plain_or_cut with ⟨text, rfl⟩ | ⟨dependent, cut⟩
      · obtain ⟨before, piece, after, rfl, dependent, same⟩ := ih stopped
        exact ⟨text :: before, piece, after, rfl, dependent, by simp [leadAll_plain, same]⟩
      · exact ⟨[], first, rest, rfl, dependent, by rw [cut]; rfl⟩

theorem emit_dependent {name : String} (unknown : Dialect.ofName? name = none) {piece : Piece}
    (dependent : ¬piece.IsPlain) (rest : List Piece) (buffer : String) :
    emit name (piece :: rest) buffer =
      { buffer, result := .misuse (.unknownDialect (Text.quoted name)) } := by
  cases piece with
  | plain text => exact absurd trivial dependent
  | identifier column => simp [emit, unknown]
  | extract extraction => simp [emit, unknown]
  | placeholder index => simp [emit, unknown]

theorem emit_unknown {name : String} (unknown : Dialect.ofName? name = none)
    (pieces : List Piece) (buffer : String) :
    (emit name pieces buffer).buffer = buffer ++ (leadAll pieces).text ∧
      ((leadAll pieces).whole = true → (emit name pieces buffer).result.outcome = .ok ()) ∧
      ((leadAll pieces).whole = false → (emit name pieces buffer).result.outcome =
        .error (.misuse (.unknownDialect (Text.quoted name)))) := by
  induction pieces generalizing buffer with
  | nil => simp [emit, leadAll]
  | cons piece rest ih =>
      rcases piece.plain_or_cut with ⟨text, rfl⟩ | ⟨dependent, cut⟩
      · simpa [emit, leadAll_plain, String.append_assoc] using ih (buffer ++ text)
      · rw [emit_dependent unknown dependent, cut]
        simp [Lead.cut, Traced.misuse]

end Piece

namespace Draft

variable {α : Type}

def lead (draft : Draft α) : Lead :=
  Piece.leadAll draft.pieces

theorem lead_append (first second : Draft α) :
    (first ++ second).lead = first.lead ++ second.lead :=
  Piece.leadAll_append first.pieces second.pieces

theorem lead_plain (text : String) : (plain text : Draft α).lead = .plain text := by
  simp [lead, plain, Piece.leadAll_plain, Piece.leadAll, Lead.plain]

theorem lead_parenthesized (wanted : Bool) (draft : Draft α) :
    (draft.parenthesized wanted).lead = draft.lead.parenthesized wanted := by
  cases wanted with
  | false => rfl
  | true => simp only [parenthesized, Lead.parenthesized, if_true, lead_append, lead_plain]

end Draft

namespace Expr

variable {α : Type}

mutual

def lead : Expr α → Lead
  | column _ _ _ => .cut
  | extract _ => .cut
  | compare target op _ => target.lead ++ .plain (" " ++ op ++ " ") ++ .cut
  | present target => target.lead ++ .plain " IS NOT NULL"
  | joined op parts => leadParts op parts
  | negated body => .plain "NOT (" ++ body.lead ++ .plain ")"

def leadParts (op : String) : List (Expr α) → Lead
  | [] => {}
  | part :: rest => part.lead.parenthesized part.isGroup ++ leadRest op rest

def leadRest (op : String) : List (Expr α) → Lead
  | [] => {}
  | part :: rest =>
      .plain (" " ++ op ++ " ") ++ part.lead.parenthesized part.isGroup ++ leadRest op rest

end

mutual

theorem lead_draft (start : Int) : ∀ expr : Expr α, (expr.draft start).lead = expr.lead
  | column _ _ _ => rfl
  | extract _ => rfl
  | compare target op value => by
      rw [draft, Draft.lead_append, lead, Lead.append_assoc, ← lead_draft start target]
      rfl
  | present target => by
      rw [draft, Draft.lead_append, lead, Draft.lead_plain, ← lead_draft start target]
      rfl
  | joined op parts => by
      rw [draft, lead]
      exact lead_draftParts op start parts
  | negated body => by
      rw [draft, lead, Draft.lead_append, Draft.lead_append, Draft.lead_plain, Draft.lead_plain,
        lead_draft start body]

theorem lead_draftParts (op : String) (start : Int) :
    ∀ parts : List (Expr α), (draftParts op start parts).lead = leadParts op parts
  | [] => rfl
  | part :: rest => by
      rw [draftParts, leadParts, Draft.lead_append, Draft.lead_parenthesized, lead_draft start part,
        lead_draftRest op _ rest]

theorem lead_draftRest (op : String) (start : Int) :
    ∀ parts : List (Expr α), (draftRest op start parts).lead = leadRest op parts
  | [] => rfl
  | part :: rest => by
      rw [draftRest, leadRest, Draft.lead_append, Draft.lead_append, Draft.lead_plain,
        Draft.lead_parenthesized, lead_draft start part, lead_draftRest op _ rest]

end

/-- Nothing but the openings of negations and of groups. -/
def Openings (text : String) : Prop :=
  ∃ marks : List String, (∀ mark ∈ marks, mark = "NOT (" ∨ mark = "(") ∧ text = String.join marks

theorem Openings.cons {mark text : String} (opening : mark = "NOT (" ∨ mark = "(")
    (openings : Openings text) : Openings (mark ++ text) := by
  obtain ⟨marks, allOpenings, rfl⟩ := openings
  exact ⟨mark :: marks, List.forall_mem_cons.mpr ⟨opening, allOpenings⟩, by simp⟩

theorem Vetted.openings {expr : Expr α} (vetted : expr.Vetted) :
    expr.lead.whole = false ∧ Openings expr.lead.text := by
  have none : Openings "" := ⟨[], by simp, rfl⟩
  induction vetted with
  | column name operator value => exact ⟨rfl, none⟩
  | extract plain => exact ⟨rfl, none⟩
  | compare operator value plain => exact ⟨rfl, none⟩
  | present plain => exact ⟨rfl, none⟩
  | @joined connective parts filled _ ih =>
      obtain ⟨first, rest, rfl⟩ := List.exists_cons_of_ne_nil filled
      obtain ⟨stopped, openings⟩ := ih first (by simp)
      rw [lead, leadParts]
      cases first.isGroup with
      | false =>
          rw [Lead.parenthesized, if_neg (by simp), Lead.append_of_not_whole stopped]
          exact ⟨stopped, openings⟩
      | true =>
          rw [Lead.parenthesized, if_pos rfl, Lead.enclose stopped, Lead.append_of_not_whole rfl]
          exact ⟨rfl, openings.cons (.inr rfl)⟩
  | @negated body _ ih =>
      obtain ⟨stopped, openings⟩ := ih
      rw [lead, Lead.enclose stopped]
      exact ⟨rfl, openings.cons (.inl rfl)⟩

theorem write_unknown {name : String} (unknown : Dialect.ofName? name = none) (start : Int)
    (buffer : String) (expr : Expr α) :
    (expr.write name start buffer).buffer = buffer ++ expr.lead.text ∧
      (expr.lead.whole = true →
        (expr.write name start buffer).result.outcome = .ok (expr.draft start).values) ∧
      (expr.lead.whole = false → (expr.write name start buffer).result.outcome =
        .error (.misuse (.unknownDialect (Text.quoted name)))) := by
  obtain ⟨written, succeeds, fails⟩ := Piece.emit_unknown unknown (expr.draft start).pieces buffer
  rw [← expr.lead_draft start]
  refine ⟨written, fun whole => ?_, fun stopped => ?_⟩
  · simp only [write, Draft.write, Traced.outcome_bind, succeeds whole]
    rfl
  · simp only [write, Draft.write, Traced.outcome_bind, fails stopped]
    rfl

/-- Without a known dialect an expression is written up to its first piece that is not plain, and of
a built one only openings. -/
theorem write_leaves_lead (expr : Expr α) (start : Int) (buffer : String) :
    (∀ dialect : Dialect, ∃ fragment, (expr.render dialect start).outcome = .ok fragment ∧
      (expr.write dialect.name start buffer).buffer = buffer ++ fragment.sql ∧
      (expr.write dialect.name start buffer).result.outcome = .ok fragment.args) ∧
    (∀ name, name ≠ "mysql" → name ≠ "postgresql" →
      (expr.lead.whole = true → ∀ dialect : Dialect,
        (expr.write name start buffer).buffer = (expr.write dialect.name start buffer).buffer ∧
        (expr.write name start buffer).result.outcome =
          (expr.write dialect.name start buffer).result.outcome) ∧
      (expr.lead.whole = false →
        (expr.write name start buffer).buffer = buffer ++ expr.lead.text ∧
        ∃ misuse : Misuse, misuse.kind = .value ∧
          (expr.write name start buffer).result.outcome = .error (.misuse misuse))) ∧
    (expr.lead.whole = true ↔ ∀ piece ∈ (expr.draft start).pieces, piece.IsPlain) ∧
    (expr.lead.whole = false → ∃ (before : List String) (piece : Piece) (after : List Piece),
      (expr.draft start).pieces = before.map .plain ++ piece :: after ∧ ¬piece.IsPlain ∧
      expr.lead.text = String.join before ∧
      ∀ dialect fragment, (expr.render dialect start).outcome = .ok fragment →
        fragment.sql = expr.lead.text ++ piece.sql dialect ++
          String.join (after.map (Piece.sql dialect))) ∧
    (expr.Built → expr.lead.whole = false ∧ Openings expr.lead.text) := by
  have known (dialect : Dialect) := (expr.draft start).write_known dialect buffer
  refine ⟨fun dialect => ?_, fun name notMysql notPostgresql => ⟨fun whole dialect => ?_,
    fun stopped => ?_⟩, ?_, fun stopped => ?_, fun built => built.vetted.openings⟩
  · exact ⟨_, (expr.draft start).render_outcome dialect, known dialect⟩
  · obtain ⟨written, succeeds, -⟩ :=
      write_unknown (Dialect.ofName?_eq_none notMysql notPostgresql) start buffer expr
    have text : (expr.draft start).sql dialect = expr.lead.text := by
      rw [← expr.lead_draft start] at whole ⊢
      exact Piece.sql_of_whole whole dialect
    exact ⟨by rw [written, ← text]; exact (known dialect).1.symm,
      (succeeds whole).trans (known dialect).2.symm⟩
  · obtain ⟨written, -, fails⟩ :=
      write_unknown (Dialect.ofName?_eq_none notMysql notPostgresql) start buffer expr
    exact ⟨written, _, rfl, fails stopped⟩
  · rw [← expr.lead_draft start]
    exact Piece.whole_leadAll_iff _
  · rw [← expr.lead_draft start] at stopped ⊢
    obtain ⟨before, piece, after, split, dependent, text⟩ := Piece.split_of_not_whole stopped
    refine ⟨before, piece, after, split, dependent, text, fun dialect fragment rendered => ?_⟩
    cases rendered
    have plain : before.map (Piece.sql dialect ∘ .plain) = before := List.map_id _
    rw [Draft.lead, text]
    simp [Draft.sql, split, plain, String.append_assoc]

def openedTwice : Expr Nat :=
  .negated (.joined "AND" [.joined "OR" [.column "a" "=" 1, .column "b" "=" 2],
    .column "c" "=" 3])

theorem openedTwice_built : openedTwice.Built := by
  have first : (Expr.column "a" "=" 1).Built :=
    .column (rfl : compareColumn "a" "eq" 1 = .ok (.column "a" "=" 1))
  have second : (Expr.column "b" "=" 2).Built :=
    .column (rfl : compareColumn "b" "eq" 2 = .ok (.column "b" "=" 2))
  have third : (Expr.column "c" "=" 3).Built :=
    .column (rfl : compareColumn "c" "eq" 3 = .ok (.column "c" "=" 3))
  have group : (Expr.joined "OR" [.column "a" "=" 1, .column "b" "=" 2]).Built :=
    .anyOf (List.forall_mem_cons.mpr ⟨first, List.forall_mem_singleton.mpr second⟩) rfl
  exact .negated (.allOf
    (List.forall_mem_cons.mpr ⟨group, List.forall_mem_singleton.mpr third⟩) rfl)

theorem write_leaves_lead_openedTwice :
    (openedTwice.write "sqlite" 1 "WHERE ").buffer = "WHERE NOT ((" ∧
      ∃ misuse : Misuse, misuse.kind = .value ∧
        (openedTwice.write "sqlite" 1 "WHERE ").result.outcome = .error (.misuse misuse) := by
  obtain ⟨-, unknown, -, -, built⟩ := write_leaves_lead openedTwice 1 "WHERE "
  exact (unknown "sqlite" (by decide) (by decide)).2 (built openedTwice_built).1

end Expr

end JsonColumn
