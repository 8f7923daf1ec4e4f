import JsonColumn.Proofs.Path.Faults
import JsonColumn.Select

/-!
What a user learns from a rejection: the reason it was made for, one of a fixed list. Whatever is
asked for and whatever is passed along, two rejections for one reason read the same.
-/

namespace JsonColumn

inductive Reason where
  | nullInPath
  | badKey
  | openQuote
  | openIndex
  | badIndex
  | deepPath
  | badType
  | emptyName
  | nullInName
  | emptyQualifier
  | badOperator
  deriving DecidableEq, Repr

namespace Reason

def kind : Reason → RejectionKind
  | nullInPath => .path
  | badKey => .path
  | openQuote => .unterminatedQuote
  | openIndex => .unterminatedIndex
  | badIndex => .index
  | deepPath => .depth
  | badType => .castType
  | emptyName => .fieldName
  | nullInName => .fieldName
  | emptyQualifier => .fieldName
  | badOperator => .operator

def message : Reason → String
  | nullInPath => "invalid JSON path"
  | badKey => "invalid key in JSON path"
  | openQuote => "unterminated quoted key in JSON path"
  | openIndex => "unterminated array index in JSON path"
  | badIndex => "array index must be a non-negative integer"
  | deepPath => "JSON path has too many segments"
  | badType => "invalid cast type"
  | emptyName => "column name cannot be empty"
  | nullInName => "column names cannot contain null bytes"
  | emptyQualifier => "invalid column name format"
  | badOperator => "invalid operator"

/-- What the texts read as paths and the names checked must be like for a reason to be given. -/
def Applies (texts names : List String) : Reason → Prop
  | nullInPath => ∃ text ∈ texts, '\x00' ∈ text.toList
  | badKey => ∀ text ∈ texts, '\x00' ∉ text.toList
  | emptyName => "" ∈ names
  | nullInName => ∃ name ∈ names, '\x00' ∈ name.toList
  | emptyQualifier => ∃ name ∈ names, [] ∈ Text.splitOn '.' name.toList
  | _ => True

theorem eq_of_kind_eq {first second : Reason} (same : first.kind = second.kind)
    (path : first.kind ≠ .path) (name : first.kind ≠ .fieldName) : first = second := by
  cases first <;> cases second <;> simp_all [kind]

end Reason

def PathFault.reason : PathFault → Reason
  | nullChar => .nullInPath
  | key _ _ => .badKey
  | unterminatedQuote => .openQuote
  | unterminatedIndex _ => .openIndex
  | emptyIndex _ => .badIndex
  | strayInIndex _ _ => .badIndex
  | longIndex _ => .badIndex
  | tooDeep _ => .deepPath

theorem PathFault.message_reason (fault : PathFault) : fault.reason.message = fault.message := by
  cases fault <;> rfl

namespace Rejection

def reason : Rejection → Reason
  | path _ fault => fault.reason
  | castType _ => .badType
  | emptyName => .emptyName
  | nullChar _ _ => .nullInName
  | emptyQualifier _ => .emptyQualifier
  | operator _ => .badOperator
  | operatorName _ => .badOperator

theorem kind_reason (rejection : Rejection) : rejection.reason.kind = rejection.kind := by
  cases rejection with
  | path text fault => cases fault <;> rfl
  | _ => rfl

/-- A rejection that says its reason and nothing else, and has that reason. -/
structure Grounded (texts names : List String) (rejection : Rejection) : Prop where
  message_eq : rejection.message = rejection.reason.message
  applies : rejection.reason.Applies texts names

end Rejection

def Fault.Grounded (texts names : List String) : Fault → Prop
  | rejection r => r.Grounded texts names
  | misuse _ => True

def PathSource.texts : PathSource → List String
  | text t => [t]
  | parts _ => []
  | path _ => []

/-! Each check of an input makes grounded rejections only. -/

section

open Outcome

variable {texts names : List String}

theorem Identifier.grounded_of_fault? {name : String} {rejection : Rejection}
    (member : name ∈ names) (found : fault? name = some rejection) :
    rejection.Grounded texts names := by
  unfold fault? nullFault? at found
  split at found
  · rename_i empty
    subst empty
    cases found
    exact ⟨rfl, member⟩
  · split at found
    · rename_i fault null
      split at null
      · rename_i holds
        cases null
        cases found
        exact ⟨rfl, name, member, holds⟩
      · cases null
    · split at found
      · rename_i qualifier
        cases found
        exact ⟨rfl, name, member, qualifier⟩
      · cases found

theorem Identifier.check_failsWithin {name : String} (member : name ∈ names) :
    FailsWithin (Fault.Grounded texts names) (check name) := by
  unfold check
  split
  · rename_i rejection found
    exact .error (grounded_of_fault? member found)
  · exact .ok ()

theorem Table.ofName_failsWithin {name : String} (member : name ∈ names) :
    FailsWithin (Fault.Grounded texts names) (ofName name) := by
  unfold ofName
  split
  · exact .ok _
  · rename_i rejection found
    exact .error (Identifier.grounded_of_fault? member found)

theorem Path.parse_failsWithin (text : String) (limit : Int) :
    FailsWithin (Fault.Grounded [text] names) (parse text limit).outcome := by
  intro found failed
  obtain ⟨fault, read, rfl⟩ := outcome_parse_eq_error_iff.mp failed
  refine ⟨fault.message_reason.symm, ?_⟩
  change fault.reason.Applies [text] names
  cases fault with
  | nullChar => exact ⟨text, by simp, read_eq_nullChar_iff.mp read⟩
  | key name cause =>
      intro other member null
      cases List.mem_singleton.mp member
      rw [read_eq_nullChar_iff.mpr null] at read
      cases read
  | _ => trivial

theorem Key.grounded_of_ofText {name text : String} {fault : PathFault}
    (failed : Key.ofText name = .error fault) :
    (Rejection.path text fault).Grounded [] names := by
  obtain ⟨cause, -, rfl⟩ := (Key.ofText_eq_error_iff name fault).mp failed
  exact ⟨rfl, by simp [Rejection.reason, PathFault.reason, Reason.Applies]⟩

theorem Key.ofDatum_failsWithin (name : Datum) :
    FailsWithin (Fault.Grounded [] names) (ofDatum name) := by
  unfold ofDatum
  split
  · split
    · exact .ok _
    · rename_i fault failed
      exact .error (grounded_of_ofText failed)
  · exact .error trivial

theorem PathPart.grounded_of_ofText {text : String} {fault : PathFault}
    (failed : ofText text = .error fault) : (Rejection.path text fault).Grounded [] names := by
  unfold ofText at failed
  split at failed
  · rename_i digits bracketed
    have long := bind_ok_eq_error_iff.mp failed
    unfold Path.readIndex at long
    split at long
    · cases long
      exact ⟨rfl, trivial⟩
    · cases long
  · exact Key.grounded_of_ofText (bind_ok_eq_error_iff.mp failed)

theorem PathPart.toSegment_failsWithin (part : PathPart) :
    FailsWithin (Fault.Grounded [] names) part.toSegment := by
  unfold toSegment
  split
  · exact .ok _
  · split
    · exact .ok _
    · rename_i fault failed
      exact .error (grounded_of_ofText failed)
  · exact .error trivial

theorem Path.ofParts_failsWithin (parts : List PathPart) :
    FailsWithin (Fault.Grounded [] names) (ofParts parts) :=
  (FailsWithin.mapM fun part _ => part.toSegment_failsWithin).bind fun _ => .ok _

theorem PathSource.resolve_failsWithin (source : PathSource) :
    FailsWithin (Fault.Grounded source.texts names) source.resolve.outcome := by
  cases source with
  | text text => exact Path.parse_failsWithin text Path.defaultDepth
  | parts parts => exact Path.ofParts_failsWithin parts
  | path path => exact .ok path

theorem TypeName.ofDatum_failsWithin (type : Datum) :
    FailsWithin (Fault.Grounded texts names) (ofDatum type) := by
  unfold ofDatum
  split
  · unfold ofText
    split
    · exact .ok _
    · exact .error ⟨rfl, trivial⟩
  · exact .error ⟨rfl, trivial⟩

theorem Operator.ofText_failsWithin (text : String) :
    FailsWithin (Fault.Grounded texts names) (ofText text) := by
  unfold ofText
  split
  · exact .ok _
  · exact .error ⟨rfl, trivial⟩

theorem Operator.ofName_failsWithin (name : String) :
    FailsWithin (Fault.Grounded texts names) (ofName name) := by
  unfold ofName
  split
  · exact .ok _
  · exact .error ⟨rfl, trivial⟩

theorem Options.ofModifiers_failsWithin (modifiers : List Modifier) :
    FailsWithin (Fault.Grounded texts names) (ofModifiers modifiers) := by
  refine FailsWithin.foldlM (fun options modifier => ?_) modifiers _
  cases modifier with
  | cast type => exact .ok _
  | unquote wanted => exact .ok _
  | unknown value => exact .error trivial

theorem Dialect.ofDatum_failsWithin (dialect : Datum) :
    FailsWithin (Fault.Grounded texts names) (ofDatum dialect) := by
  unfold ofDatum
  split
  · split
    · exact .ok _
    · exact .error trivial
  · exact .error trivial

theorem Extraction.build_failsWithin {column : String} (member : column ∈ names)
    (source : PathSource) (modifiers : List Modifier) :
    FailsWithin (Fault.Grounded source.texts names) (build column source modifiers).outcome := by
  simp only [build, Traced.outcome_bind, Traced.outcome_liftM, Traced.outcome_pure]
  exact (Identifier.check_failsWithin member).bind fun _ =>
    source.resolve_failsWithin.bind fun _ =>
      (Options.ofModifiers_failsWithin modifiers).bind fun _ => .ok _

end

namespace Expr

open Outcome

variable {α : Type} {names : List String} {column : String}

theorem valueAt_failsWithin (member : column ∈ names) (source : PathSource)
    (modifiers : List Modifier) :
    FailsWithin (Fault.Grounded source.texts names)
      (valueAt column source modifiers : Traced (Expr α)).outcome := by
  simp only [valueAt, Traced.outcome_bind, Traced.outcome_pure]
  exact (Extraction.build_failsWithin member source modifiers).bind fun _ => .ok _

theorem compareValue_failsWithin (member : column ∈ names) (operator : Operator) (value : α)
    (source : PathSource) (modifiers : List Modifier) :
    FailsWithin (Fault.Grounded source.texts names)
      (compareValue column operator value source modifiers).outcome := by
  simp only [compareValue, Traced.outcome_bind, Traced.outcome_pure]
  exact (valueAt_failsWithin member source modifiers).bind fun _ => .ok _

theorem compareValueBy_failsWithin (member : column ∈ names) (op : String) (value : α)
    (source : PathSource) (modifiers : List Modifier) :
    FailsWithin (Fault.Grounded source.texts names)
      (compareValueBy column op value source modifiers).outcome := by
  simp only [compareValueBy, Traced.outcome_bind, Traced.outcome_liftM]
  exact (Operator.ofText_failsWithin op).bind fun operator =>
    compareValue_failsWithin member operator value source modifiers

theorem hasKey_failsWithin (member : column ∈ names) (source : PathSource)
    (modifiers : List Modifier) :
    FailsWithin (Fault.Grounded source.texts names)
      (hasKey column source modifiers : Traced (Expr α)).outcome := by
  simp only [hasKey, Traced.outcome_bind, Traced.outcome_pure]
  exact (valueAt_failsWithin member source modifiers).bind fun _ => .ok _

theorem compareColumn_failsWithin (member : column ∈ names) (name : String) (value : α)
    (texts : List String) :
    FailsWithin (Fault.Grounded texts names) (compareColumn column name value) :=
  (Identifier.check_failsWithin member).bind fun _ =>
    (Operator.ofName_failsWithin name).bind fun _ => .ok _

end Expr

def Column.name? {α : Type} : Column α → Option String
  | named name => some name
  | _ => none

theorem Select.start_failsWithin {α : Type} (columns : List (Column α)) (dialect : Datum)
    (texts : List String) :
    Outcome.FailsWithin (Fault.Grounded texts (columns.filterMap Column.name?))
      (start columns dialect) := by
  refine Outcome.FailsWithin.bind (Outcome.FailsWithin.forM fun column member => ?_) fun _ =>
    (Dialect.ofDatum_failsWithin dialect).bind fun _ => .ok _
  cases column with
  | named name =>
      exact Identifier.check_failsWithin (List.mem_filterMap.mpr ⟨.named name, member, rfl⟩)
  | star => exact .ok ()
  | computed expr => exact .ok ()

inductive Request (α : Type) where
  | parse (text : String) (limit : Int)
  | key (name : Datum)
  | path (parts : List PathPart)
  | resolve (source : PathSource)
  | castType (type : Datum)
  | valueAt (column : String) (source : PathSource) (modifiers : List Modifier)
  | compareValue (column : String) (operator : Operator) (value : α) (source : PathSource)
      (modifiers : List Modifier)
  | compareValueBy (column op : String) (value : α) (source : PathSource)
      (modifiers : List Modifier)
  | hasKey (column : String) (source : PathSource) (modifiers : List Modifier)
  | compareColumn (column name : String) (value : α)
  | table (name : String)
  | select (columns : List (Column α)) (dialect : Datum)

namespace Request

variable {α β : Type}

def Fails (fault : Fault) : Request α → Prop
  | parse text limit => (Path.parse text limit).outcome = .error fault
  | key name => Key.ofDatum name = .error fault
  | path parts => Path.ofParts parts = .error fault
  | resolve source => source.resolve.outcome = .error fault
  | castType type => TypeName.ofDatum type = .error fault
  | valueAt column source modifiers =>
      (Expr.valueAt column source modifiers : Traced (Expr α)).outcome = .error fault
  | compareValue column operator value source modifiers =>
      (Expr.compareValue column operator value source modifiers).outcome = .error fault
  | compareValueBy column op value source modifiers =>
      (Expr.compareValueBy column op value source modifiers).outcome = .error fault
  | hasKey column source modifiers =>
      (Expr.hasKey column source modifiers : Traced (Expr α)).outcome = .error fault
  | compareColumn column name value => Expr.compareColumn column name value = .error fault
  | table name => Table.ofName name = .error fault
  | select columns dialect => Select.start columns dialect = .error fault

def texts : Request α → List String
  | parse text _ => [text]
  | resolve source => source.texts
  | valueAt _ source _ => source.texts
  | compareValue _ _ _ source _ => source.texts
  | compareValueBy _ _ _ source _ => source.texts
  | hasKey _ source _ => source.texts
  | _ => []

def names : Request α → List String
  | valueAt column _ _ => [column]
  | compareValue column _ _ _ _ => [column]
  | compareValueBy column _ _ _ _ => [column]
  | hasKey column _ _ => [column]
  | compareColumn column _ _ => [column]
  | table name => [name]
  | select columns _ => columns.filterMap Column.name?
  | _ => []

theorem grounded_of_fails {request : Request α} {fault : Fault} (failed : request.Fails fault) :
    fault.Grounded request.texts request.names := by
  cases request with
  | parse text limit => exact Path.parse_failsWithin text limit fault failed
  | key name => exact Key.ofDatum_failsWithin name fault failed
  | path parts => exact Path.ofParts_failsWithin parts fault failed
  | resolve source => exact source.resolve_failsWithin fault failed
  | castType type => exact TypeName.ofDatum_failsWithin type fault failed
  | valueAt column source modifiers =>
      exact Expr.valueAt_failsWithin (List.mem_singleton_self column) source modifiers fault failed
  | compareValue column operator value source modifiers =>
      exact Expr.compareValue_failsWithin (List.mem_singleton_self column) operator value source
        modifiers fault failed
  | compareValueBy column op value source modifiers =>
      exact Expr.compareValueBy_failsWithin (List.mem_singleton_self column) op value source
        modifiers fault failed
  | hasKey column source modifiers =>
      exact Expr.hasKey_failsWithin (List.mem_singleton_self column) source modifiers fault failed
  | compareColumn column name value =>
      exact Expr.compareColumn_failsWithin (List.mem_singleton_self column) name value [] fault
        failed
  | table name => exact Table.ofName_failsWithin (List.mem_singleton_self name) fault failed
  | select columns dialect => exact Select.start_failsWithin columns dialect [] fault failed

/-- The message of a rejection tells its reason and nothing else of what was passed. -/
theorem messages_tell_reasons {request : Request α} {rejection : Rejection}
    (failed : request.Fails (.rejection rejection)) :
    rejection.kind = rejection.reason.kind ∧ rejection.message = rejection.reason.message ∧
    rejection.reason.Applies request.texts request.names ∧
    ∀ (other : Request β) (found : Rejection), other.Fails (.rejection found) →
      found.kind = rejection.kind →
      (rejection.kind ≠ .path → rejection.kind ≠ .fieldName → found.message = rejection.message) ∧
      (found.reason = rejection.reason → found.message = rejection.message) := by
  have grounded : rejection.Grounded request.texts request.names := grounded_of_fails failed
  refine ⟨rejection.kind_reason.symm, grounded.message_eq, grounded.applies, ?_⟩
  intro other found failedToo sameKind
  have groundedToo : found.Grounded other.texts other.names := grounded_of_fails failedToo
  have sameReason : found.reason = rejection.reason → found.message = rejection.message := by
    intro same
    rw [groundedToo.message_eq, same, grounded.message_eq]
  refine ⟨?_, sameReason⟩
  intro path name
  apply sameReason
  rw [← found.kind_reason] at sameKind
  rw [← sameKind] at path name
  exact Reason.eq_of_kind_eq (sameKind.trans rejection.kind_reason.symm) path name

theorem messages_tell_reasons_nullInNames :
    (Request.table "pass\x00word" : Request Nat).Fails
      (.rejection (.nullChar "column names" "pass\x00word")) ∧
    (Request.hasKey "\x00" (.text "a.b") [] : Request Nat).Fails
      (.rejection (.nullChar "column names" "\x00")) ∧
    (Rejection.nullChar "column names" "\x00").message =
      (Rejection.nullChar "column names" "pass\x00word").message := by
  have table : (Request.table "pass\x00word" : Request Nat).Fails
      (.rejection (.nullChar "column names" "pass\x00word")) := by rfl
  have search : (Request.hasKey "\x00" (.text "a.b") [] : Request Nat).Fails
      (.rejection (.nullChar "column names" "\x00")) := by rfl
  obtain ⟨-, -, -, same⟩ := messages_tell_reasons table
  exact ⟨table, search, (same _ _ search rfl).2 rfl⟩

end Request

end JsonColumn
