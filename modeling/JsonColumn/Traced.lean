import JsonColumn.Fault

/-!
Computations that leave notes for the log. The notes made before a fault are kept, so a failing
computation has notes too.
-/

namespace JsonColumn

inductive Note where
  | pathRead (text : String) (segments : Nat)
  | castIgnored (cast column : String)
  deriving DecidableEq, Repr

def Note.message : Note → String
  | pathRead text segments => s!"parsed JSON path {Text.quoted text} into {segments} segments"
  | castIgnored cast column =>
      s!"ignoring cast to {Text.quoted cast} for mysql column {Text.quoted column}"

structure Traced (α : Type) where
  notes : List Note
  outcome : Except Fault α

namespace Traced

variable {α β : Type}

def ofExcept (outcome : Except Fault α) : Traced α where
  notes := []
  outcome := outcome

def log (entries : List Note) : Traced Unit where
  notes := entries
  outcome := .ok ()

def misuse (fault : Misuse) : Traced α :=
  ofExcept (.error (.misuse fault))

def andThen (first : Traced α) (next : α → Traced β) : Traced β :=
  match first.outcome with
  | .error fault => { notes := first.notes, outcome := .error fault }
  | .ok value =>
      let second := next value
      { notes := first.notes ++ second.notes, outcome := second.outcome }

instance : Monad Traced where
  pure value := ofExcept (.ok value)
  bind := andThen

instance : MonadLift (Except Fault) Traced where
  monadLift := ofExcept

@[simp] theorem outcome_pure (value : α) : (pure value : Traced α).outcome = .ok value := rfl

@[simp] theorem notes_pure (value : α) : (pure value : Traced α).notes = [] := rfl

@[simp] theorem outcome_ofExcept (outcome : Except Fault α) :
    (ofExcept outcome).outcome = outcome := rfl

@[simp] theorem notes_ofExcept (outcome : Except Fault α) : (ofExcept outcome).notes = [] := rfl

@[simp] theorem outcome_liftM (outcome : Except Fault α) :
    (liftM outcome : Traced α).outcome = outcome := rfl

@[simp] theorem outcome_bind (first : Traced α) (next : α → Traced β) :
    (first >>= next).outcome = first.outcome.bind fun value => (next value).outcome := by
  change (first.andThen next).outcome = _
  unfold andThen
  cases first.outcome with
  | error fault => rfl
  | ok value => rfl

end Traced

end JsonColumn
