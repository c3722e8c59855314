import StorageBackends.Document.Issue

namespace StorageBackends.Document

/-!
# Checked values

A check ends with a value or with issues. Two checks in a row are both made
whatever the first one finds, so all the issues of a document are reported
together, in the order of the checks.
-/

/-- A value, or the issues that stand in its way. -/
inductive Checked (α : Type) where
  | valid (value : α)
  | invalid (issues : List Issue)
deriving DecidableEq, Repr

namespace Checked

variable {α β : Type}

/-- A single complaint about the whole. -/
def complain (complaint : Complaint) : Checked α :=
  .invalid [⟨[], complaint⟩]

/-- The issues; none for a value. -/
def issues : Checked α → List Issue
  | .valid _ => []
  | .invalid issues => issues

/-- The value, if there is one. -/
def value? : Checked α → Option α
  | .valid value => some value
  | .invalid _ => none

/-- Apply a function to the value. -/
def map (f : α → β) : Checked α → Checked β
  | .valid value => .valid (f value)
  | .invalid issues => .invalid issues

/-- Apply a checked function to a checked value, joining their issues. -/
def apply : Checked (α → β) → Checked α → Checked β
  | .valid f, .valid value => .valid (f value)
  | .valid _, .invalid issues => .invalid issues
  | .invalid issues, .valid _ => .invalid issues
  | .invalid first, .invalid second => .invalid (first ++ second)

instance : Applicative Checked where
  pure := .valid
  map := map
  seq f value := apply f (value ())

/-- Take the issues of a part as issues of the whole. -/
def under (step : PathStep) : Checked α → Checked α
  | .valid value => .valid value
  | .invalid issues => .invalid (issues.map (Issue.under step))

/-- All values of a list of checks, or all their issues. -/
def all : List (Checked α) → Checked (List α)
  | [] => .valid []
  | check :: rest => apply (map List.cons check) (all rest)

@[simp] theorem map_eq (f : α → β) (check : Checked α) :
    f <$> check = map f check := rfl

@[simp] theorem seq_eq (f : Checked (α → β)) (check : Checked α) :
    f <*> check = apply f check := rfl

@[simp] theorem pure_eq (value : α) :
    (pure value : Checked α) = .valid value := rfl

/-- An application is a value exactly when both of its parts are. -/
theorem apply_eq_valid_iff
    (f : Checked (α → β))
    (check : Checked α)
    (result : β) :
    apply f check = .valid result ↔
      ∃ g value, f = .valid g ∧ check = .valid value ∧ g value = result := by
  cases f <;> cases check <;> simp [apply]

/-- A mapped check is a value exactly when the check is. -/
theorem map_eq_valid_iff
    (f : α → β)
    (check : Checked α)
    (result : β) :
    map f check = .valid result ↔
      ∃ value, check = .valid value ∧ f value = result := by
  cases check <;> simp [map]

/-- Moving issues under a step keeps the value. -/
theorem under_eq_valid_iff
    (step : PathStep)
    (check : Checked α)
    (value : α) :
    under step check = .valid value ↔ check = .valid value := by
  cases check <;> simp [under]

end Checked

end StorageBackends.Document
