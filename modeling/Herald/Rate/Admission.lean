/-!
# Admissions

What a check of both gates comes to: the notification is admitted, or one of
the two scopes blocks it. A denial is an answer like the other, not an error.
-/

namespace Herald

/-- The reach of a gate. -/
inductive Scope where
  | domain
  | global
  deriving DecidableEq, Repr

/-- The word for a scope in log fields. -/
def Scope.label : Scope → String
  | .domain => "domain"
  | .global => "global"

/-- The name of a scope in answers. -/
def Scope.name : Scope → String
  | .domain => "Domain"
  | .global => "Global"

/-- The outcome of a check of both gates. -/
inductive Admission where
  | admitted
  | blocked (scope : Scope)
  deriving DecidableEq, Repr

namespace Admission

/-- Whether the notification may go out. -/
def isAdmitted : Admission → Bool
  | .admitted => true
  | .blocked _ => false

/-- The scope that blocked, if one did. -/
def blockedBy : Admission → Option Scope
  | .admitted => none
  | .blocked s => some s

/-- The outcome as it is written in full. -/
def describe : Admission → String
  | .admitted => "Admitted"
  | .blocked s => "Blocked(" ++ s.name ++ ")"

/-- An outcome is an admission exactly when no scope blocked. -/
theorem isAdmitted_iff {a : Admission} : a.isAdmitted = true ↔ a.blockedBy = none := by
  cases a <;> simp [isAdmitted, blockedBy]

end Admission

end Herald
