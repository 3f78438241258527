/-!
# Failures

What an operation reports when it does not succeed: a kind, which decides how the failure is
treated and which HTTP status answers it, and a text. `Failure.during` puts the operation that
failed in front of the text, for the kinds whose text comes from below, and never changes the kind.
-/

namespace BuildYard

/-- The kinds of failure. -/
inductive FailureKind where
  | kubernetes
  | notFound
  | conflict
  | config
  | validation
  | serialization
  | io
  | internal
  deriving DecidableEq, Repr

/-- An operation that did not succeed. -/
structure Failure where
  kind : FailureKind
  text : String
  deriving DecidableEq, Repr

/-- What a failure of a kind is called in front of its text. -/
def FailureKind.title : FailureKind → String
  | .kubernetes => "Kubernetes error"
  | .notFound => "Not found"
  | .conflict => "Conflict"
  | .config => "Configuration error"
  | .validation => "Validation error"
  | .serialization => "Serialization error"
  | .io => "IO error"
  | .internal => "Internal error"

/-- Does the text of this kind of failure tell which operations it passed through? -/
def FailureKind.takesContext : FailureKind → Bool
  | .kubernetes | .notFound | .conflict | .internal => true
  | .config | .validation | .serialization | .io => false

/-- The HTTP status that answers a failure of a kind. -/
def FailureKind.status : FailureKind → Nat
  | .notFound => 404
  | .validation => 400
  | .conflict => 409
  | .kubernetes | .config | .serialization | .io | .internal => 500

namespace Failure

/-- The whole text of a failure. -/
def message (f : Failure) : String := f.kind.title ++ ": " ++ f.text

/-- The failure seen from the operation it happened in. -/
def during (operation : String) (f : Failure) : Failure :=
  if f.kind.takesContext then { f with text := operation ++ ": " ++ f.text } else f

/-- Does the failure say that something does not exist? -/
def isNotFound (f : Failure) : Bool := f.kind = .notFound

/-- The HTTP status that answers the failure. -/
def status (f : Failure) : Nat := f.kind.status

@[simp] theorem kind_during (operation : String) (f : Failure) :
    (f.during operation).kind = f.kind := by
  unfold during; split <;> rfl

end Failure

/-- A result with its failure seen from the operation it happened in. -/
def during {α : Type} (operation : String) (r : Except Failure α) : Except Failure α :=
  r.mapError (Failure.during operation)

@[simp] theorem during_ok {α : Type} (operation : String) (a : α) :
    during operation (.ok a) = .ok a := rfl

@[simp] theorem during_error {α : Type} (operation : String) (f : Failure) :
    during operation (.error f : Except Failure α) = .error (f.during operation) := rfl

theorem during_eq_ok_iff {α : Type} {operation : String} {r : Except Failure α} {a : α} :
    during operation r = .ok a ↔ r = .ok a := by
  cases r <;> simp

/-- Two steps succeed when the second succeeds on what the first comes to. -/
theorem bind_eq_ok_iff {ε α β : Type} {x : Except ε α} {f : α → Except ε β} {b : β} :
    x >>= f = .ok b ↔ ∃ a, x = .ok a ∧ f a = .ok b := by
  cases x <;> simp [bind, Except.bind]

theorem toOption_eq_some_iff {ε α : Type} {x : Except ε α} {a : α} :
    x.toOption = some a ↔ x = .ok a := by
  cases x <;> simp [Except.toOption]

end BuildYard
