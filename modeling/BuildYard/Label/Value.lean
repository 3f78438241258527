import BuildYard.Failure
import BuildYard.Text.Digits
/-!
# Label values

The grammar that Kubernetes sets for the value of a label, here for values that must not be empty:
at most 63 octets; letters, digits, hyphens, underscores and points; a letter or a digit at both
ends.
-/

namespace BuildYard

/-- The most octets a label value may have. -/
def maxLabelOctets : Nat := 63

/-- What is wrong with a label value: the first of the checks that fails. -/
inductive LabelFault where
  | missing
  | tooLong (octets : Nat)
  | malformed
  deriving DecidableEq, Repr

/-- A character that may stand at the ends of a label value. -/
def isLabelEdge (c : Char) : Bool := c.isAlphanum

/-- A character that may stand inside a label value. -/
def isLabelInner (c : Char) : Bool := c.isAlphanum || c == '-' || c == '_' || c == '.'

theorem isLabelInner_of_isLabelEdge {c : Char} (h : isLabelEdge c = true) :
    isLabelInner c = true := by
  have hedge : c.isAlphanum = true := h
  simp [isLabelInner, hedge]

/-- A non-empty text of inner characters with an edge character at both ends. -/
def isLabelForm (s : List Char) : Bool :=
  s.all isLabelInner && s.head?.any isLabelEdge && s.getLast?.any isLabelEdge

/-- The first check that a value fails as a label value that must not be empty. -/
def labelFault? (value : String) : Option LabelFault :=
  if value.utf8ByteSize = 0 then some .missing
  else if maxLabelOctets < value.utf8ByteSize then some (.tooLong value.utf8ByteSize)
  else if isLabelForm value.toList then none
  else some .malformed

/-- A label value is short and has the form of one; the form leaves the empty text out. -/
theorem labelFault?_eq_none_iff {value : String} :
    labelFault? value = none ↔
      value.utf8ByteSize ≤ maxLabelOctets ∧ isLabelForm value.toList = true := by
  unfold labelFault?
  by_cases hempty : value.utf8ByteSize = 0
  · have hnil : value.toList = [] := by rw [String.utf8ByteSize_eq_zero_iff.1 hempty]; rfl
    simp [hempty, hnil, isLabelForm]
  · by_cases hlong : maxLabelOctets < value.utf8ByteSize
    · simp [hempty, hlong, Nat.not_le_of_lt hlong]
    · simp [hempty, hlong, Nat.le_of_not_lt hlong]

/-- A label value has nothing but inner characters in it. -/
theorem of_labelFault?_eq_none {value : String} (h : labelFault? value = none) :
    value.utf8ByteSize ≤ maxLabelOctets ∧ ∀ c ∈ value.toList, isLabelInner c = true := by
  obtain ⟨hshort, hform⟩ := labelFault?_eq_none_iff.1 h
  simp only [isLabelForm, Bool.and_eq_true, List.all_eq_true] at hform
  exact ⟨hshort, hform.1.1⟩

/-- What is said of a fault in a value of the label `field`. -/
def LabelFault.text (field value : String) : LabelFault → String
  | .missing => field ++ " must not be empty"
  | .tooLong n =>
    field ++ " must be at most " ++ String.ofList (Text.decimal maxLabelOctets) ++
      " characters, got " ++ String.ofList (Text.decimal n)
  | .malformed => field ++ " '" ++ value ++ "' is not a valid label value"

/-- Refuses a value that is no label value. -/
def checkLabelValue (field value : String) : Except Failure Unit :=
  match labelFault? value with
  | none => .ok ()
  | some fault => .error ⟨.validation, fault.text field value⟩

theorem checkLabelValue_eq_ok_iff (field value : String) :
    checkLabelValue field value = .ok () ↔ labelFault? value = none := by
  unfold checkLabelValue
  cases labelFault? value <;> simp

theorem kind_of_checkLabelValue {field value : String} {e : Failure}
    (h : checkLabelValue field value = .error e) : e.kind = .validation := by
  unfold checkLabelValue at h
  split at h
  · cases h
  · cases h
    rfl

end BuildYard
