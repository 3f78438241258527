import BuildYard.Failure
import BuildYard.Label.Key
import BuildYard.SortedMap
import BuildYard.Text.Blank
import BuildYard.Text.Pieces
/-!
# Labels and selectors

A selector is a set of terms `key=value`, all of which a set of labels has to satisfy. Its text is
the terms in key order with commas between them. Reading a text accepts `==` for `=` and white
space around keys, values and terms, and skips blank terms.
-/

namespace BuildYard

/-- The labels of an object. -/
abbrev Labels := SortedMap String String

/-- A conjunction of equalities on labels. -/
structure Selector where
  terms : SortedMap String String
  deriving DecidableEq

/-- What is wrong with a term of a selector. -/
inductive SelectorFault where
  /-- The term has no equals sign. -/
  | noEquals (term : String)
  /-- The term has no key, or is an inequality. -/
  | notEquality (term : String)
  deriving DecidableEq, Repr

/-- What is said of a fault. -/
def SelectorFault.text : SelectorFault → String
  | .noEquals term => "invalid selector term '" ++ term ++ "': expected key=value"
  | .notEquality term => "invalid selector term '" ++ term ++ "': only equality is supported"

namespace Selector

/-- The selector that every object satisfies. -/
def all : Selector := ⟨.empty⟩

/-- The selector with one more term, in place of a term for the same key. -/
def withTerm (s : Selector) (key value : String) : Selector := ⟨s.terms.insert key value⟩

/-- The selector of the jobs of a service. -/
def forService (serviceId : String) : Selector := all.withTerm LabelKey.serviceId.text serviceId

/-- The selector of the pods of a job. -/
def forJobPods (jobName : String) : Selector := all.withTerm LabelKey.jobName.text jobName

/-- Has the selector no terms? -/
def isEmpty (s : Selector) : Bool := s.terms.isEmpty

/-- Do these labels satisfy every term? -/
def selects (s : Selector) (labels : Option Labels) : Bool :=
  s.terms.entries.all fun (key, value) => (labels.bind (·.find? key)) == some value

/-- A selector with one term asks for one label. -/
theorem selects_all_withTerm (key value : String) (labels : Option Labels) :
    (all.withTerm key value).selects labels = ((labels.bind (·.find? key)) == some value) := by
  show ((labels.bind (·.find? key)) == some value && true) = _
  rw [Bool.and_true]

/-- The text of one term. -/
def termChars (term : String × String) : List Char := term.1.toList ++ '=' :: term.2.toList

/-- The terms in key order, with commas between them. -/
def chars (s : Selector) : List Char := Text.joined [','] (s.terms.entries.map termChars)

/-- The terms in key order, with commas between them. -/
def text (s : Selector) : String := String.ofList s.chars

/-- The two sides of a term: it is cut at the first `==`, or at the first `=` without one. -/
def sides? (term : List Char) : Option (List Char × List Char) :=
  match Text.cutAt? ['=', '='] term with
  | some sides => some sides
  | none => Text.cutAt? ['='] term

/-- The key and the value of a trimmed term. -/
def readTerm (term : List Char) : Except SelectorFault (String × String) :=
  match sides? term with
  | none => .error (.noEquals (String.ofList term))
  | some (key, value) =>
    let key := Text.trim key
    if key.isEmpty || key.getLast? == some '!' then .error (.notEquality (String.ofList term))
    else .ok (String.ofList key, String.ofList (Text.trim value))

/-- The terms of a text: its trimmed pieces between commas, without the blank ones. -/
def termsOf (s : List Char) : List (List Char) :=
  ((Text.pieces ',' s).map Text.trim).filter (!·.isEmpty)

/-- The selector with the terms of a text added one after the other. -/
def readTerms : Selector → List (List Char) → Except SelectorFault Selector
  | s, [] => .ok s
  | s, term :: rest =>
    match readTerm term with
    | .error fault => .error fault
    | .ok (key, value) => readTerms (s.withTerm key value) rest

/-- The selector that a text stands for. -/
def ofChars (s : List Char) : Except SelectorFault Selector := readTerms all (termsOf s)

/-- The selector that a text stands for. -/
def parse (s : String) : Except Failure Selector :=
  (ofChars s.toList).mapError fun fault => ⟨.validation, fault.text⟩

end Selector

end BuildYard
