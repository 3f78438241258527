import BuildYard.Json.Reader
import BuildYard.SortedMap
/-!
# Reading JSON step by step

A reader that knows which value it wants takes the value off the front of the text, and the first
fault ends the reading: either the text is no JSON there, or it is JSON but not the value that is
wanted. What stands behind the first fault does not count.
-/

namespace BuildYard.Json

/-- What is wrong with a text where the reading ended. -/
inductive Fault where
  /-- The text is no JSON. -/
  | malformed
  /-- The text has another value than is wanted. -/
  | unwanted
  deriving DecidableEq, Repr

/-- A step that takes something off the front of a text. -/
abbrev Step (α : Type) : Type := StateT (List Char) (Except Fault) α

namespace Step

/-- A part that has to be there. -/
def orMalformed {α : Type} (part : Option α) : Step α :=
  match part with
  | some a => pure a
  | none => throw .malformed

/-- The text after the white space at its start. -/
def next : Step (List Char) := do
  modify skipSpace
  get

/-- A text, from after its opening quote on. -/
def quoted : Step String := do
  let (raw, rest) ← orMalformed (rawText? (← get))
  set rest
  orMalformed (unescaped? raw)

/-- The fault of a text that starts with another value than is wanted. -/
def refused (s : List Char) : Fault :=
  match s with
  | '[' :: _ | '{' :: _ => .unwanted
  | 'n' :: 'u' :: 'l' :: 'l' :: _ => .unwanted
  | 't' :: 'r' :: 'u' :: 'e' :: _ => .unwanted
  | 'f' :: 'a' :: 'l' :: 's' :: 'e' :: _ => .unwanted
  | '"' :: rest =>
    if ((rawText? rest).bind fun (raw, _) => unescaped? raw).isSome then .unwanted else .malformed
  | _ => if ((numeral? s).map fun (n, _) => n.value.isWhole) = some true then .unwanted else .malformed

/-- A text. -/
def text : Step String := do
  match ← next with
  | '"' :: rest =>
    set rest
    quoted
  | other => throw (refused other)

/-- A text or `null`. -/
def textOrNull : Step (Option String) := do
  match ← next with
  | 'n' :: 'u' :: 'l' :: 'l' :: rest =>
    set rest
    return none
  | _ => return some (← text)

/-- Any value. -/
def anything : Step Unit := do
  set (← orMalformed (skip? (← get)))

/-! ## Members of arrays and objects -/

/-- Goes to the next member of an array or object and tells whether there is one; after the last
member it takes the closing mark. A comma stands before every member but the first. -/
def member (close : Char) (isFirst : Bool) : Step Bool := do
  match ← next with
  | c :: rest =>
    if c = close then
      set rest
      return false
    else if isFirst then return true
    else if c = ',' then
      set rest
      if (← next).head? = some close then throw .malformed
      return true
    else throw .malformed
  | [] => throw .malformed

/-- The name of a field, from its opening quote on. -/
def fieldName : Step String := do
  match ← get with
  | '"' :: rest =>
    set rest
    quoted
  | _ => throw .malformed

/-- The colon between the name of a field and its value. -/
def colon : Step Unit := do
  match ← next with
  | ':' :: rest => set rest
  | _ => throw .malformed

/-- The fields of an object from one on, each added to what was found before; `steps` bounds their
number. -/
def fieldsFrom {α : Type} (add : α → String → Step α) : (steps : Nat) → (isFirst : Bool) → α → Step α
  | 0, _, _ => throw .malformed
  | steps + 1, isFirst, found => do
    if ← member '}' isFirst then
      let name ← fieldName
      fieldsFrom add steps false (← add found name)
    else return found

/-- The fields of an object, from after its opening brace on. -/
def fields {α : Type} (start : α) (add : α → String → Step α) : Step α := do
  fieldsFrom add ((← get).length + 1) true start

/-- An object of texts; of two fields with one name the later counts. -/
def textMap : Step (SortedMap String String) := do
  match ← next with
  | '{' :: rest =>
    set rest
    fields .empty fun found name => do
      colon
      return found.insert name (← text)
  | other => throw (refused other)

/-- A member of an array that must not end before it. -/
def item {α : Type} (isFirst : Bool) (read : Step α) : Step α := do
  if ← member ']' isFirst then read else throw .unwanted

/-- The end of an array. -/
def arrayEnd : Step Unit := do
  match ← next with
  | ']' :: rest => set rest
  | _ => throw .malformed

/-- The end of the text. -/
def textEnd : Step Unit := do
  if !(← next).isEmpty then throw .malformed

end Step

end BuildYard.Json
