import BuildYard.Json.Basic
import BuildYard.SortedMap
import BuildYard.Word
/-!
# Reading typed values from JSON

A reader takes a value to what it stands for, or refuses it. Fields of an object are read by
`optional` and `required`: a field that is absent or `null` is unset, every occurrence of a
repeated field has to be readable, and the last occurrence counts.
-/

namespace BuildYard.Json

/-- A text. -/
def asText? : Json → Option String
  | .str s => some s
  | _ => none

/-- A truth value. -/
def asBool? : Json → Option Bool
  | .bool b => some b
  | _ => none

/-- An integer in a range. -/
def asIntIn? (low high : Int) : Json → Option Int
  | .int i => if low ≤ i ∧ i ≤ high then some i else none
  | _ => none

/-- An integer that fits a signed 32-bit word. -/
def asInt32? : Json → Option Int := asIntIn? (-(wordSize 31 : Int)) (wordSize 31 - 1)

/-- An integer that fits a signed 64-bit word. -/
def asInt64? : Json → Option Int := asIntIn? (-(wordSize 63 : Int)) (wordSize 63 - 1)

/-- A natural number below a bound. -/
def asNatBelow? (bound : Nat) (j : Json) : Option Nat :=
  (asIntIn? 0 (bound - 1) j).map Int.toNat

/-- The fields of an object. -/
def asFields? : Json → Option Fields
  | .obj fields => some fields
  | _ => none

/-- The items of an array. -/
def asItems? : Json → Option (List Json)
  | .arr items => some items
  | _ => none

/-- An array of readable items. -/
def asList? {α : Type} (read : Json → Option α) (j : Json) : Option (List α) := do
  (← asItems? j).mapM read

/-- An object of readable values as a map; of two fields with one name the later counts. -/
def asMap? {α : Type} (read : Json → Option α) (j : Json) : Option (SortedMap String α) := do
  let entries ← (← asFields? j).mapM fun (name, x) => (read x).map fun a => (name, a)
  return SortedMap.ofList entries

/-- An object of texts as a map. -/
def asTextMap? (j : Json) : Option (SortedMap String String) := asMap? asText? j

/-- A value that is readable or `null`. -/
def orNull? {α : Type} (read : Json → Option α) (j : Json) : Option (Option α) :=
  if j.isNull then some none else (read j).map some

/-- A field that may be unset. -/
def optional {α : Type} (read : Json → Option α) (fields : Fields) (name : String) :
    Option (Option α) :=
  fields.foldlM (fun found f => if f.1 = name then orNull? read f.2 else some found) none

/-- A field with a default for where it is unset. -/
def required {α : Type} (read : Json → Option α) (default : α) (fields : Fields) (name : String) :
    Option α :=
  (optional read fields name).map (·.getD default)

/-- Does every occurrence of a field hold a certain text? -/
def saysOnly (fields : Fields) (name text : String) : Bool :=
  fields.all fun f => f.1 != name || f.2 == .str text

/-- The fields of an object of a kind. The kind and its version need not be there, but if they are
they must be right. -/
def fieldsOfKind? (apiVersion kind : String) (j : Json) : Option Fields := do
  let fields ← j.asFields?
  if saysOnly fields "apiVersion" apiVersion && saysOnly fields "kind" kind then some fields
  else none

/-- An object of the fields that are set, in name order. -/
def ofSet (fields : List (String × Option Json)) (others : Fields) : Json :=
  let isSet := fields.filterMap fun (name, x) => x.map fun j => (name, j)
  .obj (SortedMap.ofList (isSet ++ others)).entries

/-- A map of texts as an object. -/
def ofTextMap (m : SortedMap String String) : Json := .obj (m.map .str).entries

end BuildYard.Json
