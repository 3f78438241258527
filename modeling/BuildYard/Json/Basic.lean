/-!
# JSON values

The value type and the questions asked of it. An object keeps its fields in the order and with the
repetitions in which they were written; whoever reads it decides what a repeated name means.
Integers that fit a signed or an unsigned 64-bit word are kept apart from all other numbers, whose
literal is kept as it was written.

A text can be well-formed JSON and yet hold parts that no value stands for: a number too large, half
of a surrogate pair, an array nested too deep. Such a part is `spoiled`. It does no harm where
nobody looks, so only a reader that asks for it refuses the text.
-/

namespace BuildYard

/-- A JSON value. -/
inductive Json where
  | null
  | bool (b : Bool)
  | int (i : Int)
  | decimal (literal : String)
  | str (s : String)
  | arr (items : List Json)
  | obj (fields : List (String × Json))
  /-- A well-formed part of a text that no value stands for. -/
  | spoiled
  deriving Inhabited, BEq, Repr

namespace Json

/-- The fields of an object. -/
abbrev Fields := List (String × Json)

/-- A text, or `null` where there is none. -/
def ofText? : Option String → Json
  | some s => .str s
  | none => .null

/-- An integer, or `null` where there is none. -/
def ofInt? : Option Int → Json
  | some i => .int i
  | none => .null

/-- A list of texts. -/
def ofTexts (ss : List String) : Json := .arr (ss.map .str)

/-- The object of fields whose names may be spoiled; then the object is. -/
def ofNamed (fields : List (Option String × Json)) : Json :=
  match fields.mapM fun (name, j) => name.map fun name => (name, j) with
  | some fields => .obj fields
  | none => .spoiled

/-- Is this the value `null`? -/
def isNull : Json → Bool
  | .null => true
  | _ => false

/-- The value of the last field with a name. -/
def lookup? (fields : Fields) (name : String) : Option Json :=
  fields.foldl (fun found f => if f.1 = name then some f.2 else found) none

/-- The value of a field of an object, if the value is an object and has the field. -/
def field? (j : Json) (name : String) : Option Json :=
  match j with
  | .obj fields => lookup? fields name
  | _ => none

mutual

/-- Is no part of a value spoiled? -/
def isWhole : Json → Bool
  | .spoiled => false
  | .arr items => areWhole items
  | .obj fields => haveWhole fields
  | .null | .bool _ | .int _ | .decimal _ | .str _ => true

/-- Is no part of any item spoiled? -/
def areWhole : List Json → Bool
  | [] => true
  | j :: rest => isWhole j && areWhole rest

/-- Is no part of the value of any field spoiled? -/
def haveWhole : List (String × Json) → Bool
  | [] => true
  | (_, j) :: rest => isWhole j && haveWhole rest

end

end Json

end BuildYard
