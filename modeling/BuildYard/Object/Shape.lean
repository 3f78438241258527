import BuildYard.Json.Printer
import BuildYard.Json.Read
import BuildYard.Time.Rfc3339
/-!
# Shapes of cluster objects

A cluster object has many fields that the build yard neither sets nor looks at, but checks when it
is given an object and hands on when it gives the object back. A `Shape` says which fields those
are and what stands in them. `Shape.normal?` refuses a value that does not have the shape, and
else gives its normal form: unknown and unset fields dropped, required fields filled in, fields in
name order, times in whole seconds.
-/

namespace BuildYard

/-- What may stand at a place of an object. -/
inductive Shape where
  | text
  | flag
  | int32
  | int64
  | time
  | microTime
  | intOrText
  | anything
  | list (item : Shape)
  | table (value : Shape)
  /-- An object with these members; a member marked `true` is always set. -/
  | record (members : List (String × Bool × Shape))
  /-- An object of a kind, with these members besides the version and the kind. -/
  | resource (apiVersion kind : String) (members : List (String × Bool × Shape))

namespace Shape

/-- An instant written with a given precision. -/
def normalTime? (write : Instant → String) (j : Json) : Option Json := do
  return .str (write (← Instant.ofText? (← j.asText?)))

/-- A 32-bit integer or a text. -/
def normalIntOrText? (j : Json) : Option Json :=
  match j with
  | .str s => some (.str s)
  | _ => j.asInt32?.map .int

mutual

/-- What stands where a required member is not set. -/
def default : Shape → Json
  | .text => .str ""
  | .flag => .bool false
  | .int32 | .int64 | .intOrText => .int 0
  | .time => .str Instant.epoch.secondsText
  | .microTime => .str Instant.epoch.microsText
  | .anything => .null
  | .list _ => .arr []
  | .table _ => .obj []
  | .record members => .obj (defaults members)
  | .resource apiVersion kind members =>
    .obj (("apiVersion", .str apiVersion) :: ("kind", .str kind) :: defaults members)

/-- The required members with their defaults. -/
def defaults : List (String × Bool × Shape) → Json.Fields
  | [] => []
  | (name, true, shape) :: rest => (name, default shape) :: defaults rest
  | (_, false, _) :: rest => defaults rest

end

mutual

/-- The normal form of a value, if it has the shape. -/
def normal? : Shape → Json → Option Json
  | .text, j => j.asText?.map .str
  | .flag, j => j.asBool?.map .bool
  | .int32, j => j.asInt32?.map .int
  | .int64, j => j.asInt64?.map .int
  | .time, j => normalTime? Instant.secondsText j
  | .microTime, j => normalTime? Instant.microsText j
  | .intOrText, j => normalIntOrText? j
  | .anything, j => if j.isWhole then some j.canonical else none
  | .list item, j => (j.asList? (normal? item)).map .arr
  | .table value, j => (j.asMap? (normal? value)).map fun m => .obj m.entries
  | .record members, j => do
    let fields ← j.asFields?
    return .obj (← members? members fields)
  | .resource apiVersion kind members, j => do
    let fields ← Json.fieldsOfKind? apiVersion kind j
    return .obj (("apiVersion", .str apiVersion) :: ("kind", .str kind) :: (← members? members fields))

/-- The normal forms of the members that are set or required, among the fields of an object. -/
def members? : List (String × Bool × Shape) → Json.Fields → Option Json.Fields
  | [], _ => some []
  | (name, isRequired, shape) :: rest, fields => do
    let found ← Json.optional (normal? shape) fields name
    let others ← members? rest fields
    return match found with
      | some j => (name, j) :: others
      | none => if isRequired then (name, default shape) :: others else others

end

/-- The members of a record. -/
def members : Shape → List (String × Bool × Shape)
  | .record ms => ms
  | _ => []

/-- The normal forms of the members of a record other than the ones that are `known`. -/
def others? (shape : Shape) (known : List String) (fields : Json.Fields) : Option Json.Fields :=
  members? (shape.members.filter fun m => !known.contains m.1) fields

end Shape

end BuildYard
