import BuildYard.Json.Lexer
/-!
# Reading JSON

`Json.scan?` reads a whole text as one value and marks as spoiled what no value stands for, so that
a reader of typed values can pass over the fields that it does not know. `Json.parse?` refuses a
text with any spoiled part. `Json.skip?` takes one value off the front of a text without keeping it.
-/

namespace BuildYard.Json

mutual

/-- The value at the start of a text and what follows it. Where `depth` arrays and objects are open,
a further one is spoiled. -/
def value? : Nat → Nat → List Char → Option (Json × List Char)
  | 0, _, _ => none
  | fuel + 1, depth, s =>
    let unlessTooDeep (j : Json) : Json := if depth = 0 then .spoiled else j
    match skipSpace s with
    | '"' :: rest => do
      let (raw, after) ← rawText? rest
      return (((← spelled? raw).map Json.str).getD .spoiled, after)
    | '[' :: rest =>
      match skipSpace rest with
      | ']' :: after => some (unlessTooDeep (.arr []), after)
      | inner => do
        let (items, after) ← items? fuel (depth - 1) inner
        return (unlessTooDeep (.arr items), after)
    | '{' :: rest =>
      match skipSpace rest with
      | '}' :: after => some (unlessTooDeep (.obj []), after)
      | inner => do
        let (fields, after) ← fields? fuel (depth - 1) inner
        return (unlessTooDeep (.ofNamed fields), after)
    | 'n' :: 'u' :: 'l' :: 'l' :: after => some (.null, after)
    | 't' :: 'r' :: 'u' :: 'e' :: after => some (.bool true, after)
    | 'f' :: 'a' :: 'l' :: 's' :: 'e' :: after => some (.bool false, after)
    | other => (numeral? other).map fun (n, after) => (n.value, after)

/-- The items of an array up to its closing bracket; there is at least one. -/
def items? : Nat → Nat → List Char → Option (List Json × List Char)
  | 0, _, _ => none
  | fuel + 1, depth, s => do
    let (x, rest) ← value? fuel depth s
    match skipSpace rest with
    | ',' :: more =>
      let (xs, after) ← items? fuel depth more
      return (x :: xs, after)
    | ']' :: after => return ([x], after)
    | _ => none

/-- The fields of an object up to its closing brace; there is at least one. A name may be spoiled
as any text may. -/
def fields? : Nat → Nat → List Char → Option (List (Option String × Json) × List Char)
  | 0, _, _ => none
  | fuel + 1, depth, s => do
    match skipSpace s with
    | '"' :: rest =>
      let (raw, afterName) ← rawText? rest
      let name ← spelled? raw
      match skipSpace afterName with
      | ':' :: rest =>
        let (x, rest) ← value? fuel depth rest
        match skipSpace rest with
        | ',' :: more =>
          let (xs, after) ← fields? fuel depth more
          return ((name, x) :: xs, after)
        | '}' :: after => return ([(name, x)], after)
        | _ => none
      | _ => none
    | _ => none

end

/-- Every step of reading either ends or takes a character, so this many steps always suffice. -/
def stepBound (s : List Char) : Nat := 2 * s.length + 2

/-- The deepest nesting of arrays and objects that is kept. -/
def maxDepth : Nat := 127

/-- The value that a text stands for, if the text is well-formed; some of its parts may be
spoiled. -/
def scan? (text : String) : Option Json := do
  let s := text.toList
  let (j, after) ← value? (stepBound s) maxDepth s
  if (skipSpace after).isEmpty then some j else none

/-- The value that a text stands for, if the text is well-formed and every part of it stands for a
value. -/
def parse? (text : String) : Option Json := (scan? text).filter isWhole

/-- What follows the value at the start of a text. -/
def skip? (s : List Char) : Option (List Char) :=
  (value? (stepBound s) maxDepth s).map (·.2)

end BuildYard.Json
