import BuildYard.Json.Basic
import BuildYard.SortedMap
import BuildYard.Text.Digits
/-!
# Writing JSON

`Json.compact` writes a value without any space, `Json.pretty` with one field or item a line and
two spaces of indentation a level. Both escape the quote, the backslash and the characters below
U+0020, and nothing else. A part that no value stands for is written as `null`.
-/

namespace BuildYard.Json

/-- One character inside a written text. -/
def escapedChar (c : Char) : List Char :=
  if c = '"' then ['\\', '"']
  else if c = '\\' then ['\\', '\\']
  else if c = '\x08' then ['\\', 'b']
  else if c = '\x0c' then ['\\', 'f']
  else if c = '\n' then ['\\', 'n']
  else if c = '\r' then ['\\', 'r']
  else if c = '\t' then ['\\', 't']
  else if c.toNat < 0x20 then ['\\', 'u'] ++ Text.hexPadded 4 c.toNat
  else [c]

/-- A text between quotes. -/
def writtenText (s : String) : String :=
  String.ofList ('"' :: s.toList.flatMap escapedChar ++ ['"'])

/-- An integer in decimal digits. -/
def writtenInt (i : Int) : String := String.ofList (Text.signedDecimal i)

mutual

/-- A value in the fewest characters. -/
def compact : Json → String
  | .null | .spoiled => "null"
  | .bool true => "true"
  | .bool false => "false"
  | .int i => writtenInt i
  | .decimal literal => literal
  | .str s => writtenText s
  | .arr items => "[" ++ compactItems items ++ "]"
  | .obj fields => "\x7b" ++ compactFields fields ++ "\x7d"

/-- The items of an array, with commas between them. -/
def compactItems : List Json → String
  | [] => ""
  | [x] => compact x
  | x :: xs => compact x ++ "," ++ compactItems xs

/-- The fields of an object, with commas between them. -/
def compactFields : List (String × Json) → String
  | [] => ""
  | [(name, x)] => writtenText name ++ ":" ++ compact x
  | (name, x) :: xs => writtenText name ++ ":" ++ compact x ++ "," ++ compactFields xs

end

/-- A new line at a level of indentation. -/
def newLine (level : Nat) : String := String.ofList ('\n' :: List.replicate (2 * level) ' ')

mutual

/-- A value with one item or field a line, written at a level of indentation. -/
def prettyAt (level : Nat) : Json → String
  | .arr [] => "[]"
  | .obj [] => "\x7b\x7d"
  | .arr items => "[" ++ prettyItems (level + 1) items ++ newLine level ++ "]"
  | .obj fields => "\x7b" ++ prettyFields (level + 1) fields ++ newLine level ++ "\x7d"
  | .null | .spoiled => "null"
  | .bool true => "true"
  | .bool false => "false"
  | .int i => writtenInt i
  | .decimal literal => literal
  | .str s => writtenText s

/-- The items of an array, each on a line. -/
def prettyItems (level : Nat) : List Json → String
  | [] => ""
  | [x] => newLine level ++ prettyAt level x
  | x :: xs => newLine level ++ prettyAt level x ++ "," ++ prettyItems level xs

/-- The fields of an object, each on a line. -/
def prettyFields (level : Nat) : List (String × Json) → String
  | [] => ""
  | [(name, x)] => newLine level ++ writtenText name ++ ": " ++ prettyAt level x
  | (name, x) :: xs =>
    newLine level ++ writtenText name ++ ": " ++ prettyAt level x ++ "," ++ prettyFields level xs

end

/-- A value with one item or field a line. -/
def pretty (j : Json) : String := prettyAt 0 j

mutual

/-- The value with the fields of every object in name order and the last of a repeated name. -/
def canonical : Json → Json
  | .arr items => .arr (canonicalItems items)
  | .obj fields => .obj (canonicalFields fields).entries
  | .null => .null
  | .bool b => .bool b
  | .int i => .int i
  | .decimal literal => .decimal literal
  | .str s => .str s
  | .spoiled => .spoiled

/-- The canonical items of an array. -/
def canonicalItems : List Json → List Json
  | [] => []
  | x :: xs => canonical x :: canonicalItems xs

/-- The canonical fields of an object; a later field goes before an earlier one. -/
def canonicalFields : List (String × Json) → SortedMap String Json
  | [] => .empty
  | (name, x) :: xs =>
    let rest := canonicalFields xs
    if rest.contains name then rest else rest.insert name (canonical x)

end

end BuildYard.Json
