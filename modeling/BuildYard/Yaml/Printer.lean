import BuildYard.Json.Printer
import BuildYard.Yaml.Scalar
/-!
# Writing YAML

`Yaml.text` writes a value in block style: one field or item a line, the fields of an object two
spaces deeper than the object, the items of an array behind hyphens and no deeper than the key of
the array. Arrays and objects without members are written as `[]` and `{}`.
-/

namespace BuildYard.Yaml

/-- The lines of a value that has no members, after the key or the hyphen in front of it. -/
def leafLine (indent : Nat) : Json → List Char
  | .null | .spoiled => "null\n".toList
  | .bool b => (if b then "true\n" else "false\n").toList
  | .int i => Text.signedDecimal i ++ ['\n']
  | .decimal literal => literal.toList ++ ['\n']
  | .str s => scalarLine indent s
  | .arr _ => "[]\n".toList
  | .obj _ => "\x7b\x7d\n".toList

mutual

/-- The lines of a value after the key in front of it, which stands at an indentation. -/
def afterKey (indent : Nat) : Json → List Char
  | .arr (x :: xs) => '\n' :: indentation indent ++ itemLines indent (x :: xs)
  | .obj (x :: xs) => '\n' :: indentation (indent + 2) ++ fieldLines (indent + 2) (x :: xs)
  | leaf => ' ' :: leafLine (indent + 2) leaf

/-- The lines of a value after the hyphen in front of it, which stands at an indentation. -/
def afterHyphen (indent : Nat) : Json → List Char
  | .arr (x :: xs) => ' ' :: itemLines (indent + 2) (x :: xs)
  | .obj (x :: xs) => ' ' :: fieldLines (indent + 2) (x :: xs)
  | leaf => ' ' :: leafLine (indent + 2) leaf

/-- The lines of items, all but the first with their indentation. -/
def itemLines (indent : Nat) : List Json → List Char
  | [] => []
  | [x] => '-' :: afterHyphen indent x
  | x :: xs => '-' :: afterHyphen indent x ++ indentation indent ++ itemLines indent xs

/-- The lines of fields, all but the first with their indentation. -/
def fieldLines (indent : Nat) : List (String × Json) → List Char
  | [] => []
  | [(name, x)] => keyText name ++ ':' :: afterKey indent x
  | (name, x) :: xs =>
    keyText name ++ ':' :: afterKey indent x ++ indentation indent ++ fieldLines indent xs

end

/-- A value as the text of a document. -/
def text (j : Json) : String :=
  String.ofList <| match j with
    | .arr (x :: xs) => itemLines 0 (x :: xs)
    | .obj (x :: xs) => fieldLines 0 (x :: xs)
    | leaf => leafLine 0 leaf

end BuildYard.Yaml
