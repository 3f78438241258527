import BuildYard.Yaml.Resolution
/-!
# Scalars

How a text is written. A text of several lines is written as a literal block if it can be, and
between double quotes if not. Any other text is written in the first of three ways that keeps it as
it is: without quotes, between single quotes, between double quotes. Lines are never folded, however
long they are.
-/

namespace BuildYard.Yaml

/-! ## Characters -/

/-- A character that ends a line. -/
def isBreak (c : Char) : Bool :=
  c == '\n' || c == '\r' || c == '\u0085' || c == '\u2028' || c == '\u2029'

/-- A character that may stand in a scalar without an escape. -/
def isPrintable (c : Char) : Bool :=
  let n := c.toNat
  c == '\n' || (0x20 ≤ n && n ≤ 0x7E) || (0xA0 ≤ n && n ≤ 0xFFFD && n ≠ 0xFEFF) || 0x10000 ≤ n

/-- White space or the end of a line. -/
def isBlankOrBreak (c : Char) : Bool := c == ' ' || c == '\t' || isBreak c

/-- A character with which no plain scalar starts. -/
def isIndicator (c : Char) : Bool := "#,[]\x7b\x7d&*!|>\x27\"%@\x60".toList.contains c

/-- A character with which no plain scalar starts if white space follows it. -/
def isLooseIndicator (c : Char) : Bool := c == '-' || c == '?' || c == ':'

/-! ## What a text admits -/

/-- Does a text hold two characters, one right after the other, that pass two tests? -/
def hasPair (first second : Char → Bool) : List Char → Bool
  | a :: b :: rest => (first a && second b) || hasPair first second (b :: rest)
  | _ => false

/-- Does a text start like the line that starts or ends a document? -/
def looksLikeMarker (s : List Char) : Bool :=
  ['-', '-', '-'].isPrefixOf s || ['.', '.', '.'].isPrefixOf s

/-- Would the start of a text be read as something other than a plain scalar? -/
def startsWithIndicator (s : List Char) : Bool :=
  match s with
  | [] => false
  | c :: rest => isIndicator c || (isLooseIndicator c && rest.head?.all isBlankOrBreak)

/-- Would a part of a text after its start be read as a key or as a comment? -/
def holdsIndicator (s : List Char) : Bool :=
  hasPair (· == ':') isBlankOrBreak s || hasPair isBlankOrBreak (· == '#') s ||
    (s.length > 1 && s.getLast? == some ':')

/-- Can the text be written without quotes on one line? -/
def admitsPlain (s : List Char) : Bool :=
  !(s.isEmpty || looksLikeMarker s || startsWithIndicator s || holdsIndicator s ||
    s.head? == some ' ' || s.getLast? == some ' ') &&
    s.all fun c => isPrintable c && !isBreak c

/-- Can the text be written between single quotes? -/
def admitsSingleQuotes (s : List Char) : Bool :=
  s.all isPrintable && !hasPair (· == ' ') isBreak s && !hasPair isBreak (· == ' ') s

/-- Can the text be written as a literal block? -/
def admitsLiteral (s : List Char) : Bool :=
  s.all isPrintable && !hasPair (· == ' ') isBreak s && s.getLast? != some ' '

/-! ## Styles -/

/-- The ways to write a text. -/
inductive Style where
  | plain
  | singleQuoted
  | doubleQuoted
  | literal
  deriving DecidableEq, Repr

/-- The way in which a text is written. -/
def Style.of (s : String) : Style :=
  let cs := s.toList
  if cs.contains '\n' then if admitsLiteral cs then .literal else .doubleQuoted
  else if isPlainText s && admitsPlain cs then .plain
  else if admitsSingleQuotes cs then .singleQuoted
  else .doubleQuoted

/-- The way in which a text is written as a key, which has to stay on one line. -/
def Style.ofKey (s : String) : Style :=
  if s.toList.any isBreak then .doubleQuoted else .of s

/-! ## Written texts -/

/-- The indentation at the start of a line. -/
def indentation (indent : Nat) : List Char := List.replicate indent ' '

/-- A text with its lines indented and a quote inside it doubled where `quote` says so. -/
def indented (indent : Nat) (doubled : Char → Bool) (atLineStart : Bool) : List Char → List Char
  | [] => []
  | c :: rest =>
    if isBreak c then c :: indented indent doubled true rest
    else
      (if atLineStart then indentation indent else []) ++ (if doubled c then [c, c] else [c]) ++
        indented indent doubled false rest

/-- A text between single quotes. -/
def singleQuoted (indent : Nat) (s : List Char) : List Char :=
  '\'' :: indented indent (· == '\'') false s ++
    (if s.getLast?.any isBreak then indentation indent else []) ++ ['\'']

/-- The hexadecimal digits of an escape in upper case. -/
def hexDigits (width n : Nat) : List Char := (Text.hexPadded width n).map Char.toUpper

/-- A character that is escaped between double quotes. -/
def escaped (c : Char) : List Char :=
  let n := c.toNat
  let short : List (Nat × Char) := [
    (0x00, '0'), (0x07, 'a'), (0x08, 'b'), (0x09, 't'), (0x0A, 'n'), (0x0B, 'v'), (0x0C, 'f'),
    (0x0D, 'r'), (0x1B, 'e'), (0x22, '"'), (0x5C, '\\'), (0x85, 'N'), (0xA0, '_'),
    (0x2028, 'L'), (0x2029, 'P')]
  '\\' :: match short.lookup n with
    | some letter => [letter]
    | none =>
      if n ≤ 0xFF then 'x' :: hexDigits 2 n
      else if n ≤ 0xFFFF then 'u' :: hexDigits 4 n
      else 'U' :: hexDigits 8 n

/-- A text between double quotes. -/
def doubleQuoted (s : List Char) : List Char :=
  '"' :: s.flatMap (fun c =>
    if isPrintable c && !isBreak c && c ≠ '"' && c ≠ '\\' then [c] else escaped c) ++ ['"']

/-- The marks after the bar of a literal block: the indentation if the text starts with white space,
then what becomes of the breaks at the end. One break is what the reader adds by itself. -/
def literalMarks (s : List Char) : List Char :=
  let indentMark := if s.head?.any (fun c => c == ' ' || isBreak c) then ['2'] else []
  let breaks := (s.reverse.takeWhile isBreak).length
  let endMark :=
    if breaks = 0 then ['-'] else if breaks = 1 && s.length > 1 then [] else ['+']
  indentMark ++ endMark

/-- A text as a literal block, with the break after it. -/
def literalBlock (indent : Nat) (s : List Char) : List Char :=
  '|' :: literalMarks s ++ '\n' :: indented indent (fun _ => false) true s ++
    (if s.getLast?.any isBreak then [] else ['\n'])

/-- A text and the end of its line, its further lines at an indentation. -/
def scalarLine (indent : Nat) (s : String) : List Char :=
  match Style.of s with
  | .plain => s.toList ++ ['\n']
  | .singleQuoted => singleQuoted indent s.toList ++ ['\n']
  | .doubleQuoted => doubleQuoted s.toList ++ ['\n']
  | .literal => literalBlock indent s.toList

/-- A text as a key. -/
def keyText (s : String) : List Char :=
  match Style.ofKey s with
  | .plain | .literal => s.toList
  | .singleQuoted => singleQuoted 0 s.toList
  | .doubleQuoted => doubleQuoted s.toList

end BuildYard.Yaml
