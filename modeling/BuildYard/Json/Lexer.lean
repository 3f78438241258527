import BuildYard.Json.Basic
import BuildYard.Text.Digits
import BuildYard.Text.Magnitude
/-!
# The leaves of a JSON text

White space, texts between quotes, and numbers, each as a step that takes its part off the front of
a list of characters.
-/

namespace BuildYard.Json

/-- JSON's white space. -/
def isSpace (c : Char) : Bool := c == ' ' || c == '\t' || c == '\n' || c == '\r'

/-- The rest of a text after the white space at its start. -/
def skipSpace (s : List Char) : List Char := s.dropWhile isSpace

/-! ## Texts -/

/-- What stands before the closing quote, escapes unread, and what stands after it. A character
below U+0020 must not stand in a text. -/
def rawText? : List Char → Option (List Char × List Char)
  | [] => none
  | '"' :: rest => some ([], rest)
  | '\\' :: c :: rest => (rawText? rest).map fun (raw, after) => ('\\' :: c :: raw, after)
  | c :: rest =>
    if c.toNat < 0x20 then none
    else (rawText? rest).map fun (raw, after) => (c :: raw, after)

/-- A part of a text: a character, or a UTF-16 unit that an escape gives by its number. -/
inductive TextPart where
  | char (c : Char)
  | unit (n : Nat)

/-- The parts of a text, escapes read. -/
def textParts? : List Char → Option (List TextPart)
  | [] => some []
  | '\\' :: 'u' :: a :: b :: c :: d :: rest => do
    let n ← Text.ofHex? [a, b, c, d]
    return .unit n :: (← textParts? rest)
  | '\\' :: c :: rest => do
    let plain ← match c with
      | '"' => some '"'
      | '\\' => some '\\'
      | '/' => some '/'
      | 'b' => some '\x08'
      | 'f' => some '\x0c'
      | 'n' => some '\n'
      | 'r' => some '\r'
      | 't' => some '\t'
      | _ => none
    return .char plain :: (← textParts? rest)
  | '\\' :: [] => none
  | c :: rest => do return .char c :: (← textParts? rest)

/-- The characters of the parts of a text: the two units of a surrogate pair make one character,
and a surrogate that stands alone makes none. -/
def pairUnits? : List TextPart → Option (List Char)
  | [] => some []
  | .char c :: rest => do return c :: (← pairUnits? rest)
  | .unit hi :: .unit lo :: rest =>
    if 0xD800 ≤ hi && hi < 0xDC00 then
      if 0xDC00 ≤ lo && lo < 0xE000 then do
        return Char.ofNat (0x10000 + (hi - 0xD800) * 0x400 + (lo - 0xDC00)) :: (← pairUnits? rest)
      else none
    else if 0xDC00 ≤ hi && hi < 0xE000 then none
    else do return Char.ofNat hi :: (← pairUnits? (.unit lo :: rest))
  | .unit n :: rest =>
    if 0xD800 ≤ n && n < 0xE000 then none
    else do return Char.ofNat n :: (← pairUnits? rest)

/-- The text that the characters between two quotes stand for, if their escapes are well-formed;
half of a surrogate pair stands for none. -/
def spelled? (raw : List Char) : Option (Option String) :=
  (textParts? raw).map fun parts => (pairUnits? parts).map String.ofList

/-- The text that the characters between two quotes stand for. -/
def unescaped? (raw : List Char) : Option String := (spelled? raw).join

/-! ## Numbers -/

/-- The parts of a number as it is written. -/
structure Numeral where
  negative : Bool
  whole : List Char
  fraction : Option (List Char)
  exponent : Option (Bool × List Char)
  literal : List Char

/-- A non-empty run of decimal digits and what follows it. -/
def digitRun? (s : List Char) : Option (List Char × List Char) :=
  let digits := s.takeWhile Char.isDigit
  if digits.isEmpty then none else some (digits, s.dropWhile Char.isDigit)

/-- Is there a minus sign at the start of a text, and what follows it. -/
def minus : List Char → Bool × List Char
  | '-' :: rest => (true, rest)
  | s => (false, s)

/-- The digits after the point at the start of a text, if there is a point, and what follows. -/
def fraction? : List Char → Option (Option (List Char) × List Char)
  | '.' :: rest => (digitRun? rest).map fun (digits, after) => (some digits, after)
  | s => some (none, s)

/-- Does the exponent at the start of a text go down, and what follows its sign. -/
def exponentSign : List Char → Bool × List Char
  | '-' :: rest => (true, rest)
  | '+' :: rest => (false, rest)
  | s => (false, s)

/-- The sign and the digits of the exponent at the start of a text, if there is one, and what
follows. -/
def exponent? : List Char → Option (Option (Bool × List Char) × List Char)
  | [] => some (none, [])
  | e :: rest =>
    if e == 'e' || e == 'E' then
      let (down, afterSign) := exponentSign rest
      (digitRun? afterSign).map fun (digits, after) => (some (down, digits), after)
    else some (none, e :: rest)

/-- The number at the start of a text: no leading zeros, digits on both sides of a point, and
digits in an exponent. -/
def numeral? (s : List Char) : Option (Numeral × List Char) := do
  let (negative, afterSign) := minus s
  let (whole, afterWhole) ← digitRun? afterSign
  if whole.length > 1 && whole.head? == some '0' then none
  else
    let (fraction, afterFraction) ← fraction? afterWhole
    let (exponent, after) ← exponent? afterFraction
    return ({
      negative, whole, fraction, exponent, literal := s.take (s.length - after.length) }, after)

/-- Does the number round to a finite binary64 value? -/
def Numeral.isFinite (n : Numeral) : Bool :=
  let fraction := n.fraction.getD []
  let shift := match n.exponent with
    | some (isNegative, digits) => Text.exponentValue isNegative digits
    | none => 0
  Text.isFiniteDecimal (n.whole ++ fraction) (shift - fraction.length)

/-- The value of a number: an integer if it is written as one and fits a 64-bit word, else its
literal; a minus sign before zero makes it no integer, and a number that is too large is spoiled. -/
def Numeral.value (n : Numeral) : Json :=
  let magnitude := Nat.ofDigitChars 10 n.whole 0
  let asDecimal : Json := if n.isFinite then .decimal (String.ofList n.literal) else .spoiled
  if n.fraction.isSome || n.exponent.isSome then asDecimal
  else if n.negative then
    if 0 < magnitude && magnitude ≤ wordSize 63 then .int (-(magnitude : Int)) else asDecimal
  else if magnitude < wordSize 64 then .int magnitude
  else asDecimal

end BuildYard.Json
