import BuildYard.Text.Digits
import BuildYard.Text.Magnitude
/-!
# What plain scalars stand for

A scalar without quotes stands for a text only if it does not look like something else: nothing, a
truth value, an integer in one of four bases, or a decimal number. A text that does look so has to
be written with quotes.
-/

namespace BuildYard.Yaml

/-- Does the scalar stand for nothing? -/
def isNullWord (s : String) : Bool := ["", "null", "Null", "NULL", "~"].contains s

/-- Does the scalar stand for a truth value? -/
def isBoolWord (s : String) : Bool :=
  ["true", "True", "TRUE", "false", "False", "FALSE"].contains s

/-! ## Integers with the mark of a base -/

/-- The base that a mark stands for. -/
def baseOf? : Char → Option Nat
  | 'x' => some 16
  | 'o' => some 8
  | 'b' => some 2
  | _ => none

/-- The number that digits of a base stand for. -/
def ofBase? (base : Nat) (digits : List Char) : Option Nat :=
  if digits.isEmpty then none
  else digits.foldlM (fun n c =>
    ((Text.hexValue? c).filter (· < base)).map fun d => base * n + d) 0

/-- Does the scalar stand for an integer with the mark of a base? The integer has to fit an
unsigned 128-bit word, or a signed one if it has a minus sign. -/
def isMarkedInteger (s : List Char) : Bool :=
  let marked (limit : Nat) (s : List Char) : Bool :=
    match s with
    | '0' :: mark :: digits =>
      (do ofBase? (← baseOf? mark) digits).any (· ≤ limit)
    | _ => false
  match s with
  | '+' :: rest => marked (wordSize 128 - 1) rest
  | '-' :: rest => marked (wordSize 127) rest
  | _ => marked (wordSize 128 - 1) s

/-! ## Decimal numbers -/

/-- A run of digits with a leading zero, which is no number although every character of it could
be part of one. -/
def isZeroPadded (s : List Char) : Bool :=
  let digits := match s with
    | '+' :: rest => rest
    | '-' :: rest => rest
    | _ => s
  digits.length > 1 && digits.head? == some '0' && digits.all Char.isDigit

/-- Is this a decimal number without a sign that rounds to a finite value? It has a digit before or
after its point, and digits in its exponent. -/
def isDecimal (s : List Char) : Bool :=
  let whole := s.takeWhile Char.isDigit
  let (fraction, rest) := match s.dropWhile Char.isDigit with
    | '.' :: rest => (rest.takeWhile Char.isDigit, rest.dropWhile Char.isDigit)
    | rest => ([], rest)
  let isFinite (shift : Int) : Bool :=
    Text.isFiniteDecimal (whole ++ fraction) (shift - fraction.length)
  if whole.isEmpty && fraction.isEmpty then false
  else match rest with
    | [] => isFinite 0
    | e :: rest =>
      if e == 'e' || e == 'E' then
        let (isNegative, digits) := match rest with
          | '-' :: digits => (true, digits)
          | '+' :: digits => (false, digits)
          | _ => (false, rest)
        !digits.isEmpty && digits.all Char.isDigit &&
          isFinite (Text.exponentValue isNegative digits)
      else false

/-- The words for infinity, without a sign. -/
def infinityWords : List String := [".inf", ".Inf", ".INF"]

/-- The words for a value that is no number. -/
def nanWords : List String := [".nan", ".NaN", ".NAN"]

/-- Does the scalar stand for a decimal number, an infinity or no number? -/
def isFloat (s : List Char) : Bool :=
  let number (s : List Char) : Bool := infinityWords.contains (String.ofList s) || isDecimal s
  nanWords.contains (String.ofList s) ||
    match s with
    | '+' :: rest => number rest
    | '-' :: rest => number rest
    | _ => number s

/-- Does the scalar without quotes stand for itself? -/
def isPlainText (s : String) : Bool :=
  let cs := s.toList
  !(isNullWord s || isBoolWord s || isMarkedInteger cs || isZeroPadded cs || isFloat cs)

end BuildYard.Yaml
