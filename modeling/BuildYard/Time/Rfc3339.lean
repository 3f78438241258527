import BuildYard.Text.Blank
import BuildYard.Text.Digits
import BuildYard.Time.Instant
import BuildYard.Word
/-!
# Instants in the form of RFC 3339

Writing gives `2024-01-02T03:04:05Z`, with the zone and the digits of the fraction as asked for. A
year outside 0 to 9999 is written with its sign, a leap second as `:60`.

Reading is lenient where nothing is ambiguous: fields may have fewer digits, white space may stand
around the separators, the date and the time may be separated by `T`, `t` or a space, and a year
with a sign may have any number of digits. Digits of the fraction after the ninth are dropped. A
zone must be given, as `Z`, `z`, `UTC` or an offset from it.
-/

namespace BuildYard.Instant

/-! ## Writing -/

/-- How many digits of the fraction are written. -/
inductive Precision where
  /-- None. -/
  | seconds
  /-- Six. -/
  | micros
  /-- None, three, six or nine: the fewest that are exact. -/
  | shortest

/-- The fraction of a second, with its point. -/
def writtenFraction (p : Precision) (nanos : Nat) : List Char :=
  match p with
  | .seconds => []
  | .micros => '.' :: Text.decimalPadded 6 (nanos / 1000)
  | .shortest =>
    if nanos = 0 then []
    else if nanos % 1000000 = 0 then '.' :: Text.decimalPadded 3 (nanos / 1000000)
    else if nanos % 1000 = 0 then '.' :: Text.decimalPadded 6 (nanos / 1000)
    else '.' :: Text.decimalPadded 9 nanos

/-- A year in four digits, with its sign outside 0 to 9999. -/
def writtenYear (y : Int) : List Char :=
  if 0 ≤ y ∧ y ≤ 9999 then Text.decimalPadded 4 y.toNat
  else (if y < 0 then '-' else '+') :: Text.decimalPadded 4 y.natAbs

/-- A date with hyphens between its fields. -/
def writtenDate (d : Date) : List Char :=
  writtenYear d.year ++ '-' :: Text.decimalPadded 2 d.month ++ '-' :: Text.decimalPadded 2 d.day

/-- The time of day with colons between its fields, and the fraction. -/
def writtenTime (p : Precision) (t : Instant) : List Char :=
  let s := t.secondOfDay
  let sixtieth := s % 60 + if t.isLeap then 1 else 0
  Text.decimalPadded 2 (s / 3600) ++ ':' :: Text.decimalPadded 2 (s / 60 % 60) ++
    ':' :: Text.decimalPadded 2 sixtieth ++ writtenFraction p (t.nanos % second)

/-- An instant in UTC with the zone written as `zone`. -/
def written (p : Precision) (zone : List Char) (t : Instant) : List Char :=
  writtenDate t.date ++ 'T' :: writtenTime p t ++ zone

/-- An instant with the fewest digits that are exact and the zone `Z`. -/
def isoText (t : Instant) : String := String.ofList (written .shortest ['Z'] t)

/-- An instant with the fewest digits that are exact and the zone `+00:00`. -/
def offsetText (t : Instant) : String :=
  String.ofList (written .shortest ['+', '0', '0', ':', '0', '0'] t)

/-- An instant in whole seconds with the zone `Z`. -/
def secondsText (t : Instant) : String := String.ofList (written .seconds ['Z'] t)

/-- An instant in microseconds with the zone `Z`. -/
def microsText (t : Instant) : String := String.ofList (written .micros ['Z'] t)

/-! ## Reading -/

/-- A number of one to `width` digits, after any white space. -/
def number? (width : Nat) (s : List Char) : Option (Nat × List Char) :=
  let s := Text.trimStart s
  let digits := (s.take width).takeWhile Char.isDigit
  if digits.isEmpty then none
  else some (Nat.ofDigitChars 10 digits 0, s.drop digits.length)

/-- A year: up to four digits, or any number of digits after a sign. -/
def year? (s : List Char) : Option (Int × List Char) :=
  match Text.trimStart s with
  | '-' :: rest => if rest.head?.any Char.isDigit then
      (number? rest.length rest).map fun (n, after) => (-(n : Int), after) else none
  | '+' :: rest => if rest.head?.any Char.isDigit then
      (number? rest.length rest).map fun (n, after) => ((n : Int), after) else none
  | s => (number? 4 s).map fun (n, after) => ((n : Int), after)

/-- What follows a separator that may stand after white space. -/
def after? (sep : Char) (s : List Char) : Option (List Char) :=
  match Text.trimStart s with
  | c :: rest => if c = sep then some rest else none
  | [] => none

/-- A date at the start of a text. -/
def date? (s : List Char) : Option (Date × List Char) := do
  let (year, s) ← year? s
  let (month, s) ← number? 2 (← after? '-' s)
  let (day, s) ← number? 2 (← after? '-' s)
  let d : Date := ⟨year, month, day⟩
  if d.isValid && -262143 ≤ year && year ≤ 262142 then some (d, s) else none

/-- The nanoseconds of a fraction, zero if there is none. -/
def fraction? (s : List Char) : Option (Nat × List Char) :=
  match s with
  | '.' :: rest =>
    let digits := rest.takeWhile Char.isDigit
    if digits.isEmpty then none
    else
      let kept := digits.take 9
      some (Nat.ofDigitChars 10 kept 0 * tenTo (9 - kept.length), rest.drop digits.length)
  | _ => some (0, s)

/-- A time of day at the start of a text, in seconds since midnight and nanoseconds. Second 60 is a
leap second. -/
def time? (s : List Char) : Option (Nat × Nat × List Char) := do
  let (hour, s) ← number? 2 s
  let (minute, s) ← number? 2 (← after? ':' s)
  let (sec, s) ← number? 2 (← after? ':' s)
  let (nanos, s) ← fraction? s
  if hour < 24 ∧ minute < 60 ∧ sec ≤ 60 then
    if sec = 60 then some (hour * 3600 + minute * 60 + 59, second + nanos, s)
    else some (hour * 3600 + minute * 60 + sec, nanos, s)
  else none

/-- Two digits at the start of a text. -/
def twoDigits? : List Char → Option (Nat × List Char)
  | a :: b :: rest =>
    if a.isDigit && b.isDigit then some (Nat.ofDigitChars 10 [a, b] 0, rest) else none
  | _ => none

/-- An offset from UTC in seconds, after its sign: two digits of hours below 24 and two of minutes,
with or without colons and white space between them. -/
def offset? (s : List Char) : Option (Nat × List Char) := do
  let (hours, s) ← twoDigits? s
  let (minutes, s) ← twoDigits? (s.dropWhile fun c => c == ':' || Text.isBlank c)
  if hours < 24 && minutes < 60 then some (hours * 3600 + minutes * 60, s) else none

/-- A zone at the start of a text, as its offset from UTC in seconds. -/
def zone? (s : List Char) : Option (Int × List Char) :=
  match s with
  | 'Z' :: rest => some (0, rest)
  | 'z' :: rest => some (0, rest)
  | '+' :: rest => (offset? rest).map fun (n, after) => ((n : Int), after)
  | '-' :: rest => (offset? rest).map fun (n, after) => (-(n : Int), after)
  | '\u2212' :: rest => (offset? rest).map fun (n, after) => (-(n : Int), after)
  | _ =>
    if (s.take 3).map Char.toUpper = ['U', 'T', 'C'] then some (0, s.drop 3) else none

/-- The instant that a text stands for. -/
def ofChars? (s : List Char) : Option Instant := do
  let (d, s) ← date? s
  let s ← match s with
    | c :: rest => if c = 'T' ∨ c = 't' ∨ c = ' ' then some rest else none
    | [] => none
  let (sec, nanos, s) ← time? s
  let (offset, s) ← zone? (Text.trimStart s)
  if (Text.trimStart s).isEmpty then of? (d.toDay * 86400 + sec - offset) nanos else none

/-- The instant that a text stands for. -/
def ofText? (s : String) : Option Instant := ofChars? s.toList

end BuildYard.Instant
