import BuildYard.Http.Vocabulary
/-!
# Media types

A media type is `type/subtype`, perhaps with a suffix after a plus sign, perhaps with parameters
after semicolons. `MediaType.of?` reads one; the case of letters does not count.
-/

namespace BuildYard.Http

/-! ## Parameters -/

/-- Where in the parameters of a media type a character stands. -/
inductive ParameterPlace where
  /-- Before a parameter. -/
  | before
  | name
  | valueStart
  | value
  | quotedStart
  | quoted
  /-- After the closing quote of a value. -/
  | afterQuoted
  deriving DecidableEq, Repr

namespace ParameterPlace

/-- A character that may stand between quotes. -/
def isQuotable (c : Char) : Bool := 0x20 ≤ c.toNat && c.toNat < 0x7F

/-- The place after one more character, if the character may stand there. A value between quotes
has at least one character, and the first one may be a quote. -/
def next? : ParameterPlace → Char → Option ParameterPlace
  | .before, c => if c = ' ' then some .before else if isTokenChar c then some .name else none
  | .name, c => if c = '=' then some .valueStart else if isTokenChar c then some .name else none
  | .valueStart, c =>
    if c = '"' then some .quotedStart else if isTokenChar c then some .value else none
  | .value, c => if c = ';' then some .before else if isTokenChar c then some .value else none
  | .quotedStart, c => if isQuotable c then some .quoted else none
  | .quoted, c => if c = '"' then some .afterQuoted else if isQuotable c then some .quoted else none
  | .afterQuoted, c => if c = ';' then some .before else if c = ' ' then some .afterQuoted else none

/-- May the parameters end here? -/
def mayEnd : ParameterPlace → Bool
  | .before | .valueStart | .value | .afterQuoted => true
  | .name | .quotedStart | .quoted => false

end ParameterPlace

/-- Is this a list of parameters? -/
def areParameters (s : List Char) : Bool :=
  (s.foldlM ParameterPlace.next? .before).any (·.mayEnd)

/-! ## Media types -/

/-- A media type without its parameters, in lower case. -/
structure MediaType where
  type_ : List Char
  subtype : List Char
  suffix : Option (List Char)
  deriving DecidableEq, Repr

namespace MediaType

/-- A subtype and its suffix, which is what stands after the last plus sign; a plus sign in front
starts no suffix. -/
def cutSuffix (s : List Char) : List Char × Option (List Char) :=
  let suffix := (s.reverse.takeWhile (· ≠ '+')).reverse
  if suffix.length + 1 < s.length then (s.take (s.length - suffix.length - 1), some suffix)
  else (s, none)

/-- The media type that a text stands for. -/
def of? (s : List Char) : Option MediaType := do
  let s := s.map Char.toLower
  let type_ := s.takeWhile isTokenChar
  if type_.isEmpty then none
  match s.drop type_.length with
  | '/' :: rest =>
    let (subtype, suffix) := cutSuffix (rest.takeWhile isTokenChar)
    match rest.dropWhile isTokenChar with
    | [] => some { type_, subtype, suffix }
    | ';' :: parameters =>
      if !subtype.isEmpty && areParameters parameters then some { type_, subtype, suffix } else none
    | _ => none
  | _ => none

/-- Does the media type announce JSON? -/
def isJson (m : MediaType) : Bool :=
  let json := "json".toList
  m.type_ == "application".toList && (m.subtype == json || m.suffix == some json)

end MediaType

end BuildYard.Http
