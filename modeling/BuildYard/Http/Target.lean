import BuildYard.Text.Pieces
/-!
# Targets of requests

What a request is for: a path, and perhaps a query after a question mark. A target may also name the
authority that has the path, behind a scheme, or the authority alone. A fragment after a number sign
is dropped, and may hold anything.
-/

namespace BuildYard.Http

/-- The target of a request. -/
structure Target where
  path : List Char
  query : Option (List Char)
  deriving DecidableEq, Repr

/-- The most octets that a target may have. -/
def maxTargetOctets : Nat := 65534

/-! ## Paths and queries -/

/-- An ASCII character that may stand in the path of a target. -/
def isPathChar (c : Char) : Bool :=
  let n := c.toNat
  n == 0x21 || n == 0x22 || (0x24 ≤ n && n ≤ 0x3B) || n == 0x3D || (0x40 ≤ n && n ≤ 0x5F) ||
    (0x61 ≤ n && n ≤ 0x7E)

/-- An ASCII character that may stand in the query of a target. -/
def isQueryChar (c : Char) : Bool :=
  let n := c.toNat
  n == 0x21 || (0x24 ≤ n && n ≤ 0x3B) || n == 0x3D || (0x3F ≤ n && n ≤ 0x7E)

/-- The target that a path stands for, perhaps with a query and a fragment behind it. With
`anyScript`, characters outside ASCII are allowed. -/
def Target.ofPath? (anyScript : Bool) (s : List Char) : Option Target :=
  let s := s.takeWhile (· ≠ '#')
  let path := s.takeWhile (· ≠ '?')
  let foreign (c : Char) : Bool := anyScript && 0x80 ≤ c.toNat
  if path.all fun c => isPathChar c || foreign c then
    match s.drop path.length with
    | [] => some ⟨path, none⟩
    | _ :: query =>
      if query.all fun c => isQueryChar c || foreign c then some ⟨path, some query⟩ else none
  else none

/-- A path and a query of their characters are read back. -/
theorem Target.ofPath?_append {path query : List Char} (hpath : ∀ c ∈ path, isPathChar c = true)
    (hquery : ∀ c ∈ query, isQueryChar c = true) :
    Target.ofPath? false (path ++ '?' :: query) = some ⟨path, some query⟩ := by
  have hsharp : ∀ c ∈ path ++ '?' :: query, c ≠ '#' := by
    intro c hc h
    subst h
    rw [List.mem_append, List.mem_cons] at hc
    rcases hc with h | h | h
    · exact absurd (hpath _ h) (by decide)
    · exact absurd h (by decide)
    · exact absurd (hquery _ h) (by decide)
  have hmark : ∀ c ∈ path, c ≠ '?' := by
    intro c hc h
    subst h
    exact absurd (hpath _ hc) (by decide)
  have htarget : (path ++ '?' :: query).takeWhile (· ≠ '#') = path ++ '?' :: query := by
    have hall : ((path ++ '?' :: query) ++ []).takeWhile (· ≠ '#') =
      (path ++ '?' :: query) ++ [].takeWhile (· ≠ '#') :=
        List.takeWhile_append_of_pos (by simpa using hsharp)
    rwa [List.takeWhile_nil, List.append_nil] at hall
  have hcut : (path ++ '?' :: query).takeWhile (· ≠ '?') = path := by
    rw [List.takeWhile_append_of_pos (by simpa using hmark)]
    simp
  simp only [Target.ofPath?, htarget, hcut, List.drop_left]
  rw [if_pos (by simpa using hpath), if_pos (by simpa using hquery)]

/-! ## Authorities -/

/-- A character that may stand anywhere in an authority. -/
def isAuthorityChar (c : Char) : Bool := c.isAlphanum || "!$&\x27()*+,-.;=_~".toList.contains c

/-- What was seen of an authority so far. Colons and percent signs are those since the last at sign
or closing bracket: the ones before belong to the user or to an address in brackets. -/
structure AuthorityScan where
  colons : Nat := 0
  isEncoded : Bool := false
  isOpened : Bool := false
  isClosed : Bool := false

/-- What was seen with one more character. There is one pair of brackets at most, and no address has
more than eight colons. -/
def AuthorityScan.next? (a : AuthorityScan) (c : Char) : Option AuthorityScan :=
  if c = ':' then if a.colons < 8 then some { a with colons := a.colons + 1 } else none
  else if c = '[' then if a.isEncoded || a.isOpened then none else some { a with isOpened := true }
  else if c = ']' then
    if a.isOpened && !a.isClosed then
      some { a with isClosed := true, colons := 0, isEncoded := false }
    else none
  else if c = '@' then some { a with colons := 0, isEncoded := false }
  else if c = '%' then some { a with isEncoded := true }
  else if isAuthorityChar c then some a
  else none

/-- Is a text an authority: perhaps a user and an at sign, then a host, then perhaps a colon and a
port? -/
def isAuthority (s : List Char) : Bool :=
  !s.isEmpty && s.getLast? != some '@' &&
    (s.foldlM AuthorityScan.next? {}).any fun a =>
      a.isOpened == a.isClosed && a.colons ≤ 1 && !a.isEncoded

/-- A character that may stand in a scheme. -/
def isSchemeChar (c : Char) : Bool := c.isAlphanum || "+-.~".toList.contains c

/-- The longest scheme. -/
def maxScheme : Nat := 64

/-- The scheme at the start of a text and what follows the mark behind it. -/
def cutScheme? (s : List Char) : Option (List Char × List Char) :=
  match Text.cutAt? [':', '/', '/'] s with
  | some (scheme, rest) => if scheme.all isSchemeChar then some (scheme, rest) else none
  | none => none

/-- Does a character end an authority? -/
def endsAuthority (c : Char) : Bool := c = '/' || c = '?' || c = '#'

/-- The target behind a scheme: an authority, and the path that it has, a slash if there is none. -/
def Target.ofAuthority? (s : List Char) : Option Target :=
  let authority := s.takeWhile (!endsAuthority ·)
  if isAuthority authority then
    (Target.ofPath? true (s.drop authority.length)).map fun t =>
      { t with path := if t.path.isEmpty then ['/'] else t.path }
  else none

/-- The target that a text stands for. -/
def Target.of? (text : String) : Option Target :=
  let s := text.toList
  if maxTargetOctets < text.utf8ByteSize then none
  else if s.head? = some '/' then Target.ofPath? true s
  else match cutScheme? s with
    | some (scheme, rest) => if scheme.length ≤ maxScheme then Target.ofAuthority? rest else none
    | none => if isAuthority s then some ⟨[], none⟩ else none

end BuildYard.Http
