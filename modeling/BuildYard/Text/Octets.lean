/-!
# Texts as octets

UTF-8 in both directions. Reading never fails: a run of octets that is the beginning of no
character is reported as one `none`, as long as the run is the longest beginning of a well-formed
sequence. A strict reader then refuses a text with a `none` in it, a lenient one puts U+FFFD there.
-/

namespace BuildYard.Text

/-- The UTF-8 octets of a text. -/
def octets (s : List Char) : List UInt8 := (String.ofList s).toUTF8.toList

/-- The beginning of a character: the bits so far, the number of octets still to come, and the
range in which the next of them lies. -/
structure Opening where
  bits : Nat
  missing : Nat
  low : UInt8 := 0x80
  high : UInt8 := 0xBF

/-- What one octet is at the start of a character. -/
inductive Lead where
  | whole (c : Char)
  | opens (o : Opening)
  | stray

/-- The table of well-formed first octets. -/
def Lead.of (b : UInt8) : Lead :=
  if b < 0x80 then .whole (Char.ofNat b.toNat)
  else if b < 0xC2 then .stray
  else if b < 0xE0 then .opens { bits := b.toNat - 0xC0, missing := 1 }
  else if b = 0xE0 then .opens { bits := 0, missing := 2, low := 0xA0 }
  else if b = 0xED then .opens { bits := 0xD, missing := 2, high := 0x9F }
  else if b < 0xF0 then .opens { bits := b.toNat - 0xE0, missing := 2 }
  else if b = 0xF0 then .opens { bits := 0, missing := 3, low := 0x90 }
  else if b < 0xF4 then .opens { bits := b.toNat - 0xF0, missing := 3 }
  else if b = 0xF4 then .opens { bits := 4, missing := 3, high := 0x8F }
  else .stray

/-- The opening with one more octet, or the character that the octet completes. -/
def Opening.extend? (o : Opening) (b : UInt8) : Option (Char ⊕ Opening) :=
  if b < o.low || o.high < b then none
  else
    let bits := o.bits * 64 + (b.toNat - 0x80)
    if o.missing ≤ 1 then some (.inl (Char.ofNat bits))
    else some (.inr { bits, missing := o.missing - 1 })

/-- The characters of a list of octets, with `none` for each malformed run. -/
def decodeFrom (pending : Option Opening) : List UInt8 → List (Option Char)
  | [] => if pending.isSome then [none] else []
  | b :: rest =>
    match pending.bind (·.extend? b) with
    | some (.inl c) => some c :: decodeFrom none rest
    | some (.inr o) => decodeFrom (some o) rest
    | none =>
      let broken : List (Option Char) := if pending.isSome then [none] else []
      match Lead.of b with
      | .whole c => broken ++ some c :: decodeFrom none rest
      | .opens o => broken ++ decodeFrom (some o) rest
      | .stray => broken ++ none :: decodeFrom none rest

/-- The text of a list of octets if they are well-formed UTF-8. -/
def ofOctets? (bs : List UInt8) : Option (List Char) := (decodeFrom none bs).mapM id

/-- The text of a list of octets, with U+FFFD for each malformed run. -/
def ofOctetsLenient (bs : List UInt8) : List Char :=
  (decodeFrom none bs).map (·.getD '\uFFFD')

end BuildYard.Text
