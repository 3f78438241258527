import BuildYard.Text.Digits
import BuildYard.Text.Octets
/-!
# Percent encoding

A percent sign and two hexadecimal digits stand for one octet of a text in UTF-8; a percent sign
without them stands for itself. In a form, a plus sign stands for a space besides.
-/

namespace BuildYard.Text

/-- The octets that a percent-encoded text stands for. -/
def percentDecode : List UInt8 → List UInt8
  | [] => []
  | b :: rest =>
    match rest with
    | h :: l :: rest' =>
      if b = 0x25 then
        match hexValue? (Char.ofNat h.toNat), hexValue? (Char.ofNat l.toNat) with
        | some hi, some lo => UInt8.ofNat (16 * hi + lo) :: percentDecode rest'
        | _, _ => b :: percentDecode (h :: l :: rest')
      else b :: percentDecode (h :: l :: rest')
    | short => b :: percentDecode short

/-- The text that a percent-encoded path segment stands for, if it is well-formed UTF-8. -/
def ofSegment? (s : List Char) : Option (List Char) := ofOctets? (percentDecode (octets s))

/-- The text that a form-encoded name or value stands for. -/
def ofForm (s : List Char) : List Char :=
  ofOctetsLenient (percentDecode ((octets s).map fun b => if b = 0x2B then 0x20 else b))

/-- Characters that stand for themselves in a form. -/
def isFormPlain (c : Char) : Bool :=
  c.isAlphanum || c == '*' || c == '-' || c == '.' || c == '_'

/-- The form encoding of a text: a space becomes a plus sign, and every octet of a character that
does not stand for itself becomes a percent sign and two upper-case hexadecimal digits. -/
def toForm (s : List Char) : List Char :=
  s.flatMap fun c =>
    if isFormPlain c then [c]
    else if c == ' ' then ['+']
    else (octets [c]).flatMap fun b => '%' :: (hexPadded 2 b.toNat).map Char.toUpper

theorem toForm_append (s t : List Char) : toForm (s ++ t) = toForm s ++ toForm t :=
  List.flatMap_append

theorem toForm_of_plain {s : List Char} (h : ∀ c ∈ s, isFormPlain c = true) : toForm s = s := by
  induction s with
  | nil => rfl
  | cons c s ih =>
    have hc := h c List.mem_cons_self
    have hs := ih fun c hc => h c (List.mem_cons_of_mem _ hc)
    rw [toForm, List.flatMap_cons, if_pos hc, ← toForm, hs]
    rfl

end BuildYard.Text
