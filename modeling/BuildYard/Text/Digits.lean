/-!
# Numbers in decimal and hexadecimal digits

Reading uses `Nat.ofDigitChars`, writing `Nat.toDigits`; `ofDecimal?_decimal` says that the two agree.
-/

namespace BuildYard.Text

/-- The decimal digits of a number, without leading zeros. -/
def decimal (n : Nat) : List Char := Nat.toDigits 10 n

/-- The number that a non-empty run of decimal digits stands for; leading zeros do not count. -/
def ofDecimal? (s : List Char) : Option Nat :=
  if s.isEmpty || !s.all Char.isDigit then none else some (Nat.ofDigitChars 10 s 0)

/-- The decimal digits of a number, with zeros in front up to `width` digits. -/
def decimalPadded (width n : Nat) : List Char :=
  let digits := decimal n
  List.replicate (width - digits.length) '0' ++ digits

/-- A number with a minus sign if it is negative. -/
def signedDecimal (i : Int) : List Char :=
  if i < 0 then '-' :: decimal i.natAbs else decimal i.natAbs

/-- The value of a hexadecimal digit of either case. -/
def hexValue? (c : Char) : Option Nat :=
  if '0' ≤ c && c ≤ '9' then some (c.toNat - '0'.toNat)
  else if 'a' ≤ c && c ≤ 'f' then some (c.toNat - 'a'.toNat + 10)
  else if 'A' ≤ c && c ≤ 'F' then some (c.toNat - 'A'.toNat + 10)
  else none

/-- The number that a non-empty run of hexadecimal digits stands for. -/
def ofHex? (s : List Char) : Option Nat :=
  if s.isEmpty then none
  else s.foldlM (fun n c => (hexValue? c).map (16 * n + ·)) 0

/-- The hexadecimal digits of a number in lower case, with zeros in front up to `width` digits. -/
def hexPadded (width n : Nat) : List Char :=
  let digits := Nat.toDigits 16 n
  List.replicate (width - digits.length) '0' ++ digits

theorem isDigit_of_mem_decimal {n : Nat} {c : Char} (h : c ∈ decimal n) : c.isDigit = true :=
  Nat.isDigit_of_mem_toDigits (by decide) (by decide) h

theorem decimal_ne_nil (n : Nat) : decimal n ≠ [] := Nat.toDigits_ne_nil

theorem isDigit_of_mem_decimalPadded {width n : Nat} {c : Char} (h : c ∈ decimalPadded width n) :
    c.isDigit = true := by
  rcases List.mem_append.1 h with h | h
  · rw [List.eq_of_mem_replicate h]
    rfl
  · exact isDigit_of_mem_decimal h

/-- Zeros in front do not count. -/
theorem ofDigitChars_decimalPadded (width n : Nat) :
    Nat.ofDigitChars 10 (decimalPadded width n) 0 = n := by
  rw [decimalPadded, Nat.ofDigitChars_append, Nat.ofDigitChars_replicate_zero, Nat.mul_zero]
  exact Nat.ofDigitChars_ten_toDigits

theorem ofDecimal?_decimalPadded (width n : Nat) : ofDecimal? (decimalPadded width n) = some n := by
  have hall : (decimalPadded width n).all Char.isDigit = true :=
    List.all_eq_true.2 fun _ hc => isDigit_of_mem_decimalPadded hc
  have hne : (decimalPadded width n).isEmpty = false :=
    List.isEmpty_eq_false_iff.2 (List.append_ne_nil_of_right_ne_nil _ (decimal_ne_nil n))
  rw [ofDecimal?, hall, hne]
  exact congrArg some (ofDigitChars_decimalPadded width n)

theorem ofDecimal?_decimal (n : Nat) : ofDecimal? (decimal n) = some n := by
  have hpadded := ofDecimal?_decimalPadded 0 n
  rwa [decimalPadded, Nat.zero_sub] at hpadded

/-- Different numbers have different digits. -/
theorem decimal_inj {m n : Nat} : decimal m = decimal n ↔ m = n := by
  refine ⟨fun h => ?_, congrArg decimal⟩
  have hread := congrArg ofDecimal? h
  rw [ofDecimal?_decimal, ofDecimal?_decimal] at hread
  exact Option.some.inj hread

theorem signedDecimal_eq_toString (i : Int) : String.ofList (signedDecimal i) = toString i := by
  cases i with
  | ofNat n => rfl
  | negSucc n =>
    rw [signedDecimal, if_pos (Int.negSucc_lt_zero n)]
    show String.ofList (['-'] ++ decimal (n + 1)) = "-" ++ (n + 1).repr
    rw [String.ofList_append]
    rfl

/-! ## Letters and digits -/

/-- The letters and digits are those of ASCII. -/
theorem isAlphanum_iff {c : Char} :
    c.isAlphanum = true ↔ ('A' ≤ c ∧ c ≤ 'Z') ∨ ('a' ≤ c ∧ c ≤ 'z') ∨ ('0' ≤ c ∧ c ≤ '9') := by
  show ((decide (65 ≤ c.val ∧ c.val ≤ 90) || decide (97 ≤ c.val) && decide (c.val ≤ 122)) ||
    decide (48 ≤ c.val) && decide (c.val ≤ 57)) = true ↔ _
  simp only [Bool.or_eq_true, Bool.and_eq_true, decide_eq_true_eq, or_assoc]
  rfl

theorem toNat_of_isAlphanum {c : Char} (h : c.isAlphanum = true) :
    (48 ≤ c.toNat ∧ c.toNat ≤ 57) ∨ (65 ≤ c.toNat ∧ c.toNat ≤ 90) ∨
      (97 ≤ c.toNat ∧ c.toNat ≤ 122) := by
  have hle : ∀ a b : Char, a ≤ b ↔ a.toNat ≤ b.toNat := fun _ _ => UInt32.le_iff_toNat_le
  simp only [isAlphanum_iff, hle, Char.reduceToNat] at h
  omega

end BuildYard.Text
