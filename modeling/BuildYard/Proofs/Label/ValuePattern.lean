import BuildYard.Proofs.Label.BuildName
import Mathlib.Computability.RegularExpressions
/-!
# The pattern of label values

Kubernetes gives the form of a label value as a pattern, one optional part inside another. Here values
are checked without it, by which characters they have and which of them stand at the ends. The two say
the same of every text.

* `labelPattern`: the pattern, as a regular expression.
* `mem_labelPattern_iff`: it matches the empty text and the texts with the form of a label value.
* `checkLabelValue_decides`: which values are taken, and what is said of the others.
-/

namespace BuildYard

/-! ## Expressions for classes of characters -/

/-- One of these characters. -/
def oneOf (cs : List Char) : RegularExpression Char := (cs.map .char).sum

/-- Nothing, or what the expression matches. -/
def optionally (p : RegularExpression Char) : RegularExpression Char := 1 + p

theorem mem_oneOf_iff {cs s : List Char} : s ∈ (oneOf cs).matches' ↔ ∃ c ∈ cs, s = [c] := by
  induction cs with
  | nil => exact iff_of_false (Language.notMem_zero s) (by simp)
  | cons c cs ih =>
    show s ∈ ({[c]} + (oneOf cs).matches' : Language Char) ↔ _
    rw [Language.mem_add, ih, List.exists_mem_cons_iff]
    rfl

/-- Repeated, a class matches the texts with nothing but its characters. -/
theorem mem_star_oneOf_iff {cs s : List Char} :
    s ∈ (oneOf cs).star.matches' ↔ ∀ c ∈ s, c ∈ cs := by
  rw [RegularExpression.matches'_star, Language.mem_kstar]
  constructor
  · rintro ⟨parts, rfl, hparts⟩ c hc
    obtain ⟨part, hpart, hc⟩ := List.mem_flatten.1 hc
    obtain ⟨d, hd, rfl⟩ := mem_oneOf_iff.1 (hparts part hpart)
    obtain rfl := List.mem_singleton.1 hc
    exact hd
  · intro h
    refine ⟨s.map fun c => [c], by simp [← List.flatMap_def], fun part hpart => ?_⟩
    obtain ⟨c, hc, rfl⟩ := List.mem_map.1 hpart
    exact mem_oneOf_iff.2 ⟨c, h c hc, rfl⟩

theorem mem_optionally_iff {p : RegularExpression Char} {s : List Char} :
    s ∈ (optionally p).matches' ↔ s = [] ∨ s ∈ p.matches' := by
  rw [optionally, RegularExpression.matches'_add, Language.mem_add, RegularExpression.matches'_epsilon,
    Language.mem_one]

theorem mem_mul_oneOf_iff {p : RegularExpression Char} {cs s : List Char} :
    s ∈ (p * oneOf cs).matches' ↔ ∃ front ∈ p.matches', ∃ c ∈ cs, s = front ++ [c] := by
  rw [RegularExpression.matches'_mul, Language.mem_mul]
  constructor
  · rintro ⟨front, hfront, last, hlast, rfl⟩
    obtain ⟨c, hc, rfl⟩ := mem_oneOf_iff.1 hlast
    exact ⟨front, hfront, c, hc, rfl⟩
  · rintro ⟨front, hfront, c, hc, rfl⟩
    exact ⟨front, hfront, [c], mem_oneOf_iff.2 ⟨c, hc, rfl⟩, rfl⟩

theorem mem_oneOf_mul_iff {p : RegularExpression Char} {cs s : List Char} :
    s ∈ (oneOf cs * p).matches' ↔ ∃ c ∈ cs, ∃ rest ∈ p.matches', s = c :: rest := by
  rw [RegularExpression.matches'_mul, Language.mem_mul]
  constructor
  · rintro ⟨first, hfirst, rest, hrest, rfl⟩
    obtain ⟨c, hc, rfl⟩ := mem_oneOf_iff.1 hfirst
    exact ⟨c, hc, rest, hrest, rfl⟩
  · rintro ⟨c, hc, rest, hrest, rfl⟩
    exact ⟨[c], mem_oneOf_iff.2 ⟨c, hc, rfl⟩, rest, hrest, rfl⟩

/-! ## The two classes -/

/-- The characters from one to another, both included. -/
def charRange (first last : Char) : List Char :=
  (List.range' first.toNat (last.toNat + 1 - first.toNat)).map Char.ofNat

/-- No number up to the last character of a range is kept for surrogates. -/
theorem mem_charRange_iff {first last c : Char} (h : last.toNat < 0xD800) :
    c ∈ charRange first last ↔ first ≤ c ∧ c ≤ last := by
  have hle : ∀ a b : Char, a ≤ b ↔ a.toNat ≤ b.toNat := fun _ _ => UInt32.le_iff_toNat_le
  rw [charRange, List.mem_map, hle, hle]
  constructor
  · rintro ⟨n, hn, rfl⟩
    have hn := List.mem_range'_1.1 hn
    have hvalid : n.isValidChar := .inl (by omega)
    have hsame : (Char.ofNat n).toNat = n := by
      rw [Char.ofNat, dif_pos hvalid]
      rfl
    omega
  · rintro ⟨hfirst, hlast⟩
    exact ⟨c.toNat, List.mem_range'_1.2 (by omega), Char.ofNat_toNat c⟩

/-- `[A-Za-z0-9]` -/
def edgeClass : List Char := charRange 'A' 'Z' ++ charRange 'a' 'z' ++ charRange '0' '9'

/-- `[-A-Za-z0-9_.]` -/
def innerClass : List Char := '-' :: edgeClass ++ ['_', '.']

theorem mem_edgeClass_iff {c : Char} : c ∈ edgeClass ↔ isLabelEdge c = true := by
  rw [isLabelEdge, Text.isAlphanum_iff, edgeClass, List.mem_append, List.mem_append,
    mem_charRange_iff (by decide), mem_charRange_iff (by decide), mem_charRange_iff (by decide),
    or_assoc]

theorem mem_innerClass_iff {c : Char} : c ∈ innerClass ↔ isLabelInner c = true := by
  simp only [innerClass, List.cons_append, List.mem_cons, List.mem_append, mem_edgeClass_iff,
    isLabelEdge, isLabelInner, Bool.or_eq_true, beq_iff_eq, List.not_mem_nil, or_false]
  tauto

/-! ## The pattern -/

/-- `(([A-Za-z0-9][-A-Za-z0-9_.]*)?[A-Za-z0-9])?` -/
def labelPattern : RegularExpression Char :=
  optionally (optionally (oneOf edgeClass * (oneOf innerClass).star) * oneOf edgeClass)

/-- The pattern matches what ends in an edge character and has nothing in front of it, or an edge
character and then inner ones. -/
theorem mem_labelPattern_iff_append {s : List Char} :
    s ∈ labelPattern.matches' ↔ s = [] ∨ ∃ front last, s = front ++ [last] ∧
      isLabelEdge last = true ∧ (front = [] ∨ ∃ first middle, front = first :: middle ∧
        isLabelEdge first = true ∧ ∀ c ∈ middle, isLabelInner c = true) := by
  simp only [labelPattern, mem_optionally_iff, mem_mul_oneOf_iff, mem_oneOf_mul_iff,
    mem_star_oneOf_iff, mem_edgeClass_iff, mem_innerClass_iff]
  refine or_congr_right ⟨?_, ?_⟩
  · rintro ⟨front, hfront, last, hlast, rfl⟩
    refine ⟨front, last, rfl, hlast, hfront.imp_right ?_⟩
    rintro ⟨first, hfirst, middle, hmiddle, rfl⟩
    exact ⟨first, middle, rfl, hfirst, hmiddle⟩
  · rintro ⟨front, last, rfl, hlast, hfront⟩
    refine ⟨front, hfront.imp_right ?_, last, hlast, rfl⟩
    rintro ⟨first, middle, rfl, hfirst, hmiddle⟩
    exact ⟨first, hfirst, middle, hmiddle, rfl⟩

/-- **The pattern matches the empty text and the texts with the form of a label value.** -/
theorem mem_labelPattern_iff {s : List Char} :
    s ∈ labelPattern.matches' ↔ s = [] ∨ isLabelForm s = true := by
  rw [mem_labelPattern_iff_append]
  refine or_congr_right ?_
  simp only [isLabelForm, Bool.and_eq_true, List.all_eq_true, Option.any_eq_true]
  constructor
  · rintro ⟨front, last, rfl, hlast, rfl | ⟨first, middle, rfl, hfirst, hmiddle⟩⟩
    · -- one character is at both ends
      have hinner := isLabelInner_of_isLabelEdge hlast
      exact ⟨⟨by simpa using hinner, last, rfl, hlast⟩, last, rfl, hlast⟩
    · refine ⟨⟨fun c hc => ?_, first, rfl, hfirst⟩, last,
        List.getLast?_concat, hlast⟩
      rcases List.mem_append.1 hc with hc | hc
      · rcases List.mem_cons.1 hc with rfl | hc
        · exact isLabelInner_of_isLabelEdge hfirst
        · exact hmiddle c hc
      · rw [List.mem_singleton.1 hc]
        exact isLabelInner_of_isLabelEdge hlast
  · rintro ⟨⟨hinner, first, hfirst, hfirstEdge⟩, last, hlast, hlastEdge⟩
    obtain ⟨front, rfl⟩ := List.getLast?_eq_some_iff.1 hlast
    refine ⟨front, last, rfl, hlastEdge, ?_⟩
    cases front with
    | nil => exact .inl rfl
    | cons c middle =>
      obtain rfl : c = first := by simpa using hfirst
      refine .inr ⟨c, middle, rfl, hfirstEdge, fun d hd => hinner d ?_⟩
      exact List.mem_append_left _ (List.mem_cons_of_mem _ hd)

/-! ## The check -/

/-- What is said of a value of the label `field` that is refused: the first that is wrong with it, of
having no octets, having more than 63 and not being matched by the pattern. -/
inductive Refuses (field value : String) : Failure → Prop
  | missing (none_there : value = "") :
      Refuses field value ⟨.validation, field ++ " must not be empty"⟩
  | tooLong (some_there : value ≠ "") (long : 63 < value.utf8ByteSize) :
      Refuses field value ⟨.validation,
        field ++ " must be at most 63 characters, got " ++ toString value.utf8ByteSize⟩
  | malformed (some_there : value ≠ "") (short : value.utf8ByteSize ≤ 63)
      (unmatched : value.toList ∉ labelPattern.matches') :
      Refuses field value ⟨.validation, field ++ " '" ++ value ++ "' is not a valid label value"⟩

theorem mem_labelPattern_toList_iff {value : String} (h : value ≠ "") :
    value.toList ∈ labelPattern.matches' ↔ isLabelForm value.toList = true := by
  rw [mem_labelPattern_iff, String.toList_eq_nil_iff, or_iff_right h]

theorem one_le_utf8ByteSize_iff {value : String} : 1 ≤ value.utf8ByteSize ↔ value ≠ "" := by
  rw [Nat.one_le_iff_ne_zero, ne_eq, String.utf8ByteSize_eq_zero_iff]

variable {field value : String} {e : Failure}

theorem text_tooLong (field value : String) (octets : Nat) :
    (LabelFault.tooLong octets).text field value =
      field ++ " must be at most 63 characters, got " ++ toString octets := by
  have hlimit : " must be at most " ++ String.ofList (Text.decimal maxLabelOctets) ++
      " characters, got " = " must be at most 63 characters, got " := by decide
  rw [← hlimit, LabelFault.text]
  simp only [String.append_assoc]
  rfl

theorem refuses_of_checkLabelValue (h : checkLabelValue field value = .error e) :
    Refuses field value e := by
  unfold checkLabelValue at h
  split at h
  · cases h
  · rename_i fault hfault
    cases h
    unfold labelFault? at hfault
    split at hfault
    · rename_i hnone
      cases hfault
      exact .missing (String.utf8ByteSize_eq_zero_iff.1 hnone)
    rename_i hsome
    rw [String.utf8ByteSize_eq_zero_iff] at hsome
    split at hfault
    · rename_i hlong
      cases hfault
      rw [text_tooLong]
      exact .tooLong hsome hlong
    rename_i hshort
    split at hfault
    · cases hfault
    · rename_i hform
      cases hfault
      exact .malformed hsome (Nat.le_of_not_lt hshort)
        (mt (mem_labelPattern_toList_iff hsome).1 hform)

theorem checkLabelValue_of_refuses (h : Refuses field value e) :
    checkLabelValue field value = .error e := by
  unfold checkLabelValue labelFault? maxLabelOctets
  cases h with
  | missing hnone =>
    rw [if_pos (String.utf8ByteSize_eq_zero_iff.2 hnone)]
    rfl
  | tooLong hsome hlong =>
    rw [if_neg (mt String.utf8ByteSize_eq_zero_iff.1 hsome), if_pos hlong,
      ← text_tooLong field value]
  | malformed hsome hshort hunmatched =>
    rw [if_neg (mt String.utf8ByteSize_eq_zero_iff.1 hsome), if_neg (Nat.not_lt_of_le hshort),
      if_neg (mt (mem_labelPattern_toList_iff hsome).2 hunmatched)]
    rfl

/-- **A value is taken when it has 1 to 63 octets, nothing but ASCII letters, digits, hyphens,
underscores and points, and a letter or a digit at both ends; or, which is the same, when it is not empty,
has at most 63 octets and is matched by the pattern from its start to its end.** Of any other value the
first check that it fails is named. -/
theorem checkLabelValue_decides (field value : String) :
    (checkLabelValue field value = .ok () ↔ 1 ≤ value.utf8ByteSize ∧ IsLabelValue value) ∧
      (checkLabelValue field value = .ok () ↔
        value ≠ "" ∧ value.utf8ByteSize ≤ 63 ∧ value.toList ∈ labelPattern.matches') ∧
      ∀ e, checkLabelValue field value = .error e ↔ Refuses field value e := by
  refine ⟨?_, ?_, fun e => ⟨refuses_of_checkLabelValue, checkLabelValue_of_refuses⟩⟩
  · rw [checkLabelValue_eq_ok_iff, labelFault?_eq_none_iff_isLabelValue, one_le_utf8ByteSize_iff]
    refine (and_iff_right_of_imp ?_).symm
    rintro h rfl
    obtain ⟨c, hc, -⟩ := h.starts
    simp at hc
  · rw [checkLabelValue_eq_ok_iff, labelFault?_eq_none_iff]
    constructor
    · rintro ⟨hshort, hform⟩
      have hsome : value ≠ "" := by
        rintro rfl
        simp [isLabelForm] at hform
      exact ⟨hsome, hshort, (mem_labelPattern_toList_iff hsome).2 hform⟩
    · rintro ⟨hsome, hshort, hmatched⟩
      exact ⟨hshort, (mem_labelPattern_toList_iff hsome).1 hmatched⟩

/-- Octets count and not characters: a letter with an accent has two of them. -/
example : checkLabelValue "jobID" (String.ofList (List.replicate 62 'a') ++ "é") =
    .error ⟨.validation, "jobID must be at most 63 characters, got 64"⟩ := by
  decide +kernel

end BuildYard
