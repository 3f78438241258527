/-!
# White space and empty texts

The characters with the Unicode property `White_Space`, and trimming them from the ends of a text.
The information separators U+001C to U+001F, the zero-width space U+200B and the byte order mark
U+FEFF do not have the property.
-/

namespace BuildYard.Text

/-- A text that is set and not empty. -/
def nonEmpty (s : Option String) : Option String := s.filter (· ≠ "")

theorem nonEmpty_eq_some_iff {text : Option String} {s : String} :
    nonEmpty text = some s ↔ text = some s ∧ s ≠ "" := by
  rw [nonEmpty, Option.filter_eq_some_iff, decide_eq_true_eq]

/-- The characters with the Unicode property `White_Space`. -/
def isBlank (c : Char) : Bool :=
  let n := c.toNat
  (9 ≤ n && n ≤ 13) || n == 0x20 || n == 0x85 || n == 0xA0 || n == 0x1680 ||
    (0x2000 ≤ n && n ≤ 0x200A) || n == 0x2028 || n == 0x2029 || n == 0x202F || n == 0x205F ||
    n == 0x3000

/-- A text without the white space at its start. -/
def trimStart (s : List Char) : List Char := s.dropWhile isBlank

/-- A text without the white space at its end. -/
def trimEnd (s : List Char) : List Char := (s.reverse.dropWhile isBlank).reverse

/-- A text without the white space at its two ends. -/
def trim (s : List Char) : List Char := trimEnd (trimStart s)

/-! ## Trimmed texts -/

/-- There is no white space at the two ends of a text. -/
structure IsTrimmed (s : List Char) : Prop where
  head : ∀ c, s.head? = some c → isBlank c = false
  getLast : ∀ c, s.getLast? = some c → isBlank c = false

theorem trimStart_eq_self {s : List Char} (h : ∀ c, s.head? = some c → isBlank c = false) :
    trimStart s = s := by
  cases s with
  | nil => rfl
  | cons c rest => rw [trimStart, List.dropWhile_cons, h c rfl]; rfl

theorem head?_trimStart (s : List Char) (c : Char) (h : (trimStart s).head? = some c) :
    isBlank c = false := by
  have hnot := List.head?_dropWhile_not isBlank s
  rw [trimStart] at h
  rw [h] at hnot
  simpa using hnot

theorem trimEnd_eq (s : List Char) : trimEnd s = (trimStart s.reverse).reverse := rfl

theorem trim_eq_self {s : List Char} (h : IsTrimmed s) : trim s = s := by
  have hend : trimStart s.reverse = s.reverse :=
    trimStart_eq_self fun c hc => h.getLast c (by rwa [List.head?_reverse] at hc)
  rw [trim, trimStart_eq_self h.head, trimEnd_eq, hend, List.reverse_reverse]

theorem isPrefix_trimEnd (s : List Char) : trimEnd s <+: s := by
  have hsuffix : trimStart s.reverse <:+ s.reverse := List.dropWhile_suffix isBlank
  rw [trimEnd_eq]
  exact List.reverse_suffix.1 (by rwa [List.reverse_reverse])

theorem isInfix_trim (s : List Char) : trim s <:+: s :=
  (isPrefix_trimEnd (trimStart s)).isInfix.trans (List.dropWhile_suffix isBlank).isInfix

theorem isTrimmed_trim (s : List Char) : IsTrimmed (trim s) where
  head := by
    intro c hc
    obtain ⟨rest, hrest⟩ := isPrefix_trimEnd (trimStart s)
    refine head?_trimStart s c ?_
    rw [← hrest, List.head?_append]
    show (trim s).head?.or _ = _
    rw [hc]
    rfl
  getLast := by
    intro c hc
    rw [trim, trimEnd_eq, List.getLast?_reverse] at hc
    exact head?_trimStart _ c hc

/-! ## White space around a text -/

/-- The text is white space and nothing else. -/
def AllBlank (s : List Char) : Prop := ∀ c ∈ s, isBlank c = true

instance (s : List Char) : Decidable (AllBlank s) := inferInstanceAs (Decidable (∀ c ∈ s, _))

theorem AllBlank.append {w w' : List Char} (hw : AllBlank w) (hw' : AllBlank w') :
    AllBlank (w ++ w') :=
  List.forall_mem_append.2 ⟨hw, hw'⟩

theorem trimStart_append {w : List Char} (hw : AllBlank w) (s : List Char) :
    trimStart (w ++ s) = trimStart s :=
  List.dropWhile_append_of_pos hw

theorem trimStart_eq_nil {w : List Char} (hw : AllBlank w) : trimStart w = [] := by
  have h := trimStart_append hw []
  rwa [List.append_nil] at h

theorem trimEnd_append {w : List Char} (hw : AllBlank w) (s : List Char) :
    trimEnd (s ++ w) = trimEnd s := by
  have hreverse : AllBlank w.reverse := fun c hc => hw c (List.mem_reverse.1 hc)
  rw [trimEnd_eq, List.reverse_append, trimStart_append hreverse, ← trimEnd_eq]

/-- A trimmed text is found again between white space. -/
theorem trim_around {w t w' : List Char} (hw : AllBlank w) (ht : IsTrimmed t) (hw' : AllBlank w') :
    trim (w ++ t ++ w') = t := by
  rw [trim, List.append_assoc, trimStart_append hw]
  cases t with
  | nil =>
    rw [List.nil_append, trimStart_eq_nil hw']
    rfl
  | cons c t =>
    have hhead : trimStart (c :: t ++ w') = c :: t ++ w' :=
      trimStart_eq_self fun d hd => ht.head d (by simpa using hd)
    have hself : trimEnd (trimStart (c :: t)) = c :: t := trim_eq_self ht
    rw [trimStart_eq_self ht.head] at hself
    rw [hhead, trimEnd_append hw', hself]

/-- A text is its trimmed form between white space. -/
theorem exists_around_trim (s : List Char) :
    ∃ w w', AllBlank w ∧ AllBlank w' ∧ w ++ trim s ++ w' = s := by
  have hall : ∀ s : List Char, AllBlank (s.takeWhile isBlank) := fun s c hc =>
    List.all_eq_true.1 List.all_takeWhile c hc
  have hend : trimEnd (trimStart s) ++ ((trimStart s).reverse.takeWhile isBlank).reverse =
      trimStart s := by
    rw [trimEnd, ← List.reverse_append, List.takeWhile_append_dropWhile, List.reverse_reverse]
  refine ⟨s.takeWhile isBlank, ((trimStart s).reverse.takeWhile isBlank).reverse, hall s, ?_, ?_⟩
  · exact fun c hc => hall _ c (List.mem_reverse.1 hc)
  · rw [List.append_assoc, trim, hend]
    exact List.takeWhile_append_dropWhile

/-- White space around a text is trimmed away together with what the text has at its ends. -/
theorem trim_append_around {w w' : List Char} (hw : AllBlank w) (s : List Char)
    (hw' : AllBlank w') : trim (w ++ s ++ w') = trim s := by
  obtain ⟨u, u', hu, hu', hs⟩ := exists_around_trim s
  calc trim (w ++ s ++ w')
      = trim (w ++ (u ++ trim s ++ u') ++ w') := by rw [hs]
    _ = trim ((w ++ u) ++ trim s ++ (u' ++ w')) := by simp only [List.append_assoc]
    _ = trim s := trim_around (hw.append hu) (isTrimmed_trim s) (hu'.append hw')

/-- A character that is not blank stays at the end of what stands before it. -/
theorem trim_append_singleton {c : Char} (hc : isBlank c = false) (s : List Char) :
    trim (s ++ [c]) = trimStart s ++ [c] := by
  have hstart : trimStart (s ++ [c]) = trimStart s ++ [c] := by
    unfold trimStart
    rw [List.dropWhile_append]
    split
    · rename_i hempty
      rw [List.isEmpty_iff.1 hempty, List.nil_append]
      simp [hc]
    · rfl
  rw [trim, hstart, trimEnd, List.reverse_append]
  simp [hc]

theorem trim_eq_nil_iff {s : List Char} : trim s = [] ↔ AllBlank s := by
  constructor
  · intro h
    obtain ⟨w, w', hw, hw', hs⟩ := exists_around_trim s
    rw [h, List.append_nil] at hs
    exact hs ▸ hw.append hw'
  · intro h
    rw [trim, trimStart_eq_nil h]
    rfl

end BuildYard.Text
