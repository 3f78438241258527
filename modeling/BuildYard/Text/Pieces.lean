/-!
# Cutting a text into pieces

`pieces` cuts at every occurrence of a character, `cutAt?` at the first occurrence of a separator,
`joined` puts pieces together again. Nothing is lost in between: `joined_pieces`, `cutAt?_append`. The
separator itself is in no piece, and pieces without it are found again: `pieces_joined`. Where the cut
is, `cutAt?_eq_some_iff` says without going through the text.
-/

namespace BuildYard.Text

/-- The pieces of a text between the occurrences of `sep`; empty pieces count. -/
def pieces (sep : Char) : List Char → List (List Char)
  | [] => [[]]
  | c :: rest =>
    if c = sep then [] :: pieces sep rest
    else
      match pieces sep rest with
      | [] => [[c]]
      | p :: ps => (c :: p) :: ps

/-- Pieces put together with a text between each two. -/
def joined (sep : List Char) : List (List Char) → List Char
  | [] => []
  | [p] => p
  | p :: q :: ps => p ++ sep ++ joined sep (q :: ps)

/-- What stands before and after the first occurrence of `sep`. -/
def cutAt? (sep : List Char) : List Char → Option (List Char × List Char)
  | [] => if sep.isEmpty then some ([], []) else none
  | c :: rest =>
    if sep.isPrefixOf (c :: rest) then some ([], (c :: rest).drop sep.length)
    else (cutAt? sep rest).map (fun (before, after) => (c :: before, after))

theorem pieces_ne_nil (sep : Char) (s : List Char) : pieces sep s ≠ [] := by
  cases s with
  | nil => simp [pieces]
  | cons c rest => unfold pieces; split <;> (try split) <;> simp

/-- The pieces of a text, put together again, give the text. -/
theorem joined_pieces (sep : Char) (s : List Char) : joined [sep] (pieces sep s) = s := by
  induction s with
  | nil => rfl
  | cons c rest ih =>
    have hne := pieces_ne_nil sep rest
    unfold pieces
    cases hp : pieces sep rest with
    | nil => exact absurd hp hne
    | cons p ps =>
      rw [hp] at ih
      split
      next h => simp [joined, ih, h]
      next h => cases ps <;> simp_all [joined]

/-- The separator stands in none of the pieces. -/
theorem not_mem_of_mem_pieces {sep : Char} {s p : List Char} (h : p ∈ pieces sep s) : sep ∉ p := by
  induction s generalizing p with
  | nil =>
    obtain rfl : p = [] := by simpa [pieces] using h
    exact List.not_mem_nil
  | cons c rest ih =>
    unfold pieces at h
    split at h
    · rcases List.mem_cons.1 h with rfl | h
      · exact List.not_mem_nil
      · exact ih h
    · rename_i hc
      split at h
      · obtain rfl : p = [c] := by simpa using h
        simpa using Ne.symm hc
      · rename_i q qs hq
        rcases List.mem_cons.1 h with rfl | h
        · have hrest : sep ∉ q := ih (hq ▸ List.mem_cons_self)
          simp [Ne.symm hc, hrest]
        · exact ih (hq ▸ List.mem_cons_of_mem _ h)

theorem pieces_append {sep : Char} {p : List Char} (h : sep ∉ p) (rest : List Char) :
    pieces sep (p ++ sep :: rest) = p :: pieces sep rest := by
  induction p with
  | nil => simp [pieces]
  | cons c p ih =>
    have hc := List.ne_of_not_mem_cons h
    have hp := List.not_mem_of_not_mem_cons h
    rw [List.cons_append, pieces, if_neg (Ne.symm hc), ih hp]

theorem pieces_eq_singleton {sep : Char} {p : List Char} (h : sep ∉ p) : pieces sep p = [p] := by
  induction p with
  | nil => rfl
  | cons c p ih =>
    have hc := List.ne_of_not_mem_cons h
    have hp := List.not_mem_of_not_mem_cons h
    rw [pieces, if_neg (Ne.symm hc), ih hp]

/-- Pieces without the separator in them are found again. -/
theorem pieces_joined {sep : Char} {ps : List (List Char)} (hne : ps ≠ [])
    (h : ∀ p ∈ ps, sep ∉ p) : pieces sep (joined [sep] ps) = ps := by
  induction ps with
  | nil => exact absurd rfl hne
  | cons p ps ih =>
    have hp := h p List.mem_cons_self
    cases ps with
    | nil => exact pieces_eq_singleton hp
    | cons q qs =>
      have hrest := ih (List.cons_ne_nil q qs) fun r hr => h r (List.mem_cons_of_mem _ hr)
      rw [joined, List.append_assoc, List.singleton_append, pieces_append hp, hrest]

/-- Nothing is lost at a cut. -/
theorem cutAt?_append {sep s before after : List Char} (h : cutAt? sep s = some (before, after)) :
    before ++ sep ++ after = s := by
  induction s generalizing before with
  | nil =>
    unfold cutAt? at h
    split at h
    · obtain ⟨rfl, rfl⟩ := Prod.mk.inj (Option.some.inj h)
      simp_all
    · cases h
  | cons c rest ih =>
    unfold cutAt? at h
    split at h
    next hp =>
      obtain ⟨rfl, rfl⟩ := Prod.mk.inj (Option.some.inj h)
      obtain ⟨t, ht⟩ := List.isPrefixOf_iff_prefix.1 hp
      rw [← ht]; simp
    next =>
      obtain ⟨⟨b, a⟩, hb, he⟩ := Option.map_eq_some_iff.1 h
      obtain ⟨rfl, rfl⟩ := Prod.mk.inj he
      simpa using ih hb

/-- There is no cut exactly where the separator does not occur. -/
theorem cutAt?_eq_none_iff {sep : List Char} (hsep : sep ≠ []) (s : List Char) :
    cutAt? sep s = none ↔ ¬ sep <:+: s := by
  induction s with
  | nil => simp [cutAt?, hsep]
  | cons c rest ih =>
    rw [List.infix_cons_iff, not_or, ← List.isPrefixOf_iff_prefix, cutAt?]
    by_cases hp : sep.isPrefixOf (c :: rest) = true
    · simp [hp]
    · simp [hp, ih]

/-- A text is cut at the first occurrence of a character. -/
theorem cutAt?_singleton {c : Char} {before : List Char} (h : c ∉ before) (after : List Char) :
    cutAt? [c] (before ++ c :: after) = some (before, after) := by
  induction before with
  | nil => simp [cutAt?]
  | cons b before ih =>
    have hb := List.ne_of_not_mem_cons h
    have hbefore := List.not_mem_of_not_mem_cons h
    simp [cutAt?, hb, ih hbefore]

/-- The character does not stand before its first occurrence. -/
theorem not_mem_of_cutAt?_singleton {c : Char} {s before after : List Char}
    (h : cutAt? [c] s = some (before, after)) : c ∉ before := by
  induction s generalizing before with
  | nil => simp [cutAt?] at h
  | cons d rest ih =>
    rw [cutAt?] at h
    split at h
    · obtain ⟨rfl, -⟩ := Prod.mk.inj (Option.some.inj h)
      exact List.not_mem_nil
    · rename_i hp
      obtain ⟨⟨b, a⟩, hb, he⟩ := Option.map_eq_some_iff.1 h
      obtain ⟨rfl, rfl⟩ := Prod.mk.inj he
      have hd : c ≠ d := by
        rintro rfl
        simp at hp
      simp [hd, ih hb]

/-! ## The first occurrence -/

/-- What stands before a cut, with all of the separator but its last character, is the start of the
text. -/
theorem append_dropLast_prefix (sep before after : List Char) :
    before ++ sep.dropLast <+: before ++ sep ++ after :=
  ((List.prefix_append_right_inj before).2 sep.dropLast_prefix).trans (List.prefix_append _ _)

/-- A text is cut where it has the separator first: what stands before the cut does not have it, not
even with all of the separator but its last character. -/
theorem cutAt?_eq_some_iff {sep : List Char} (hsep : sep ≠ []) {s before after : List Char} :
    cutAt? sep s = some (before, after) ↔
      before ++ sep ++ after = s ∧ ¬ sep <:+: before ++ sep.dropLast := by
  induction s generalizing before with
  | nil => simp [cutAt?, hsep]
  | cons c rest ih =>
    rw [cutAt?]
    by_cases hp : sep.isPrefixOf (c :: rest) = true
    · rw [if_pos hp]
      rw [List.isPrefixOf_iff_prefix] at hp
      constructor
      · intro h
        obtain ⟨rfl, rfl⟩ := Prod.mk.inj (Option.some.inj h)
        obtain ⟨t, ht⟩ := hp
        refine ⟨by rw [← ht]; simp, fun h => ?_⟩
        have hshort := h.length_le
        have hpos := List.length_pos_iff.2 hsep
        rw [List.nil_append, List.length_dropLast] at hshort
        omega
      · rintro ⟨hs, hfirst⟩
        cases before with
        | nil => simp [← hs]
        | cons b before =>
          -- the separator at the start of the text would stand before the cut
          have hbefore := append_dropLast_prefix sep (b :: before) after
          rw [hs] at hbefore
          refine absurd (List.prefix_of_prefix_length_le hp hbefore ?_).isInfix hfirst
          simp only [List.length_append, List.length_cons, List.length_dropLast]
          omega
    · rw [if_neg hp]
      rw [List.isPrefixOf_iff_prefix] at hp
      constructor
      · intro h
        obtain ⟨⟨b, a⟩, hb, he⟩ := Option.map_eq_some_iff.1 h
        obtain ⟨rfl, rfl⟩ := Prod.mk.inj he
        obtain ⟨hs, hfirst⟩ := ih.1 hb
        have hbefore := append_dropLast_prefix sep (c :: b) a
        rw [List.cons_append, List.append_assoc, List.cons_append, ← List.append_assoc, hs] at hbefore
        refine ⟨by rw [← hs]; rfl, ?_⟩
        rw [List.cons_append, List.infix_cons_iff, not_or]
        exact ⟨fun h => hp (h.trans hbefore), hfirst⟩
      · rintro ⟨hs, hfirst⟩
        cases before with
        | nil => exact absurd ⟨after, by simpa using hs⟩ hp
        | cons b before =>
          obtain ⟨rfl, hrest⟩ := List.cons.inj hs
          rw [List.cons_append, List.infix_cons_iff, not_or] at hfirst
          rw [ih.2 ⟨hrest, hfirst.2⟩]
          rfl

/-- Characters that are not in the separator go before the cut when they stand before the text. -/
theorem cutAt?_append_left {sep w : List Char} (hsep : sep ≠ []) (hw : ∀ c ∈ sep, c ∉ w)
    (s : List Char) :
    cutAt? sep (w ++ s) = (cutAt? sep s).map fun (before, after) => (w ++ before, after) := by
  induction w with
  | nil => simp
  | cons b w ih =>
    have hrest := ih fun c hc hmem => hw c hc (List.mem_cons_of_mem b hmem)
    have hp : ¬ sep.isPrefixOf (b :: (w ++ s)) = true := by
      rw [List.isPrefixOf_iff_prefix]
      intro hprefix
      obtain ⟨c, cs, rfl⟩ := List.exists_cons_of_ne_nil hsep
      obtain ⟨rfl, -⟩ := List.cons_prefix_cons.1 hprefix
      exact hw c List.mem_cons_self List.mem_cons_self
    rw [List.cons_append, cutAt?, if_neg hp, hrest, Option.map_map]
    rfl

/-- A text that is found before characters that it does not have is found without them. -/
theorem infix_of_infix_append {sep s w : List Char} (hw : ∀ c ∈ sep, c ∉ w) (h : sep <:+: s ++ w) :
    sep <:+: s := by
  obtain ⟨x, y, hxy⟩ := h
  rcases List.append_eq_append_iff.1 hxy with ⟨z, hs, -⟩ | ⟨z, hz, hwy⟩
  · exact ⟨x, z, hs.symm⟩
  · cases z with
    | nil => exact ⟨x, [], by simpa using hz⟩
    | cons c z =>
      -- the text reaches into the other characters, so it has one of them
      have hc : c ∈ w := by simp [hwy]
      rcases List.append_eq_append_iff.1 hz with ⟨u, -, hsep⟩ | ⟨u, -, hsep⟩
      · exact absurd hc (hw c (by simp [hsep]))
      · cases sep with
        | nil => exact List.nil_infix
        | cons d sep =>
          have hd : d ∈ w := by
            rw [hwy, hsep]
            simp
          exact absurd hd (hw d List.mem_cons_self)

/-- Characters that are not in the separator go behind the cut when they stand behind the text. -/
theorem cutAt?_append_right {sep w : List Char} (hsep : sep ≠ []) (hw : ∀ c ∈ sep, c ∉ w)
    (s : List Char) :
    cutAt? sep (s ++ w) = (cutAt? sep s).map fun (before, after) => (before, after ++ w) := by
  cases hcut : cutAt? sep s with
  | some sides =>
    obtain ⟨before, after⟩ := sides
    obtain ⟨hs, hfirst⟩ := (cutAt?_eq_some_iff hsep).1 hcut
    refine (cutAt?_eq_some_iff hsep).2 ⟨?_, hfirst⟩
    rw [← hs, List.append_assoc _ after w]
  | none =>
    have hnot := (cutAt?_eq_none_iff hsep s).1 hcut
    exact (cutAt?_eq_none_iff hsep _).2 fun hin => hnot (infix_of_infix_append hw hin)

end BuildYard.Text
