import BuildYard.Label.Selector
import Mathlib.Algebra.Order.BigOperators.Group.List
import Mathlib.Algebra.Order.Ring.Nat
import Mathlib.Data.List.Perm.Subperm
/-!
# The text of a selector, read back

A selector is written as its terms with commas between them. A text can be read in one way only, but
it can be written for more than one selector: a key with an equals sign in it, a value with a comma
in it, or white space at an end of either is read as something else, or is refused.

* `IsReadableKey`, `IsReadableValue`: the keys and values that are safe to write.
* `parse_text_of_readable`: terms of such keys and values are read back.
* `isReadable_of_parse_text`: no other terms are. Two bad terms cannot make up for each other: reading
  never makes a term longer, and no term can get longer at another's expense.
* `parse_text_eq_ok_iff`: the two together.
-/

namespace BuildYard.Selector

open Text (IsTrimmed trim)

/-! ## Keys and values that can be written -/

/-- The key is not empty, has no white space at its ends, no comma and no equals sign in it, and no
exclamation mark at its end. -/
structure IsReadableKey (key : String) : Prop where
  ne_empty : key ≠ ""
  trimmed : IsTrimmed key.toList
  no_comma : ',' ∉ key.toList
  no_equals : '=' ∉ key.toList
  no_mark : key.toList.getLast? ≠ some '!'

/-- The value has no white space at its ends, no comma in it, no equals sign at its start, and nowhere
two equals signs in a row. -/
structure IsReadableValue (value : String) : Prop where
  trimmed : IsTrimmed value.toList
  no_comma : ',' ∉ value.toList
  no_leading_equals : value.toList.head? ≠ some '='
  no_double_equals : ¬ ['=', '='] <:+: value.toList

/-! ## Reading one term -/

/-- A term with two equals signs in a row is cut there, and any other at its first equals sign. -/
theorem sides?_eq_some {term before after : List Char} (h : sides? term = some (before, after)) :
    before ++ ['=', '='] ++ after = term ∨
      (¬ ['=', '='] <:+: term ∧ before ++ '=' :: after = term ∧ '=' ∉ before) := by
  unfold sides? at h
  split at h
  · rename_i sides hcut
    obtain rfl := Option.some.inj h
    exact .inl (Text.cutAt?_append hcut)
  · rename_i hnone
    refine .inr ⟨(Text.cutAt?_eq_none_iff (by simp) term).1 hnone, ?_,
      Text.not_mem_of_cutAt?_singleton h⟩
    simpa using Text.cutAt?_append h

/-- A term is read when it has two sides, and the one before the equals sign is a key. -/
theorem readTerm_eq_ok_iff {term : List Char} {key value : String} :
    readTerm term = .ok (key, value) ↔
      ∃ before after, sides? term = some (before, after) ∧ key = String.ofList (trim before) ∧
        value = String.ofList (trim after) ∧ trim before ≠ [] ∧
        (trim before).getLast? ≠ some '!' := by
  unfold readTerm
  rcases sides? term with _ | ⟨before, after⟩
  · simp
  · dsimp only
    by_cases hkey : trim before = [] ∨ (trim before).getLast? = some '!'
    · rw [if_pos (by simpa using hkey)]
      constructor
      · intro h
        cases h
      · rintro ⟨_, _, hsides, -, -, hne, hmark⟩
        obtain ⟨rfl, rfl⟩ := Prod.mk.inj (Option.some.inj hsides)
        exact absurd hkey (not_or.2 ⟨hne, hmark⟩)
    · rw [if_neg (by simpa using hkey)]
      obtain ⟨hne, hmark⟩ := not_or.1 hkey
      constructor
      · intro h
        obtain ⟨rfl, rfl⟩ := Prod.mk.inj (Except.ok.inj h)
        exact ⟨before, after, rfl, rfl, rfl, hne, hmark⟩
      · rintro ⟨_, _, hsides, rfl, rfl, -, -⟩
        obtain ⟨rfl, rfl⟩ := Prod.mk.inj (Option.some.inj hsides)
        rfl

/-- What every term that is read comes to: trimmed parts of the term, the first of which is a key, and
which together are shorter than the term by an equals sign, or by two where there are two in a row. -/
structure ReadOff (term : List Char) (key value : String) : Prop where
  key_ne_empty : key ≠ ""
  key_trimmed : IsTrimmed key.toList
  key_no_mark : key.toList.getLast? ≠ some '!'
  key_subset : key.toList ⊆ term
  value_trimmed : IsTrimmed value.toList
  value_subset : value.toList ⊆ term
  length_lt : key.toList.length + value.toList.length < term.length
  double_lt : ['=', '='] <:+: term →
    key.toList.length + value.toList.length + 1 < term.length

theorem readOff_of_readTerm {term : List Char} {key value : String}
    (h : readTerm term = .ok (key, value)) : ReadOff term key value := by
  obtain ⟨before, after, hsides, rfl, rfl, hne, hmark⟩ := readTerm_eq_ok_iff.1 h
  have hbefore := (Text.isInfix_trim before).length_le
  have hafter := (Text.isInfix_trim after).length_le
  have hlength : before.length + after.length < term.length ∧
      (['=', '='] <:+: term → before.length + after.length + 1 < term.length) := by
    rcases sides?_eq_some hsides with hterm | ⟨hsingle, hterm, -⟩
    · have hlong := congrArg List.length hterm
      simp only [List.length_append, List.length_cons, List.length_nil] at hlong
      exact ⟨by omega, fun _ => by omega⟩
    · have hlong := congrArg List.length hterm
      simp only [List.length_append, List.length_cons] at hlong
      exact ⟨by omega, fun hdouble => absurd hdouble hsingle⟩
  have hsubset : before ⊆ term ∧ after ⊆ term := by
    rcases sides?_eq_some hsides with hterm | ⟨-, hterm, -⟩
    · rw [← hterm]
      exact ⟨fun c hc => by simp [hc], fun c hc => by simp [hc]⟩
    · rw [← hterm]
      exact ⟨fun c hc => by simp [hc], fun c hc => by simp [hc]⟩
  constructor
  · intro hempty
    exact hne (by simpa using congrArg String.toList hempty)
  · rw [String.toList_ofList]
    exact Text.isTrimmed_trim before
  · rwa [String.toList_ofList]
  · rw [String.toList_ofList]
    exact fun c hc => hsubset.1 ((Text.isInfix_trim before).subset hc)
  · rw [String.toList_ofList]
    exact Text.isTrimmed_trim after
  · rw [String.toList_ofList]
    exact fun c hc => hsubset.2 ((Text.isInfix_trim after).subset hc)
  · rw [String.toList_ofList, String.toList_ofList]
    omega
  · intro hdouble
    have hlong := hlength.2 hdouble
    rw [String.toList_ofList, String.toList_ofList]
    omega

/-! ## Reading a term that was written -/

section Written

variable {key value : String}

theorem termChars_def : termChars (key, value) = key.toList ++ '=' :: value.toList := rfl

theorem toList_ne_nil (h : key ≠ "") : key.toList ≠ [] := by
  intro hnil
  exact h (String.toList_injective hnil)

/-- A written term begins with its key and ends with its value or with the equals sign. -/
theorem isTrimmed_termChars (hne : key ≠ "") (hkey : IsTrimmed key.toList)
    (hvalue : IsTrimmed value.toList) : IsTrimmed (termChars (key, value)) where
  head := by
    intro c hc
    rw [termChars_def, List.head?_append_of_ne_nil _ (toList_ne_nil hne)] at hc
    exact hkey.head c hc
  getLast := by
    intro c hc
    rw [termChars_def, List.getLast?_append, List.getLast?_cons] at hc
    obtain rfl : value.toList.getLast?.getD '=' = c := by simpa using hc
    cases hlast : value.toList.getLast? with
    | none => decide
    | some d => exact hvalue.getLast d hlast

/-- Two equals signs in a row in a term stand in its value, or one of them at the start of it, if
there is none in the key. -/
theorem not_double_termChars (hkey : '=' ∉ key.toList) (hhead : value.toList.head? ≠ some '=')
    (hdouble : ¬ ['=', '='] <:+: value.toList) : ¬ ['=', '='] <:+: termChars (key, value) := by
  rw [termChars_def]
  generalize key.toList = cs at hkey
  induction cs with
  | nil =>
    rw [List.nil_append, List.infix_cons_iff, not_or]
    refine ⟨?_, hdouble⟩
    rintro ⟨rest, hrest⟩
    have htail : '=' :: rest = value.toList := (List.cons.inj hrest).2
    exact hhead (by rw [← htail]; rfl)
  | cons c cs ih =>
    have hc := List.ne_of_not_mem_cons hkey
    rw [List.cons_append, List.infix_cons_iff, not_or]
    refine ⟨?_, ih (List.not_mem_of_not_mem_cons hkey)⟩
    rintro ⟨rest, hrest⟩
    exact hc (List.cons.inj hrest).1

theorem sides?_termChars (hkey : '=' ∉ key.toList) (hhead : value.toList.head? ≠ some '=')
    (hdouble : ¬ ['=', '='] <:+: value.toList) :
    sides? (termChars (key, value)) = some (key.toList, value.toList) := by
  have hnone : Text.cutAt? ['=', '='] (termChars (key, value)) = none :=
    (Text.cutAt?_eq_none_iff (by simp) _).2 (not_double_termChars hkey hhead hdouble)
  rw [sides?, hnone]
  exact Text.cutAt?_singleton hkey value.toList

/-- A term of a readable key and a readable value is read back. -/
theorem readTerm_termChars (hkey : IsReadableKey key) (hvalue : IsReadableValue value) :
    readTerm (termChars (key, value)) = .ok (key, value) := by
  have htrimKey := Text.trim_eq_self hkey.trimmed
  have htrimValue := Text.trim_eq_self hvalue.trimmed
  refine readTerm_eq_ok_iff.2 ⟨key.toList, value.toList,
    sides?_termChars hkey.no_equals hvalue.no_leading_equals hvalue.no_double_equals, ?_, ?_, ?_, ?_⟩
  · rw [htrimKey, String.ofList_toList]
  · rw [htrimValue, String.ofList_toList]
  · rw [htrimKey]
    exact toList_ne_nil hkey.ne_empty
  · rw [htrimKey]
    exact hkey.no_mark

/-- A written term without two equals signs in a row is read with a key that is no longer than the one
that was written, and that is shorter if there is an equals sign in the one that was written. -/
theorem key_length_le {key' value' : String} (hsingle : ¬ ['=', '='] <:+: termChars (key, value))
    (h : readTerm (termChars (key, value)) = .ok (key', value')) :
    key'.toList.length ≤ key.toList.length ∧
      ('=' ∈ key.toList → key'.toList.length < key.toList.length) := by
  obtain ⟨before, after, hsides, rfl, -, -, -⟩ := readTerm_eq_ok_iff.1 h
  have htrim := (Text.isInfix_trim before).length_le
  rw [String.toList_ofList]
  rcases sides?_eq_some hsides with hterm | ⟨-, hterm, hbefore⟩
  · exact absurd (hterm ▸ ⟨before, after, rfl⟩) hsingle
  · rw [termChars_def, List.append_eq_append_iff] at hterm
    rcases hterm with ⟨more, hkey, -⟩ | ⟨more, hlong, hrest⟩
    · rw [hkey, List.length_append]
      refine ⟨by omega, fun hmem => ?_⟩
      have hmore : '=' ∈ more := (List.mem_append.1 hmem).resolve_left hbefore
      have hpos := List.length_pos_of_mem hmore
      omega
    · -- the equals sign of the term does not stand before the cut
      cases more with
      | nil =>
        rw [List.append_nil] at hlong
        subst hlong
        exact ⟨htrim, fun hmem => absurd hmem hbefore⟩
      | cons c more =>
        obtain rfl : '=' = c := (List.cons.inj hrest).1
        exact absurd (hlong ▸ List.mem_append_right _ List.mem_cons_self) hbefore

end Written

/-! ## Reading all terms -/

/-- Every term of what is read was there before, or was read off a term of the text. -/
theorem exists_term_of_readTerms {terms : List (List Char)} {s s' : Selector}
    (h : readTerms s terms = .ok s') {key value : String}
    (hfind : s'.terms.find? key = some value) :
    s.terms.find? key = some value ∨ ∃ term ∈ terms, readTerm term = .ok (key, value) := by
  induction terms generalizing s with
  | nil =>
    obtain rfl := Except.ok.inj h
    exact .inl hfind
  | cons term terms ih =>
    rw [readTerms] at h
    split at h
    · cases h
    · rename_i key₁ value₁ hread
      rcases ih h with hbefore | ⟨other, hmem, hother⟩
      · rw [withTerm, SortedMap.find?_insert] at hbefore
        split at hbefore
        · rename_i heq
          obtain rfl := Std.LawfulEqOrd.eq_of_compare heq
          obtain rfl := Option.some.inj hbefore
          exact .inr ⟨term, List.mem_cons_self, hread⟩
        · exact .inl hbefore
      · exact .inr ⟨other, List.mem_cons_of_mem _ hmem, hother⟩

/-- A text is read only if each of its terms is. -/
theorem readTerm_of_readTerms {terms : List (List Char)} {s s' : Selector}
    (h : readTerms s terms = .ok s') {term : List Char} (hmem : term ∈ terms) :
    ∃ key value, readTerm term = .ok (key, value) := by
  induction terms generalizing s with
  | nil => cases hmem
  | cons first terms ih =>
    rw [readTerms] at h
    split at h
    · cases h
    · rename_i key value hread
      rcases List.mem_cons.1 hmem with rfl | hmem
      · exact ⟨key, value, hread⟩
      · exact ih h hmem

/-- Terms that are read back one by one are added one by one. -/
theorem readTerms_map_termChars {entries : List (String × String)}
    (h : ∀ e ∈ entries, readTerm (termChars e) = .ok e) (s : Selector) :
    readTerms s (entries.map termChars) =
      .ok ⟨entries.foldl (fun m e => m.insert e.1 e.2) s.terms⟩ := by
  induction entries generalizing s with
  | nil => rfl
  | cons e entries ih =>
    rw [List.map_cons, readTerms, h e List.mem_cons_self]
    exact ih (fun e' he' => h e' (List.mem_cons_of_mem _ he')) (s.withTerm e.1 e.2)

theorem mem_entries_iff {s : Selector} {key value : String} :
    (key, value) ∈ s.terms.entries ↔ s.terms.find? key = some value :=
  SortedMap.mem_entries_iff s.terms

/-- The terms of a text that was written are those that were written, if commas and white space do not
come between. -/
theorem termsOf_chars {s : Selector}
    (h : ∀ e ∈ s.terms.entries, ',' ∉ termChars e ∧ IsTrimmed (termChars e)) :
    termsOf s.chars = s.terms.entries.map termChars := by
  have hnonempty : ∀ e : String × String, (termChars e).isEmpty = false := by
    intro e
    simp [termChars]
  cases hentries : s.terms.entries with
  | nil =>
    rw [termsOf, chars, hentries]
    rfl
  | cons first rest =>
    rw [hentries] at h
    have hpieces : Text.pieces ',' s.chars = (first :: rest).map termChars := by
      rw [chars, hentries]
      refine Text.pieces_joined (by simp) fun p hp => ?_
      obtain ⟨e, he, rfl⟩ := List.mem_map.1 hp
      exact (h e he).1
    have htrim : ((first :: rest).map termChars).map trim = (first :: rest).map termChars := by
      rw [List.map_map]
      exact List.map_congr_left fun e he => Text.trim_eq_self (h e he).2
    rw [termsOf, hpieces, htrim, List.filter_eq_self]
    intro p hp
    obtain ⟨e, -, rfl⟩ := List.mem_map.1 hp
    simp [hnonempty e]

theorem parse_eq_ok_iff {text : String} {s : Selector} :
    parse text = .ok s ↔ readTerms all (termsOf text.toList) = .ok s := by
  rw [parse, ofChars]
  cases readTerms all (termsOf text.toList) <;> simp [Except.mapError]

/-- What is read off a text has keys and values that are trimmed and have no commas in them, and its
keys are no inequalities. -/
theorem of_parse {text : String} {s : Selector} (h : parse text = .ok s) {key value : String}
    (hfind : s.terms.find? key = some value) :
    key ≠ "" ∧ IsTrimmed key.toList ∧ key.toList.getLast? ≠ some '!' ∧ ',' ∉ key.toList ∧
      IsTrimmed value.toList ∧ ',' ∉ value.toList := by
  rcases exists_term_of_readTerms (parse_eq_ok_iff.1 h) hfind with hempty | ⟨term, hterm, hread⟩
  · cases hempty
  · obtain ⟨piece, hpiece, rfl⟩ := List.mem_map.1 (List.mem_filter.1 hterm).1
    have hcomma : ',' ∉ trim piece := fun hmem =>
      Text.not_mem_of_mem_pieces hpiece ((Text.isInfix_trim piece).subset hmem)
    have hoff := readOff_of_readTerm hread
    exact ⟨hoff.key_ne_empty, hoff.key_trimmed, hoff.key_no_mark,
      fun hmem => hcomma (hoff.key_subset hmem), hoff.value_trimmed,
      fun hmem => hcomma (hoff.value_subset hmem)⟩

/-! ## What is read back -/

/-- A selector whose terms have readable keys and values is read back. -/
theorem parse_text_of_readable {s : Selector}
    (h : ∀ key value, s.terms.find? key = some value →
      IsReadableKey key ∧ IsReadableValue value) : parse s.text = .ok s := by
  have hentry : ∀ e ∈ s.terms.entries, IsReadableKey e.1 ∧ IsReadableValue e.2 :=
    fun e he => h e.1 e.2 (mem_entries_iff.1 he)
  have hterms : termsOf s.text.toList = s.terms.entries.map termChars := by
    rw [text, String.toList_ofList]
    refine termsOf_chars fun e he => ?_
    obtain ⟨hkey, hvalue⟩ := hentry e he
    refine ⟨?_, isTrimmed_termChars hkey.ne_empty hkey.trimmed hvalue.trimmed⟩
    simp [termChars, hkey.no_comma, hvalue.no_comma]
  rw [parse_eq_ok_iff, hterms,
    readTerms_map_termChars fun e he => readTerm_termChars (hentry e he).1 (hentry e he).2]
  exact congrArg (fun m => Except.ok (Selector.mk m)) s.terms.ofList_entries

/-- Where a list is rearranged by a function that makes no element heavier, it makes none lighter
either. -/
theorem weight_eq_of_perm_map {α : Type} {l : List α} {f : α → α} (weight : α → Nat)
    (hperm : l.Perm (l.map f)) (hle : ∀ a ∈ l, weight (f a) ≤ weight a) :
    ∀ a ∈ l, weight (f a) = weight a := by
  intro a ha
  by_contra hne
  have hless : (l.map fun a => weight (f a)).sum < (l.map weight).sum :=
    List.sum_lt_sum _ _ hle ⟨a, ha, lt_of_le_of_ne (hle a ha) hne⟩
  have hsame : (l.map weight).sum = ((l.map f).map weight).sum := (hperm.map weight).sum_eq
  rw [List.map_map] at hsame
  exact absurd hsame (Nat.ne_of_gt hless)

/-- Of a selector that is read back every term is read off the text of a term, so all of them together
are only rearranged. -/
theorem perm_of_parse_text {s : Selector} (h : parse s.text = .ok s) :
    ∃ reread : String × String → String × String,
      (∀ e ∈ s.terms.entries, readTerm (termChars e) = .ok (reread e)) ∧
      s.terms.entries.Perm (s.terms.entries.map reread) := by
  have hclean : ∀ e ∈ s.terms.entries, ',' ∉ termChars e ∧ IsTrimmed (termChars e) := by
    intro e he
    obtain ⟨hne, hkey, -, hkeyComma, hvalue, hvalueComma⟩ := of_parse h (mem_entries_iff.1 he)
    exact ⟨by simp [termChars, hkeyComma, hvalueComma], isTrimmed_termChars hne hkey hvalue⟩
  have hread : readTerms all (s.terms.entries.map termChars) = .ok s := by
    have hparse := parse_eq_ok_iff.1 h
    rwa [text, String.toList_ofList, termsOf_chars hclean] at hparse
  let reread : String × String → String × String := fun e =>
    ((readTerm (termChars e)).toOption).getD e
  have hreread : ∀ e ∈ s.terms.entries, readTerm (termChars e) = .ok (reread e) := by
    intro e he
    obtain ⟨key, value, hok⟩ := readTerm_of_readTerms hread (List.mem_map_of_mem he)
    simp only [reread, hok]
    rfl
  have hnodup : s.terms.entries.Nodup := s.terms.ascending.imp fun {e e'} hlt heq => by
    have hself : compare e'.1 e'.1 = .eq := Std.ReflCmp.compare_self
    rw [heq, hself] at hlt
    cases hlt
  have hsubset : s.terms.entries ⊆ s.terms.entries.map reread := by
    intro e he
    rcases exists_term_of_readTerms hread (mem_entries_iff.1 he) with hempty | ⟨term, hterm, hok⟩
    · cases hempty
    · obtain ⟨e', he', rfl⟩ := List.mem_map.1 hterm
      exact List.mem_map.2 ⟨e', he', Except.ok.inj ((hreread e' he').symm.trans hok)⟩
  exact ⟨reread, hreread,
    (List.subperm_of_subset hnodup hsubset).perm_of_length_le (by rw [List.length_map])⟩

/-- A selector that is read back has readable keys and values only. -/
theorem isReadable_of_parse_text {s : Selector} (h : parse s.text = .ok s) {key value : String}
    (hfind : s.terms.find? key = some value) : IsReadableKey key ∧ IsReadableValue value := by
  obtain ⟨reread, hreread, hperm⟩ := perm_of_parse_text h
  have hmem : (key, value) ∈ s.terms.entries := mem_entries_iff.2 hfind
  -- all terms together keep their length, so each keeps its own, and none has two equals signs in
  -- a row
  have hlength := weight_eq_of_perm_map (fun e => e.1.toList.length + e.2.toList.length) hperm
    fun e he => by
      have hless := (readOff_of_readTerm (hreread e he)).length_lt
      simp only [termChars, List.length_append, List.length_cons] at hless
      omega
  have hsingle : ∀ e ∈ s.terms.entries, ¬ ['=', '='] <:+: termChars e := by
    intro e he hdouble
    have hless := (readOff_of_readTerm (hreread e he)).double_lt hdouble
    have hsame := hlength e he
    simp only [termChars, List.length_append, List.length_cons] at hless
    omega
  -- then all keys together keep their length, so each keeps its own, and none has an equals sign
  have hkeyLength := weight_eq_of_perm_map (fun e => e.1.toList.length) hperm
    fun e he => (key_length_le (hsingle e he) (hreread e he)).1
  have hequals : '=' ∉ key.toList := by
    intro hin
    have hless := (key_length_le (hsingle _ hmem) (hreread _ hmem)).2 hin
    exact absurd (hkeyLength _ hmem) (Nat.ne_of_lt hless)
  obtain ⟨hne, hkey, hmark, hkeyComma, hvalue, hvalueComma⟩ := of_parse h hfind
  have hvalueInfix : '=' :: value.toList <:+: termChars (key, value) :=
    (List.suffix_append key.toList ('=' :: value.toList)).isInfix
  refine ⟨⟨hne, hkey, hkeyComma, hequals, hmark⟩, ⟨hvalue, hvalueComma, ?_, ?_⟩⟩
  · intro hhead
    obtain ⟨rest, hrest⟩ := List.head?_eq_some_iff.1 hhead
    have hdouble : ['=', '='] <:+: '=' :: value.toList := ⟨[], rest, by rw [hrest]; rfl⟩
    exact hsingle _ hmem (hdouble.trans hvalueInfix)
  · intro hdouble
    exact hsingle _ hmem ((hdouble.trans (List.suffix_cons '=' value.toList).isInfix).trans
      hvalueInfix)

/-- **A selector is read back exactly when all of its terms can be.** Whatever terms a selector has,
its text stands for the selector itself if and only if every key is not empty, trimmed, without a
comma and without an equals sign and ends in no exclamation mark, and every value is trimmed, without
a comma, starts with no equals sign and has no two of them in a row. -/
theorem parse_text_eq_ok_iff (s : Selector) :
    parse s.text = .ok s ↔
      ∀ key value, s.terms.find? key = some value → IsReadableKey key ∧ IsReadableValue value :=
  ⟨fun h _ _ hfind => isReadable_of_parse_text h hfind, parse_text_of_readable⟩

end BuildYard.Selector
