import BuildYard.Proofs.Label.SelectorText
import BuildYard.Proofs.Lists.FirstAndLast
import Mathlib.Logic.Relation
/-!
# The grammar of selectors

Which texts are read as selectors, and as which ones, said about the pieces between their commas. A
piece that is not blank has to ask for a label (`AsksFor`): it has an equals sign, and a key before it.
The key is bound to what the last piece that asks for it says.

* `readPieces_cons_eq_ok_iff`: what one piece does; everything else goes by it.
* `exists_readPieces_iff`: which pieces are read.
* `find?_readPieces`: what is read off them.
* `Respells.readPieces_iff`: blank pieces, white space around pieces and the order of pieces with
  different keys do not matter.
* `parse_reads_grammar`: all of it, for texts.
-/

namespace BuildYard.Selector

open Text (AllBlank IsTrimmed trim)

/-! ## Pieces -/

/-- A piece is cut at the first two equals signs in a row, or at the first equals sign if no two stand in
a row. -/
inductive Cut (piece before after : List Char) : Prop
  | double (cut : before ++ ['=', '='] ++ after = piece)
      (first : ¬ ['=', '='] <:+: before ++ ['='])
  | single (no_double : ¬ ['=', '='] <:+: piece) (cut : before ++ '=' :: after = piece)
      (first : '=' ∉ before)

/-- What stands before the cut is a key: it is not blank and does not end in an exclamation mark. -/
def IsKey (before : List Char) : Prop := trim before ≠ [] ∧ (trim before).getLast? ≠ some '!'

/-- The piece asks for a label with a value. -/
def AsksFor (piece : List Char) (key value : String) : Prop :=
  ∃ before after, Cut piece before after ∧ IsKey before ∧
    key = String.ofList (trim before) ∧ value = String.ofList (trim after)

theorem sides?_eq_some_iff {piece before after : List Char} :
    sides? piece = some (before, after) ↔ Cut piece before after := by
  have hdouble : Text.cutAt? ['=', '='] piece = none ↔ ¬ ['=', '='] <:+: piece :=
    Text.cutAt?_eq_none_iff (by simp) piece
  unfold sides?
  constructor
  · intro h
    split at h
    · rename_i sides hcut
      obtain rfl := Option.some.inj h
      obtain ⟨hpiece, hfirst⟩ := (Text.cutAt?_eq_some_iff (by simp)).1 hcut
      exact .double hpiece hfirst
    · rename_i hnone
      exact .single (hdouble.1 hnone) (by simpa using Text.cutAt?_append h)
        (Text.not_mem_of_cutAt?_singleton h)
  · intro h
    cases h with
    | double cut first => rw [(Text.cutAt?_eq_some_iff (by simp)).2 ⟨cut, first⟩]
    | single no_double cut first =>
      rw [hdouble.2 no_double, ← cut]
      exact Text.cutAt?_singleton first after

theorem Cut.unique {piece before after before' after' : List Char} (h : Cut piece before after)
    (h' : Cut piece before' after') : before = before' ∧ after = after' := by
  have hsame := (sides?_eq_some_iff.2 h).symm.trans (sides?_eq_some_iff.2 h')
  exact Prod.mk.inj (Option.some.inj hsame)

/-- A piece can be cut exactly if it has an equals sign. -/
theorem exists_cut_iff {piece : List Char} :
    (∃ before after, Cut piece before after) ↔ '=' ∈ piece := by
  constructor
  · rintro ⟨before, after, hcut⟩
    cases hcut with
    | double cut => simp [← cut]
    | single _ cut => simp [← cut]
  · intro hmem
    cases hsides : sides? piece with
    | some sides => exact ⟨sides.1, sides.2, sides?_eq_some_iff.1 hsides⟩
    | none =>
      unfold sides? at hsides
      split at hsides
      · cases hsides
      · obtain ⟨before, after, hpiece⟩ := List.append_of_mem hmem
        have hin : ['='] <:+: piece := ⟨before, after, by simp [hpiece]⟩
        exact absurd hin ((Text.cutAt?_eq_none_iff (by simp) piece).1 hsides)

/-- White space around a piece stays around its two sides. -/
theorem sides?_around {w w' : List Char} (hw : AllBlank w) (s : List Char) (hw' : AllBlank w') :
    sides? (w ++ s ++ w') =
      (sides? s).map fun (before, after) => (w ++ before, after ++ w') := by
  have hnot : ∀ {w : List Char}, AllBlank w → '=' ∉ w := fun hw hmem =>
    absurd (hw '=' hmem) (by decide)
  have hcut : ∀ {sep : List Char}, sep ≠ [] → (∀ c ∈ sep, c = '=') →
      Text.cutAt? sep (w ++ s ++ w') =
        (Text.cutAt? sep s).map fun (before, after) => (w ++ before, after ++ w') := by
    intro sep hsep hall
    rw [Text.cutAt?_append_right hsep fun c hc => hall c hc ▸ hnot hw',
      Text.cutAt?_append_left hsep fun c hc => hall c hc ▸ hnot hw, Option.map_map]
    rfl
  unfold sides?
  rw [hcut (by simp) (by simp), hcut (by simp) (by simp)]
  cases Text.cutAt? ['=', '='] s <;> rfl

/-- A trimmed piece is read as what the piece asks for. -/
theorem readTerm_trim_eq_ok_iff {piece : List Char} {key value : String} :
    readTerm (trim piece) = .ok (key, value) ↔ AsksFor piece key value := by
  obtain ⟨w, w', hw, hw', hpiece⟩ := Text.exists_around_trim piece
  have hsides := sides?_around hw (trim piece) hw'
  rw [hpiece] at hsides
  have hnil : AllBlank [] := nofun
  have hbefore : ∀ before, trim (w ++ before) = trim before := fun before => by
    simpa using Text.trim_append_around hw before hnil
  have hafter : ∀ after, trim (after ++ w') = trim after := fun after => by
    simpa using Text.trim_append_around hnil after hw'
  rw [readTerm_eq_ok_iff]
  constructor
  · rintro ⟨before, after, hcut, hkey, hvalue, hne, hmark⟩
    rw [hcut] at hsides
    refine ⟨w ++ before, after ++ w', sides?_eq_some_iff.1 hsides, ⟨?_, ?_⟩, ?_, ?_⟩
    · rwa [hbefore]
    · rwa [hbefore]
    · rw [hbefore, hkey]
    · rw [hafter, hvalue]
  · rintro ⟨before, after, hcut, ⟨hne, hmark⟩, hkey, hvalue⟩
    rw [sides?_eq_some_iff.2 hcut] at hsides
    obtain ⟨⟨b, a⟩, hread, heq⟩ := Option.map_eq_some_iff.1 hsides.symm
    obtain ⟨rfl, rfl⟩ := Prod.mk.inj heq
    rw [hbefore] at hne hmark hkey
    rw [hafter] at hvalue
    exact ⟨b, a, hread, hkey, hvalue, hne, hmark⟩

theorem AsksFor.unique {piece : List Char} {key key' value value' : String}
    (h : AsksFor piece key value) (h' : AsksFor piece key' value') : key = key' ∧ value = value' := by
  have hsame := (readTerm_trim_eq_ok_iff.2 h).symm.trans (readTerm_trim_eq_ok_iff.2 h')
  exact Prod.mk.inj (Except.ok.inj hsame)

theorem AsksFor.not_blank {piece : List Char} {key value : String} (h : AsksFor piece key value) :
    ¬ AllBlank piece := by
  obtain ⟨before, after, hcut, -⟩ := h
  intro hblank
  have hmem := exists_cut_iff.1 ⟨before, after, hcut⟩
  exact absurd (hblank '=' hmem) (by decide)

/-! ## Reading piece by piece -/

/-- The selector with what the pieces ask for added one after the other. -/
def readPieces (s : Selector) (ps : List (List Char)) : Except SelectorFault Selector :=
  readTerms s ((ps.map trim).filter (!·.isEmpty))

theorem readPieces_nil (s : Selector) : readPieces s [] = .ok s := rfl

/-- A piece that is read is blank and does nothing, or asks for a label and adds it. -/
theorem readPieces_cons_eq_ok_iff {s s' : Selector} {p : List Char} {ps : List (List Char)} :
    readPieces s (p :: ps) = .ok s' ↔
      (AllBlank p ∧ readPieces s ps = .ok s') ∨
      ∃ key value, AsksFor p key value ∧ readPieces (s.withTerm key value) ps = .ok s' := by
  unfold readPieces
  rw [List.map_cons]
  by_cases hblank : AllBlank p
  · have hnot : ∀ key value, ¬ AsksFor p key value := fun _ _ h => h.not_blank hblank
    rw [Text.trim_eq_nil_iff.2 hblank, List.filter_cons_of_neg (by simp)]
    simp [hblank, hnot]
  · have hne : trim p ≠ [] := mt Text.trim_eq_nil_iff.1 hblank
    rw [List.filter_cons_of_pos (by simpa using hne), readTerms]
    simp only [hblank, false_and, false_or, ← readTerm_trim_eq_ok_iff]
    cases readTerm (trim p) with
    | error fault => simp
    | ok entry =>
      obtain ⟨key, value⟩ := entry
      constructor
      · intro h
        exact ⟨key, value, rfl, h⟩
      · rintro ⟨key', value', heq, h⟩
        obtain ⟨rfl, rfl⟩ := Prod.mk.inj (Except.ok.inj heq)
        exact h

theorem readPieces_append_eq_ok_iff {s s' : Selector} {ps qs : List (List Char)} :
    readPieces s (ps ++ qs) = .ok s' ↔
      ∃ m, readPieces s ps = .ok m ∧ readPieces m qs = .ok s' := by
  induction ps generalizing s with
  | nil => simp [readPieces_nil]
  | cons p ps ih =>
    rw [List.cons_append, readPieces_cons_eq_ok_iff]
    simp only [ih, readPieces_cons_eq_ok_iff]
    constructor
    · rintro (⟨hblank, m, hm, hs⟩ | ⟨key, value, hasks, m, hm, hs⟩)
      · exact ⟨m, .inl ⟨hblank, hm⟩, hs⟩
      · exact ⟨m, .inr ⟨key, value, hasks, hm⟩, hs⟩
    · rintro ⟨m, ⟨hblank, hm⟩ | ⟨key, value, hasks, hm⟩, hs⟩
      · exact .inl ⟨hblank, m, hm, hs⟩
      · exact .inr ⟨key, value, hasks, m, hm, hs⟩

/-- Pieces are read exactly if all of them are blank or ask for a label. -/
theorem exists_readPieces_iff {s : Selector} {ps : List (List Char)} :
    (∃ s', readPieces s ps = .ok s') ↔
      ∀ p ∈ ps, ¬ AllBlank p → ∃ key value, AsksFor p key value := by
  induction ps generalizing s with
  | nil => simp [readPieces_nil]
  | cons p ps ih =>
    simp only [readPieces_cons_eq_ok_iff, List.forall_mem_cons]
    constructor
    · rintro ⟨s', ⟨hblank, hs⟩ | ⟨key, value, hasks, hs⟩⟩
      · exact ⟨fun h => absurd hblank h, ih.1 ⟨s', hs⟩⟩
      · exact ⟨fun _ => ⟨key, value, hasks⟩, ih.1 ⟨s', hs⟩⟩
    · rintro ⟨hp, hps⟩
      by_cases hblank : AllBlank p
      · obtain ⟨s', hs⟩ := (ih (s := s)).2 hps
        exact ⟨s', .inl ⟨hblank, hs⟩⟩
      · obtain ⟨key, value, hasks⟩ := hp hblank
        obtain ⟨s', hs⟩ := ih.2 hps
        exact ⟨s', .inr ⟨key, value, hasks, hs⟩⟩

/-! ## What is read -/

/-- The last piece that asks for the label asks for this value. -/
def LastAsked (ps : List (List Char)) (key value : String) : Prop :=
  LastGiving (AsksFor · key) ps value

/-- The last piece that asks for a label has none behind it that does. -/
theorem lastAsked_iff {ps : List (List Char)} {key value : String} :
    LastAsked ps key value ↔ ∃ earlier p later, ps = earlier ++ p :: later ∧ AsksFor p key value ∧
      ∀ q ∈ later, ∀ value, ¬ AsksFor q key value := by
  constructor
  · rintro ⟨p, ⟨earlier, later, rfl, -, hlater⟩, hasks⟩
    exact ⟨earlier, p, later, rfl, hasks, fun q hq => not_exists.1 (hlater q hq)⟩
  · rintro ⟨earlier, p, later, rfl, hasks, hlater⟩
    exact ⟨p, ⟨earlier, later, rfl, ⟨value, hasks⟩, fun q hq => not_exists.2 (hlater q hq)⟩, hasks⟩

theorem givesOne_asksFor : GivesOne AsksFor := fun _ _ _ _ _ h h' => h.unique h'

/-- The terms are those that were there, with the entries that the pieces ask for. -/
theorem exists_entries_of_readPieces {s s' : Selector} {ps : List (List Char)}
    (h : readPieces s ps = .ok s') : ∃ es, Entries AsksFor ps es ∧
      s'.terms = es.foldl (fun m e => m.insert e.1 e.2) s.terms := by
  induction ps generalizing s with
  | nil =>
    obtain rfl := Except.ok.inj h
    exact ⟨[], .nil, rfl⟩
  | cons p ps ih =>
    rcases readPieces_cons_eq_ok_iff.1 h with ⟨hblank, hrest⟩ | ⟨key, value, hasks, hrest⟩
    · obtain ⟨es, hes, hterms⟩ := ih hrest
      exact ⟨es, .none (fun _ _ hasks => hasks.not_blank hblank) hes, hterms⟩
    · obtain ⟨es, hes, hterms⟩ := ih hrest
      exact ⟨(key, value) :: es, .one hasks hes, hterms⟩

/-- What is bound after reading is what the last piece that asks for it says, or else what was bound
before. -/
theorem find?_readPieces {s s' : Selector} {ps : List (List Char)} (h : readPieces s ps = .ok s')
    {key value : String} :
    s'.terms.find? key = some value ↔ LastAsked ps key value ∨
      (s.terms.find? key = some value ∧ ∀ p ∈ ps, ∀ value, ¬ AsksFor p key value) := by
  obtain ⟨es, hes, hterms⟩ := exists_entries_of_readPieces h
  rw [hterms, SortedMap.find?_foldl_insert_eq_some_iff, hes.lastWith_iff givesOne_asksFor,
    hes.forall_ne_iff givesOne_asksFor, LastAsked]

/-! ## Other spellings -/

/-- The ways to respell a list of pieces that do not matter: one more blank piece, white space around a
piece, and two neighbours with different keys the other way round. -/
inductive Respells : List (List Char) → List (List Char) → Prop
  | blank {ps qs : List (List Char)} {b : List Char} (blank : AllBlank b) :
      Respells (ps ++ qs) (ps ++ b :: qs)
  | spaced {ps qs : List (List Char)} {p w w' : List Char} (before : AllBlank w)
      (after : AllBlank w') : Respells (ps ++ p :: qs) (ps ++ (w ++ p ++ w') :: qs)
  | swapped {ps qs : List (List Char)} {p q : List Char}
      (differ : ∀ key value value', AsksFor p key value → ¬ AsksFor q key value') :
      Respells (ps ++ p :: q :: qs) (ps ++ q :: p :: qs)

/-- Terms for different keys can be added in any order. -/
theorem withTerm_comm {key key' : String} (h : key ≠ key') (s : Selector) (value value' : String) :
    (s.withTerm key value).withTerm key' value' = (s.withTerm key' value').withTerm key value := by
  refine congrArg Selector.mk (SortedMap.ext_find? fun k => ?_)
  simp only [SortedMap.find?_insert, withTerm]
  by_cases hkey : k = key
  · subst hkey
    simp [h]
  · simp [hkey]

theorem readPieces_swap {s s' : Selector} {p q : List Char} {ps : List (List Char)}
    (differ : ∀ key value value', AsksFor p key value → ¬ AsksFor q key value')
    (h : readPieces s (p :: q :: ps) = .ok s') : readPieces s (q :: p :: ps) = .ok s' := by
  simp only [readPieces_cons_eq_ok_iff] at h ⊢
  rcases h with ⟨hp, ⟨hq, hs⟩ | ⟨key, value, hq, hs⟩⟩ |
    ⟨key, value, hp, ⟨hq, hs⟩ | ⟨key', value', hq, hs⟩⟩
  · exact .inl ⟨hq, .inl ⟨hp, hs⟩⟩
  · exact .inr ⟨key, value, hq, .inl ⟨hp, hs⟩⟩
  · exact .inl ⟨hq, .inr ⟨key, value, hp, hs⟩⟩
  · have hne : key ≠ key' := by
      rintro rfl
      exact differ _ _ _ hp hq
    rw [withTerm_comm hne] at hs
    exact .inr ⟨key', value', hq, .inr ⟨key, value, hp, hs⟩⟩

/-- One respelling changes nothing. -/
theorem Respells.readPieces_iff {ps qs : List (List Char)} (h : Respells ps qs) (s s' : Selector) :
    readPieces s ps = .ok s' ↔ readPieces s qs = .ok s' := by
  cases h with
  | @blank ps qs b blank =>
    have hnot : ∀ key value, ¬ AsksFor b key value := fun _ _ h => h.not_blank blank
    simp [readPieces_append_eq_ok_iff, readPieces_cons_eq_ok_iff, blank, hnot]
  | @spaced ps qs p w w' before after =>
    simp only [readPieces, List.map_append, List.map_cons,
      Text.trim_append_around before p after]
  | @swapped ps qs p q differ =>
    have differ' : ∀ key value value', AsksFor q key value → ¬ AsksFor p key value' :=
      fun key value value' hq hp => differ key value' value hp hq
    simp only [readPieces_append_eq_ok_iff]
    refine exists_congr fun m => and_congr_right fun _ => ?_
    exact ⟨readPieces_swap differ, readPieces_swap differ'⟩

/-- Nor do any number of them, forth and back. -/
theorem readPieces_iff_of_eqvGen {ps qs : List (List Char)} (h : Relation.EqvGen Respells ps qs)
    (s s' : Selector) : readPieces s ps = .ok s' ↔ readPieces s qs = .ok s' := by
  induction h with
  | rel ps qs h => exact h.readPieces_iff s s'
  | refl ps => exact Iff.rfl
  | symm ps qs _ ih => exact ih.symm
  | trans ps rs qs _ _ ihleft ihright => exact ihleft.trans ihright

/-! ## What is refused -/

/-- Terms of selectors that are more than equalities: an inequality, a key alone, which asks for the label
with any value, a key with an exclamation mark before it, which asks for the label to be missing, and
the first piece of a choice among values. -/
inductive Unsupported : List Char → Prop
  | inequality {key value : List Char} (no_equals : '=' ∉ key)
      (no_double : ¬ ['=', '='] <:+: value) : Unsupported (key ++ '!' :: '=' :: value)
  | present {key : List Char} (not_blank : ¬ AllBlank key) (no_equals : '=' ∉ key) : Unsupported key
  | missing {key : List Char} (no_equals : '=' ∉ key) : Unsupported ('!' :: key)
  | among {key word values : List Char}
      (word_eq : word = ['i', 'n'] ∨ word = ['n', 'o', 't', 'i', 'n'])
      (no_equals : '=' ∉ key ++ ' ' :: word ++ ' ' :: '(' :: values) :
      Unsupported (key ++ ' ' :: word ++ ' ' :: '(' :: values)

theorem not_double_append_equals {s : List Char} (h : '=' ∉ s) : ¬ ['=', '='] <:+: s ++ ['='] := by
  intro hin
  have hcount := hin.sublist.count_le '='
  rw [List.count_append, List.count_eq_zero_of_not_mem h] at hcount
  simp at hcount

/-- An inequality is cut at its equals sign, whatever its value begins with. -/
theorem cut_inequality {key value : List Char} (hkey : '=' ∉ key)
    (hvalue : ¬ ['=', '='] <:+: value) :
    ∃ after, Cut (key ++ '!' :: '=' :: value) (key ++ ['!']) after := by
  have hmark : '=' ∉ key ++ ['!'] := by simp [hkey]
  by_cases hhead : value.head? = some '='
  · -- the two equals signs in a row are the inequality's own and the first of its value
    obtain ⟨rest, rfl⟩ := List.head?_eq_some_iff.1 hhead
    exact ⟨rest, .double (by simp) (not_double_append_equals hmark)⟩
  · have hterm : termChars (String.ofList (key ++ ['!']), String.ofList value) =
        key ++ '!' :: '=' :: value := by
      simp [termChars]
    have hsides : sides? (termChars (String.ofList (key ++ ['!']), String.ofList value)) =
        some ((String.ofList (key ++ ['!'])).toList, (String.ofList value).toList) :=
      sides?_termChars (by simpa using hkey) (by simpa using hhead) (by simpa using hvalue)
    rw [hterm] at hsides
    exact ⟨value, sides?_eq_some_iff.1 (by simpa using hsides)⟩

theorem not_asksFor_of_no_equals {p : List Char} (h : '=' ∉ p) (key value : String) :
    ¬ AsksFor p key value := by
  rintro ⟨before, after, hcut, -⟩
  exact h (exists_cut_iff.1 ⟨before, after, hcut⟩)

theorem not_allBlank_of_mem {c : Char} {s : List Char} (hmem : c ∈ s)
    (hc : Text.isBlank c = false) : ¬ AllBlank s := by
  intro hblank
  rw [hblank c hmem] at hc
  cases hc

/-- No such term is blank, and none asks for a label. -/
theorem Unsupported.not_asked {p : List Char} (h : Unsupported p) :
    ¬ AllBlank p ∧ ∀ key value, ¬ AsksFor p key value := by
  cases h with
  | @inequality key value no_equals no_double =>
    have hmem : '!' ∈ key ++ '!' :: '=' :: value := by simp
    refine ⟨not_allBlank_of_mem hmem (by decide), ?_⟩
    rintro key' value' ⟨before, after, hcut, ⟨-, hmark⟩, -⟩
    obtain ⟨after', hcut'⟩ := cut_inequality no_equals no_double
    obtain ⟨rfl, -⟩ := hcut.unique hcut'
    refine hmark ?_
    rw [Text.trim_append_singleton (by decide), List.getLast?_concat]
  | present not_blank no_equals => exact ⟨not_blank, not_asksFor_of_no_equals no_equals⟩
  | missing no_equals =>
    have hnot : '=' ∉ '!' :: _ := List.not_mem_cons_of_ne_of_not_mem (by decide) no_equals
    exact ⟨not_allBlank_of_mem List.mem_cons_self (by decide), not_asksFor_of_no_equals hnot⟩
  | @among key word values word_eq no_equals =>
    have hmem : '(' ∈ key ++ ' ' :: word ++ ' ' :: '(' :: values := by simp
    exact ⟨not_allBlank_of_mem hmem (by decide), not_asksFor_of_no_equals no_equals⟩

/-! ## Texts -/

/-- The pieces of a text between its commas. -/
def piecesOf (text : String) : List (List Char) := Text.pieces ',' text.toList

theorem parse_eq_ok_iff_readPieces {text : String} {s : Selector} :
    parse text = .ok s ↔ readPieces all (piecesOf text) = .ok s :=
  parse_eq_ok_iff

theorem find?_of_parse {text : String} {s : Selector} (h : parse text = .ok s)
    {key value : String} :
    s.terms.find? key = some value ↔ LastAsked (piecesOf text) key value := by
  have hempty : (all : Selector).terms.find? key = none := rfl
  rw [find?_readPieces (parse_eq_ok_iff_readPieces.1 h), hempty]
  simp

theorem kind_of_parse {text : String} {e : Failure} (h : parse text = .error e) :
    e.kind = .validation := by
  unfold parse at h
  cases hread : ofChars text.toList with
  | error fault =>
    rw [hread] at h
    cases h
    rfl
  | ok s =>
    rw [hread] at h
    cases h

/-- A piece has an equals sign and a key before it exactly if it asks for a label. -/
theorem equality_iff_asksFor {p : List Char} :
    ('=' ∈ p ∧ ∀ before after, Cut p before after → IsKey before) ↔
      ∃ key value, AsksFor p key value := by
  constructor
  · rintro ⟨hmem, hkey⟩
    obtain ⟨before, after, hcut⟩ := exists_cut_iff.2 hmem
    exact ⟨_, _, before, after, hcut, hkey before after hcut, rfl, rfl⟩
  · rintro ⟨key, value, before, after, hcut, hkey, -⟩
    refine ⟨exists_cut_iff.1 ⟨before, after, hcut⟩, fun before' after' hcut' => ?_⟩
    obtain ⟨rfl, -⟩ := hcut.unique hcut'
    exact hkey

/-- **The grammar of selectors.** A text is read exactly if every piece that is not blank has an equals
sign and a key before it. What is read binds each key to what the last piece with this key says, and
stays the same if blank pieces are put in, white space around pieces, or pieces with different keys that
are neighbours in the other order. A text with an unsupported term among its pieces is refused as
invalid, whatever the others are. -/
theorem parse_reads_grammar (text : String) :
    ((∃ s, parse text = .ok s) ↔
      ∀ p ∈ piecesOf text, ¬ AllBlank p →
        '=' ∈ p ∧ ∀ before after, Cut p before after → IsKey before) ∧
    (∀ s, parse text = .ok s →
      (∀ key value, s.terms.find? key = some value ↔ LastAsked (piecesOf text) key value) ∧
      ∀ text', Relation.EqvGen Respells (piecesOf text) (piecesOf text') → parse text' = .ok s) ∧
    ∀ p ∈ piecesOf text, Unsupported p → ∃ e, parse text = .error e ∧ e.kind = .validation := by
  refine ⟨?_, fun s hs => ⟨fun key value => ?_, fun text' hrespelled => ?_⟩,
    fun p hp hunsupported => ?_⟩
  · simp only [parse_eq_ok_iff_readPieces, exists_readPieces_iff, equality_iff_asksFor]
  · exact find?_of_parse hs
  · rw [parse_eq_ok_iff_readPieces] at hs ⊢
    exact (readPieces_iff_of_eqvGen hrespelled all s).1 hs
  · obtain ⟨hblank, hnot⟩ := hunsupported.not_asked
    cases hparse : parse text with
    | error e => exact ⟨e, rfl, kind_of_parse hparse⟩
    | ok s =>
      obtain ⟨key, value, hasks⟩ :=
        exists_readPieces_iff.1 ⟨s, parse_eq_ok_iff_readPieces.1 hparse⟩ p hp hblank
      exact absurd hasks (hnot key value)

/-- The first piece of a choice among values is refused behind a good piece, and is what is named. -/
example : parse "app = web, tier in (front, back)" = .error
    ⟨.validation, "invalid selector term 'tier in (front': expected key=value"⟩ := by rfl

end BuildYard.Selector
