import BuildYard.Proofs.Label.SelectorGrammar
import BuildYard.Proofs.Label.SelectorMeaning
/-!
# What a selector asks of labels

A selector is read from pieces, and each piece that is not blank asks for a label with a value. Labels
are selected if they are what the pieces ask for, except that a key is bound once: of the pieces with
one key, only the last counts.

* `selects_iff_lastAsked`: what labels have to hold.
* `selects_iff_satisfied`: which of the pieces they have to satisfy, and when it is all of them.
* `not_selects_iff_satisfied_repeatedKey`: it need not be all of them.
-/

namespace BuildYard.Selector

open Text (AllBlank)

/-- The labels hold the label that the piece asks for, with the value that it asks for. -/
def Satisfied (labels : Option Labels) (p : List Char) : Prop :=
  ∃ key value, AsksFor p key value ∧ labels.bind (·.find? key) = some value

/-- The two pieces ask for the same label. -/
def SameKey (p q : List Char) : Prop :=
  ∃ key value value', AsksFor p key value ∧ AsksFor q key value'

/-- No two of the pieces ask for the same label with different values. -/
def Consistent (ps : List (List Char)) : Prop :=
  ∀ p ∈ ps, ∀ q ∈ ps, ∀ key value value', AsksFor p key value → AsksFor q key value' →
    value = value'

variable {text : String} {s : Selector} {p : List Char} {key value : String}

theorem satisfied_iff_of_asksFor {labels : Option Labels} (h : AsksFor p key value) :
    Satisfied labels p ↔ labels.bind (·.find? key) = some value := by
  constructor
  · rintro ⟨key', value', hasks, hfind⟩
    obtain ⟨rfl, rfl⟩ := hasks.unique h
    exact hfind
  · intro hfind
    exact ⟨key, value, h, hfind⟩

/-- A piece that is not blank asks for a label, if the text is read at all. -/
theorem exists_asksFor_of_parse (h : parse text = .ok s) (hp : p ∈ piecesOf text)
    (hblank : ¬ AllBlank p) : ∃ key value, AsksFor p key value :=
  exists_readPieces_iff.1 ⟨s, parse_eq_ok_iff_readPieces.1 h⟩ p hp hblank

/-- Labels are selected exactly if they hold what is asked for last, for every key. -/
theorem selects_iff_lastAsked (h : parse text = .ok s) (labels : Option Labels) :
    s.selects labels = true ↔
      ∀ key value, LastAsked (piecesOf text) key value →
        labels.bind (·.find? key) = some value := by
  simp only [selects_iff, find?_of_parse h]

/-- Labels that satisfy all the pieces are selected, whether keys are repeated or not. -/
theorem selects_of_forall_satisfied (h : parse text = .ok s) {labels : Option Labels}
    (hall : ∀ p ∈ piecesOf text, ¬ AllBlank p → Satisfied labels p) :
    s.selects labels = true := by
  rw [selects_iff_lastAsked h]
  intro key value hlast
  obtain ⟨p, hp, hasks⟩ := LastGiving.exists_mem hlast
  exact (satisfied_iff_of_asksFor hasks).1 (hall p hp hasks.not_blank)

/-- The labels that are selected are those that satisfy the pieces with no later one for their label. -/
theorem selects_iff_last_satisfied (h : parse text = .ok s) (labels : Option Labels) :
    s.selects labels = true ↔
      ∀ earlier p later, piecesOf text = earlier ++ p :: later → ¬ AllBlank p →
        (∀ q ∈ later, ¬ SameKey p q) → Satisfied labels p := by
  rw [selects_iff_lastAsked h]
  constructor
  · intro hlast earlier p later hpieces hblank hlater
    obtain ⟨key, value, hasks⟩ :=
      exists_asksFor_of_parse h (by simp [hpieces] : p ∈ piecesOf text) hblank
    have hunasked : ∀ q ∈ later, ∀ value', ¬ AsksFor q key value' := fun q hq value' hasks' =>
      hlater q hq ⟨key, value, value', hasks, hasks'⟩
    refine ⟨key, value, hasks, hlast key value (lastAsked_iff.2 ?_)⟩
    exact ⟨earlier, p, later, hpieces, hasks, hunasked⟩
  · intro hall key value hlast
    obtain ⟨earlier, p, later, hpieces, hasks, hunasked⟩ := lastAsked_iff.1 hlast
    have hlater : ∀ q ∈ later, ¬ SameKey p q := by
      rintro q hq ⟨key', value₁, value₂, hp, hq'⟩
      obtain ⟨rfl, -⟩ := hp.unique hasks
      exact hunasked q hq value₂ hq'
    exact (satisfied_iff_of_asksFor hasks).1 (hall earlier p later hpieces hasks.not_blank hlater)

/-- A selector always selects its own terms, so pieces that it asks for all together agree. -/
theorem consistent_of_selects_iff {ps : List (List Char)}
    (hall : ∀ labels, s.selects labels = true ↔ ∀ p ∈ ps, ¬ AllBlank p → Satisfied labels p) :
    Consistent ps := by
  -- the selector's own terms are labels, and hold one value for each key
  have hterms := (hall (some s.terms)).1 s.selects_terms
  intro p hp q hq key value value' hasks hasks'
  have hfind := (satisfied_iff_of_asksFor hasks).1 (hterms p hp hasks.not_blank)
  have hfind' := (satisfied_iff_of_asksFor hasks').1 (hterms q hq hasks'.not_blank)
  exact Option.some.inj (hfind.symm.trans hfind')

/-- Where the pieces agree, the last one for a label asks for what the others ask for. -/
theorem forall_satisfied_of_consistent (h : parse text = .ok s)
    (hconsistent : Consistent (piecesOf text)) {labels : Option Labels}
    (hselects : s.selects labels = true) :
    ∀ p ∈ piecesOf text, ¬ AllBlank p → Satisfied labels p := by
  rw [selects_iff_lastAsked h] at hselects
  intro p hp hblank
  obtain ⟨key, value, hasks⟩ := exists_asksFor_of_parse h hp hblank
  have hasked : ∃ q ∈ piecesOf text, ∃ value, AsksFor q key value := ⟨p, hp, value, hasks⟩
  obtain ⟨value', hlast⟩ := exists_lastGiving_iff.2 hasked
  obtain ⟨q, hq, hasks'⟩ := hlast.exists_mem
  obtain rfl := hconsistent p hp q hq key value value' hasks hasks'
  exact ⟨key, value, hasks, hselects key value hlast⟩

/-- **A selector is the conjunction of its terms, the last ones for their keys.** It selects the labels
that satisfy each piece of the text that is not blank and has no later piece with the same key. It asks
for all the pieces that are not blank exactly if no two of them have one key and different values. -/
theorem selects_iff_satisfied (h : parse text = .ok s) :
    (∀ labels, s.selects labels = true ↔
      ∀ earlier p later, piecesOf text = earlier ++ p :: later → ¬ AllBlank p →
        (∀ q ∈ later, ¬ SameKey p q) → Satisfied labels p) ∧
    ((∀ labels, s.selects labels = true ↔
        ∀ p ∈ piecesOf text, ¬ AllBlank p → Satisfied labels p) ↔
      Consistent (piecesOf text)) := by
  refine ⟨selects_iff_last_satisfied h, consistent_of_selects_iff, ?_⟩
  intro hconsistent labels
  exact ⟨forall_satisfied_of_consistent h hconsistent, selects_of_forall_satisfied h⟩

/-- The query `app = web, tier==frontend` asks for both of its terms. -/
theorem selects_iff_satisfied_twoKeys :
    ∃ s, parse "app = web, tier==frontend" = .ok s ∧ ∀ labels, s.selects labels = true ↔
      ∀ p ∈ piecesOf "app = web, tier==frontend", ¬ AllBlank p → Satisfied labels p := by
  have hread : parse "app = web, tier==frontend" =
      .ok ((all.withTerm "app" "web").withTerm "tier" "frontend") := by rfl
  have hpieces : piecesOf "app = web, tier==frontend" =
      ["app = web".toList, " tier==frontend".toList] := by rfl
  have happ : AsksFor "app = web".toList "app" "web" := readTerm_trim_eq_ok_iff.1 (by rfl)
  have htier : AsksFor " tier==frontend".toList "tier" "frontend" :=
    readTerm_trim_eq_ok_iff.1 (by rfl)
  refine ⟨_, hread, (selects_iff_satisfied hread).2.2 ?_⟩
  rw [hpieces]
  intro p hp q hq key value value' hasks hasks'
  simp only [List.mem_cons, List.not_mem_nil, or_false] at hp hq
  rcases hp with rfl | rfl <;> rcases hq with rfl | rfl
  · exact (hasks.unique hasks').2
  · have hkey := (hasks.unique happ).1.symm.trans (hasks'.unique htier).1
    exact absurd hkey (by decide)
  · have hkey := (hasks.unique htier).1.symm.trans (hasks'.unique happ).1
    exact absurd hkey (by decide)
  · exact (hasks.unique hasks').2

/-- The query `app=web,app=api` selects an `app` that is not `web`. -/
theorem not_selects_iff_satisfied_repeatedKey :
    ∃ s, parse "app=web,app=api" = .ok s ∧ s.selects (some (.ofList [("app", "api")])) = true ∧
      ∃ p ∈ piecesOf "app=web,app=api", ¬ AllBlank p ∧
        ¬ Satisfied (some (.ofList [("app", "api")])) p := by
  have hasks : AsksFor "app=web".toList "app" "web" := readTerm_trim_eq_ok_iff.1 (by rfl)
  have hpieces : piecesOf "app=web,app=api" = ["app=web".toList, "app=api".toList] := by rfl
  refine ⟨all.withTerm "app" "api", by rfl, by rfl, "app=web".toList, ?_, hasks.not_blank, ?_⟩
  · rw [hpieces]
    exact List.mem_cons_self
  · rw [satisfied_iff_of_asksFor hasks]
    decide

end BuildYard.Selector
