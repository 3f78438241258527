import BuildYard.Label.Build
import BuildYard.Label.Value
import BuildYard.Proofs.Label.SelectorText
/-!
# What the text of a selector means

A cluster in memory asks a selector whether it selects labels; a cluster behind an API server is sent
the text of the selector, and the server reads it. `SaysWhatItMeans` is that both come to the same.

* `saysWhatItMeans_iff`: they do exactly when the text is read back as the selector.
* `parse_text_single_iff`: for a single label of the build yard's, that depends on the value alone, and
  every label value will do.
* `fromOutside_saysWhatItMeans_iff`: which of the selectors that are made of what callers give do so.
  The ids in requests to cancel a build or to look at it are not checked, and the text for an id with a
  comma in it selects the jobs of another service: `not_saysWhatItMeans_foreignService`.
-/

namespace BuildYard.Selector

/-! ## Meaning -/

/-- Do labels satisfy a text? It has to be the text of a selector that selects them. -/
def Satisfies (text : String) (labels : Option Labels) : Prop :=
  ∃ s, parse text = .ok s ∧ s.selects labels = true

/-- The text of the selector is satisfied by the labels that the selector selects. -/
def SaysWhatItMeans (s : Selector) : Prop :=
  ∀ labels, Satisfies s.text labels ↔ s.selects labels = true

theorem selects_iff {s : Selector} {labels : Option Labels} :
    s.selects labels = true ↔
      ∀ key value, s.terms.find? key = some value → labels.bind (·.find? key) = some value := by
  constructor
  · intro h key value hfind
    have hterm := List.all_eq_true.1 h (key, value) (mem_entries_iff.2 hfind)
    exact eq_of_beq hterm
  · intro h
    refine List.all_eq_true.2 fun e he => ?_
    have hterm := h e.1 e.2 (mem_entries_iff.1 he)
    simp [hterm]

theorem selects_some_iff {s : Selector} {labels : Labels} :
    s.selects (some labels) = true ↔
      ∀ key value, s.terms.find? key = some value → labels.find? key = some value :=
  selects_iff

theorem selects_terms (s : Selector) : s.selects (some s.terms) = true :=
  selects_some_iff.2 fun _ _ hfind => hfind

/-- Selectors that select each other's terms are the same. -/
theorem eq_of_selects_terms {s s' : Selector} (h : s.selects (some s'.terms) = true)
    (h' : s'.selects (some s.terms) = true) : s = s' := by
  have hterms : s.terms = s'.terms := by
    refine SortedMap.ext_find? fun key => ?_
    cases hfind : s.terms.find? key with
    | some value => exact (selects_some_iff.1 h key value hfind).symm
    | none =>
      cases hfind' : s'.terms.find? key with
      | none => rfl
      | some value => exact absurd (selects_some_iff.1 h' key value hfind') (by simp [hfind])
  cases s
  cases s'
  exact congrArg Selector.mk hterms

/-- A text means the selector exactly when it is read back. -/
theorem saysWhatItMeans_iff (s : Selector) : s.SaysWhatItMeans ↔ parse s.text = .ok s := by
  constructor
  · intro h
    obtain ⟨s', hread, hselects⟩ := (h (some s.terms)).2 s.selects_terms
    have hback := (h (some s'.terms)).1 ⟨s', hread, s'.selects_terms⟩
    rw [hread, eq_of_selects_terms hback hselects]
  · intro h labels
    constructor
    · rintro ⟨s', hread, hselects⟩
      obtain rfl := Except.ok.inj (h.symm.trans hread)
      exact hselects
    · intro hselects
      exact ⟨s, h, hselects⟩

/-! ## A single label -/

theorem eq_of_find?_all_withTerm {key key' value value' : String}
    (h : (all.withTerm key value).terms.find? key' = some value') : key' = key ∧ value' = value := by
  rw [withTerm, SortedMap.find?_insert] at h
  split at h
  · rename_i heq
    exact ⟨Std.LawfulEqOrd.eq_of_compare heq, (Option.some.inj h).symm⟩
  · cases h

/-- Where there is no white space at all, there is none at the ends. -/
theorem isTrimmed_of_not_blank {s : List Char} (h : ∀ c ∈ s, Text.isBlank c = false) :
    Text.IsTrimmed s where
  head c hc := h c (List.mem_of_mem_head? hc)
  getLast c hc := h c (List.mem_of_getLast? hc)

/-- The keys of the build yard's labels can all be written. -/
theorem isReadableKey_text (key : LabelKey) : IsReadableKey key.text := by
  have hall : key.text.toList.all (fun c => !Text.isBlank c) = true := by
    cases key <;> rfl
  have hblank : ∀ c ∈ key.text.toList, Text.isBlank c = false := by
    intro c hc
    simpa using List.all_eq_true.1 hall c hc
  exact {
    ne_empty := by cases key <;> decide
    trimmed := isTrimmed_of_not_blank hblank
    no_comma := by cases key <;> decide
    no_equals := by cases key <;> decide
    no_mark := by cases key <;> decide }

theorem parse_text_single_iff (key : LabelKey) (value : String) :
    parse (all.withTerm key.text value).text = .ok (all.withTerm key.text value) ↔
      IsReadableValue value := by
  constructor
  · intro h
    exact (isReadable_of_parse_text h (SortedMap.find?_insert_self _ key.text value)).2
  · intro h
    refine parse_text_of_readable fun key' value' hfind => ?_
    obtain ⟨rfl, rfl⟩ := eq_of_find?_all_withTerm hfind
    exact ⟨isReadableKey_text key, h⟩

theorem isBlank_of_isLabelInner {c : Char} (h : isLabelInner c = true) :
    Text.isBlank c = false := by
  simp only [isLabelInner, Bool.or_eq_true, beq_iff_eq] at h
  rcases h with ((h | rfl) | rfl) | rfl
  · have hrange := Text.toNat_of_isAlphanum h
    simp only [Text.isBlank, Bool.or_eq_false_iff, Bool.and_eq_false_iff, decide_eq_false_iff_not,
      beq_eq_false_iff_ne]
    omega
  all_goals decide

/-- What is checked to be a label value can be written. -/
theorem isReadableValue_of_labelFault? {value : String} (h : labelFault? value = none) :
    IsReadableValue value := by
  have hinner := (of_labelFault?_eq_none h).2
  have hnot : ∀ c, isLabelInner c = false → c ∉ value.toList := by
    intro c hc hmem
    rw [hinner c hmem] at hc
    cases hc
  have hblank : ∀ c ∈ value.toList, Text.isBlank c = false := fun c hc =>
    isBlank_of_isLabelInner (hinner c hc)
  exact {
    trimmed := isTrimmed_of_not_blank hblank
    no_comma := hnot ',' (by decide)
    no_leading_equals := fun hc => hnot '=' (by decide) (List.mem_of_mem_head? hc)
    no_double_equals := fun hdouble => hnot '=' (by decide) (hdouble.subset List.mem_cons_self) }

/-- A label with a checked value is sent as what it is. -/
theorem saysWhatItMeans_of_labelFault? (key : LabelKey) {value : String}
    (h : labelFault? value = none) : (all.withTerm key.text value).SaysWhatItMeans :=
  (saysWhatItMeans_iff _).2 ((parse_text_single_iff key value).2 (isReadableValue_of_labelFault? h))

/-! ## What callers give -/

/-- The selectors that are made of what callers give: the selector of a query, that of the jobs of a
service, and that of the pods of a job. -/
inductive FromOutside : Selector → Prop where
  | ofQuery {text : String} {s : Selector} (h : parse text = .ok s) : FromOutside s
  | ofService (serviceId : String) : FromOutside (forService serviceId)
  | ofJob (jobName : String) : FromOutside (forJobPods jobName)

/-- Whatever callers give, it is not the keys that go wrong, except for an equals sign in one. -/
theorem FromOutside.isReadableKey {s : Selector} (h : FromOutside s) {key value : String}
    (hfind : s.terms.find? key = some value) (hequals : '=' ∉ key.toList) : IsReadableKey key := by
  cases h with
  | ofQuery h =>
    obtain ⟨hne, htrimmed, hmark, hcomma, -, -⟩ := of_parse h hfind
    exact ⟨hne, htrimmed, hcomma, hequals, hmark⟩
  | ofService serviceId =>
    obtain ⟨rfl, -⟩ := eq_of_find?_all_withTerm hfind
    exact isReadableKey_text .serviceId
  | ofJob jobName =>
    obtain ⟨rfl, -⟩ := eq_of_find?_all_withTerm hfind
    exact isReadableKey_text .jobName

/-- **Which selectors are sent as what they are.** Of the selectors that are made of what callers
give, exactly those without an equals sign in a key and with values that can be written are read back
from their text, and only the texts of these are satisfied by the labels that the selector selects. -/
theorem fromOutside_saysWhatItMeans_iff {s : Selector} (h : FromOutside s) :
    (s.SaysWhatItMeans ↔ parse s.text = .ok s) ∧
      (parse s.text = .ok s ↔
        ∀ key value, s.terms.find? key = some value →
          '=' ∉ key.toList ∧ IsReadableValue value) := by
  refine ⟨saysWhatItMeans_iff s, ?_, ?_⟩
  · intro hparse key value hfind
    obtain ⟨hkey, hvalue⟩ := isReadable_of_parse_text hparse hfind
    exact ⟨hkey.no_equals, hvalue⟩
  · intro hterms
    refine parse_text_of_readable fun key value hfind => ?_
    obtain ⟨hequals, hvalue⟩ := hterms key value hfind
    exact ⟨h.isReadableKey hfind hequals, hvalue⟩

/-- The query `app==web, tier=front` is sent as `app=web,tier=front`, which is the same. -/
theorem fromOutside_saysWhatItMeans_iff_twoTerms :
    let s := (all.withTerm "app" "web").withTerm "tier" "front"
    FromOutside s ∧ s.SaysWhatItMeans ∧ parse s.text = .ok s := by
  have hread : parse "app==web, tier=front" =
      .ok ((all.withTerm "app" "web").withTerm "tier" "front") := by rfl
  have houtside := FromOutside.ofQuery hread
  obtain ⟨hmeans, -⟩ := fromOutside_saysWhatItMeans_iff houtside
  have hparse : parse ((all.withTerm "app" "web").withTerm "tier" "front").text =
      .ok ((all.withTerm "app" "web").withTerm "tier" "front") := by rfl
  exact ⟨houtside, hmeans.2 hparse, hparse⟩

/-- Canceling the builds of a service with the id `a,unbind-deployment-job=true` selects no build but
its own, yet the text that is sent selects every build of the service `a`. And the query `a=b==c` asks
for a label `a=b`, yet the text that is sent asks for a label `a`. -/
theorem not_saysWhatItMeans_foreignService :
    (Satisfies (forService "a,unbind-deployment-job=true").text
        (some (BuildLabels.toLabels ⟨"a", "b", "b-deployment-1700000000"⟩)) ∧
      (forService "a,unbind-deployment-job=true").selects
        (some (BuildLabels.toLabels ⟨"a", "b", "b-deployment-1700000000"⟩)) = false) ∧
    ∃ s, parse "a=b==c" = .ok s ∧ s.selects (some (.ofList [("a=b", "c")])) = true ∧
      ¬ Satisfies s.text (some (.ofList [("a=b", "c")])) := by
  constructor
  · have hread : parse (forService "a,unbind-deployment-job=true").text =
        .ok ((forService "a").withTerm "unbind-deployment-job" "true") := by rfl
    exact ⟨⟨_, hread, by rfl⟩, by rfl⟩
  · have hreread : parse (all.withTerm "a=b" "c").text = .ok (all.withTerm "a" "b=c") := by rfl
    refine ⟨all.withTerm "a=b" "c", by rfl, by rfl, ?_⟩
    rintro ⟨s, hs, hselects⟩
    obtain rfl := Except.ok.inj (hreread.symm.trans hs)
    exact absurd hselects (by decide)

end BuildYard.Selector
