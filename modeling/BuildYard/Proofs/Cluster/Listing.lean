import BuildYard.Cluster.Store
/-!
# Listings

A listing gives the objects of a namespace that pass a test, in the order of the names that they are
stored under.

* `Store.mem_within`, `Store.pairwise_entriesWithin`: what is listed, and in which order.
* `Store.head?_within`: what is listed first.
-/

namespace BuildYard.Store

variable {α : Type} {objects : SortedMap ObjectKey α} {ns : String} {test : α → Bool} {a : α}

/-- The object comes first, by the names that objects are stored under, among those of a namespace
that pass a test. -/
def IsFirst (objects : SortedMap ObjectKey α) (ns : String) (test : α → Bool) (a : α) : Prop :=
  ∃ name, objects.find? ⟨ns, name⟩ = some a ∧ test a ∧
    ∀ name' a', objects.find? ⟨ns, name'⟩ = some a' → test a' → name ≤ name'

/-- The entries behind a listing. -/
def entriesWithin (objects : SortedMap ObjectKey α) (ns : String) (test : α → Bool) :
    SortedMap ObjectKey α :=
  objects.filter fun key a => key.namespace_ == ns && test a

theorem values_entriesWithin (objects : SortedMap ObjectKey α) (ns : String) (test : α → Bool) :
    (entriesWithin objects ns test).values = within objects ns test := rfl

theorem mem_entriesWithin {key : ObjectKey} :
    (key, a) ∈ (entriesWithin objects ns test).entries ↔
      key.namespace_ = ns ∧ objects.find? key = some a ∧ test a := by
  rw [SortedMap.mem_entries_iff, entriesWithin, SortedMap.find?_filter_eq_some_iff,
    Bool.and_eq_true, beq_iff_eq]
  exact and_left_comm

/-- A listing gives the objects of the namespace that pass the test. -/
theorem mem_within :
    a ∈ within objects ns test ↔ ∃ name, objects.find? ⟨ns, name⟩ = some a ∧ test a := by
  rw [← values_entriesWithin, SortedMap.values, List.mem_map]
  constructor
  · rintro ⟨⟨⟨ns', name⟩, a⟩, hmem, rfl⟩
    obtain ⟨rfl, hfind, htest⟩ := mem_entriesWithin.1 hmem
    exact ⟨name, hfind, htest⟩
  · rintro ⟨name, hfind, htest⟩
    exact ⟨(⟨ns, name⟩, a), mem_entriesWithin.2 ⟨rfl, hfind, htest⟩, rfl⟩

/-- The names behind a listing are in strictly ascending order. -/
theorem pairwise_entriesWithin (objects : SortedMap ObjectKey α) (ns : String) (test : α → Bool) :
    (entriesWithin objects ns test).entries.Pairwise fun e e' => e.1.name < e'.1.name := by
  refine (entriesWithin objects ns test).ascending.imp_of_mem fun {e e'} he he' hlt => ?_
  exact ObjectKey.name_lt_of_compare
    ((mem_entriesWithin.1 he).1.trans (mem_entriesWithin.1 he').1.symm) hlt

/-- A list in strictly ascending order begins with the element that is before all others. -/
theorem head?_eq_some_iff_of_pairwise {β : Type} {before : β → β → Prop}
    (hasymm : ∀ {b b'}, before b b' → ¬ before b' b) {l : List β} (h : l.Pairwise before) {b : β} :
    l.head? = some b ↔ b ∈ l ∧ ∀ b' ∈ l, b' = b ∨ before b b' := by
  cases l with
  | nil => simp
  | cons first rest =>
    obtain ⟨hfirst, -⟩ := List.pairwise_cons.1 h
    constructor
    · intro hhead
      obtain rfl := Option.some.inj hhead
      exact ⟨List.mem_cons_self, fun b' hb' => (List.mem_cons.1 hb').imp_right (hfirst b')⟩
    · rintro ⟨hb, hleast⟩
      rcases List.mem_cons.1 hb with rfl | hb
      · rfl
      · rcases hleast first List.mem_cons_self with rfl | hbefore
        · rfl
        · exact absurd (hfirst b hb) (hasymm hbefore)

/-- A listing begins with the object that comes first by name. -/
theorem head?_within : (within objects ns test).head? = some a ↔ IsFirst objects ns test a := by
  have hhead : ∀ {e}, (entriesWithin objects ns test).entries.head? = some e ↔
      e ∈ (entriesWithin objects ns test).entries ∧
        ∀ e' ∈ (entriesWithin objects ns test).entries, e' = e ∨ e.1.name < e'.1.name :=
    head?_eq_some_iff_of_pairwise String.lt_asymm (pairwise_entriesWithin ..)
  rw [← values_entriesWithin, SortedMap.values, List.head?_map, Option.map_eq_some_iff]
  constructor
  · rintro ⟨⟨⟨ns', name⟩, a⟩, hfirst, rfl⟩
    obtain ⟨hmem, hleast⟩ := hhead.1 hfirst
    obtain ⟨rfl, hfind, htest⟩ := mem_entriesWithin.1 hmem
    refine ⟨name, hfind, htest, fun name' a' hfind' htest' => ?_⟩
    have hmem' : (⟨ns', name'⟩, a') ∈ (entriesWithin objects ns' test).entries :=
      mem_entriesWithin.2 ⟨rfl, hfind', htest'⟩
    rcases hleast _ hmem' with heq | hlt
    · cases heq
      exact String.le_refl name
    · exact Std.le_of_lt hlt
  · rintro ⟨name, hfind, htest, hleast⟩
    refine ⟨(⟨ns, name⟩, a), hhead.2 ⟨mem_entriesWithin.2 ⟨rfl, hfind, htest⟩, ?_⟩, rfl⟩
    rintro ⟨⟨ns', name'⟩, a'⟩ hmem'
    obtain ⟨rfl, hfind', htest'⟩ := mem_entriesWithin.1 hmem'
    rcases Std.le_iff_lt_or_eq.1 (hleast name' a' hfind' htest') with hlt | rfl
    · exact .inr hlt
    · rw [hfind] at hfind'
      cases hfind'
      exact .inl rfl

end BuildYard.Store
