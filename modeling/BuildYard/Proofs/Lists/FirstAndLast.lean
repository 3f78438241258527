import BuildYard.SortedMap
import Mathlib.Data.List.Nodup
import Mathlib.Tactic.Tauto
/-!
# The first and the last that count

Much of what is read from a list is read from its first element of some kind, or from its last.

* `FirstWith`, `LastWith`: the first and the last element with a property.
* `LastGiving`: what the last element gives that gives anything.
* `SortedMap.find?_ofList_eq_some_iff`: what a map of entries holds, when keys are repeated.
* `Entries.lastWith_iff`: the same when elements of a list give the entries.
-/

namespace BuildYard

/-! ## The first one -/

/-- The first element of a list that has a property. -/
def FirstWith {α : Type} (p : α → Prop) (l : List α) (a : α) : Prop :=
  ∃ before after, l = before ++ a :: after ∧ p a ∧ ∀ b ∈ before, ¬ p b

section FirstWith

variable {α β : Type} {l : List α} {a : α}

theorem FirstWith.mem {p : α → Prop} (h : FirstWith p l a) : a ∈ l := by
  obtain ⟨before, after, rfl, -⟩ := h
  simp

theorem FirstWith.holds {p : α → Prop} (h : FirstWith p l a) : p a := by
  obtain ⟨-, -, -, ha, -⟩ := h
  exact ha

/-- The first element that counts stays the first where it is kept. -/
theorem FirstWith.filter {p : α → Prop} {keep : α → Bool} (h : FirstWith p l a)
    (ha : keep a = true) : FirstWith p (l.filter keep) a := by
  obtain ⟨before, after, rfl, hp, hbefore⟩ := h
  refine ⟨before.filter keep, after.filter keep, ?_, hp, fun b hb => ?_⟩
  · rw [List.filter_append, List.filter_cons_of_pos ha]
  · exact hbefore b (List.mem_of_mem_filter hb)

theorem find?_eq_some_iff_firstWith {p : α → Bool} :
    l.find? p = some a ↔ FirstWith (p · = true) l a := by
  rw [List.find?_eq_some_iff_append]
  constructor
  · rintro ⟨hp, before, after, rfl, hbefore⟩
    exact ⟨before, after, rfl, hp, fun b hb => by simpa using hbefore b hb⟩
  · rintro ⟨before, after, rfl, hp, hbefore⟩
    exact ⟨hp, before, after, rfl, fun b hb => by simpa using hbefore b hb⟩

theorem findSome?_eq_some_iff_firstWith {f : α → Option β} {b : β} :
    l.findSome? f = some b ↔ ∃ a, FirstWith (fun a => ∃ b, f a = some b) l a ∧ f a = some b := by
  rw [List.findSome?_eq_some_iff]
  constructor
  · rintro ⟨before, a, after, rfl, ha, hbefore⟩
    exact ⟨a, ⟨before, after, rfl, ⟨b, ha⟩, fun x hx => by simp [hbefore x hx]⟩, ha⟩
  · rintro ⟨a, ⟨before, after, rfl, -, hbefore⟩, ha⟩
    exact ⟨before, a, after, rfl, ha, fun x hx => by
      simpa [Option.eq_none_iff_forall_ne_some] using hbefore x hx⟩

end FirstWith

/-! ## The last one -/

/-- The last element of a list that has a property. -/
def LastWith {α : Type} (p : α → Prop) (l : List α) (a : α) : Prop :=
  ∃ before after, l = before ++ a :: after ∧ p a ∧ ∀ b ∈ after, ¬ p b

section LastWith

variable {α β : Type} {p : α → Prop} {l : List α} {a b : α}

theorem not_lastWith_nil : ¬ LastWith p [] a := by
  rintro ⟨before, after, h, -⟩
  simp at h

theorem lastWith_cons_iff :
    LastWith p (b :: l) a ↔ LastWith p l a ∨ (b = a ∧ p a ∧ ∀ c ∈ l, ¬ p c) := by
  constructor
  · rintro ⟨before, after, h, ha, hafter⟩
    cases before with
    | nil =>
      obtain ⟨rfl, rfl⟩ := List.cons.inj h
      exact .inr ⟨rfl, ha, hafter⟩
    | cons c before =>
      obtain ⟨-, rfl⟩ := List.cons.inj h
      exact .inl ⟨before, after, rfl, ha, hafter⟩
  · rintro (⟨before, after, rfl, ha, hafter⟩ | ⟨rfl, ha, hafter⟩)
    · exact ⟨b :: before, after, rfl, ha, hafter⟩
    · exact ⟨[], l, rfl, ha, hafter⟩

theorem LastWith.mem (h : LastWith p l a) : a ∈ l := by
  obtain ⟨before, after, rfl, -⟩ := h
  simp

theorem LastWith.holds (h : LastWith p l a) : p a := by
  obtain ⟨-, -, -, ha, -⟩ := h
  exact ha

/-- There is a last element with a property if there is any. -/
theorem exists_lastWith_iff : (∃ a, LastWith p l a) ↔ ∃ a ∈ l, p a := by
  constructor
  · rintro ⟨a, h⟩
    exact ⟨a, h.mem, h.holds⟩
  · induction l with
    | nil => simp
    | cons b l ih =>
      rintro ⟨a, hmem, ha⟩
      by_cases hlater : ∃ c ∈ l, p c
      · obtain ⟨c, hc⟩ := ih hlater
        exact ⟨c, lastWith_cons_iff.2 (.inl hc)⟩
      · have hnone : ∀ c ∈ l, ¬ p c := fun c hc hp => hlater ⟨c, hc, hp⟩
        obtain rfl | hmem := List.mem_cons.1 hmem
        · exact ⟨a, lastWith_cons_iff.2 (.inr ⟨rfl, ha, hnone⟩)⟩
        · exact absurd ha (hnone a hmem)

/-- The last one of two lists is in the second, or there is none in it. -/
theorem lastWith_append_iff {l' : List α} :
    LastWith p (l ++ l') a ↔ LastWith p l' a ∨ (LastWith p l a ∧ ∀ b ∈ l', ¬ p b) := by
  induction l with
  | nil =>
    simp only [List.nil_append, not_lastWith_nil, false_and, or_false]
  | cons b l ih =>
    simp only [List.cons_append, lastWith_cons_iff, ih, List.mem_append, or_imp, forall_and]
    tauto

theorem lastWith_map_iff {f : α → β} {q : β → Prop} {b : β} :
    LastWith q (l.map f) b ↔ ∃ a, LastWith (fun a => q (f a)) l a ∧ f a = b := by
  induction l with
  | nil => simp [not_lastWith_nil]
  | cons c l ih =>
    simp only [List.map_cons, lastWith_cons_iff, ih, List.forall_mem_map]
    constructor
    · rintro (⟨a, ha, rfl⟩ | ⟨rfl, hq, hnone⟩)
      · exact ⟨a, .inl ha, rfl⟩
      · exact ⟨c, .inr ⟨rfl, hq, hnone⟩, rfl⟩
    · rintro ⟨a, ha | ⟨rfl, hq, hnone⟩, rfl⟩
      · exact .inl ⟨a, ha, rfl⟩
      · exact .inr ⟨rfl, hq, hnone⟩

/-- Where keys are not repeated, every entry is the last one for its key. -/
theorem lastWith_iff_mem_of_nodup {κ : Type} {l : List (κ × α)} (h : (l.map (·.1)).Nodup) {k : κ} :
    LastWith (·.1 = k) l (k, a) ↔ (k, a) ∈ l := by
  refine ⟨LastWith.mem, ?_⟩
  induction l with
  | nil => simp
  | cons e l ih =>
    obtain ⟨hnew, hrest⟩ := List.nodup_cons.1 h
    intro hmem
    obtain rfl | hmem := List.mem_cons.1 hmem
    · refine lastWith_cons_iff.2 (.inr ⟨rfl, rfl, fun e' he' hk => hnew ?_⟩)
      exact List.mem_map.2 ⟨e', he', hk⟩
    · exact lastWith_cons_iff.2 (.inl (ih hrest hmem))

end LastWith

/-! ## What the last one gives -/

/-- The last element that gives anything gives this. -/
def LastGiving {α β : Type} (gives : α → β → Prop) (l : List α) (b : β) : Prop :=
  ∃ a, LastWith (fun a => ∃ b, gives a b) l a ∧ gives a b

section LastGiving

variable {α β : Type} {gives : α → β → Prop} {l : List α} {a : α} {b : β}

theorem not_lastGiving_nil : ¬ LastGiving gives [] b := by
  rintro ⟨a, hlast, -⟩
  exact not_lastWith_nil hlast

theorem lastGiving_cons_iff :
    LastGiving gives (a :: l) b ↔
      LastGiving gives l b ∨ (gives a b ∧ ∀ c ∈ l, ∀ b, ¬ gives c b) := by
  simp only [LastGiving, lastWith_cons_iff, not_exists]
  constructor
  · rintro ⟨c, hlast | ⟨rfl, -, hnone⟩, hgives⟩
    · exact .inl ⟨c, hlast, hgives⟩
    · exact .inr ⟨hgives, hnone⟩
  · rintro (⟨c, hlast, hgives⟩ | ⟨hgives, hnone⟩)
    · exact ⟨c, .inl hlast, hgives⟩
    · exact ⟨a, .inr ⟨rfl, ⟨b, hgives⟩, hnone⟩, hgives⟩

theorem LastGiving.exists_mem (h : LastGiving gives l b) : ∃ a ∈ l, gives a b := by
  obtain ⟨a, hlast, hgives⟩ := h
  exact ⟨a, hlast.mem, hgives⟩

/-- Something is given last if anything is given. -/
theorem exists_lastGiving_iff : (∃ b, LastGiving gives l b) ↔ ∃ a ∈ l, ∃ b, gives a b := by
  rw [← exists_lastWith_iff]
  constructor
  · rintro ⟨b, a, hlast, -⟩
    exact ⟨a, hlast⟩
  · rintro ⟨a, hlast⟩
    obtain ⟨b, hgives⟩ := hlast.holds
    exact ⟨b, a, hlast, hgives⟩

end LastGiving

/-! ## Entries -/

/-- The entries that the elements of a list give, in their order. Some elements give none. -/
inductive Entries {α κ β : Type} (gives : α → κ → β → Prop) : List α → List (κ × β) → Prop
  | nil : Entries gives [] []
  | none {a : α} {l : List α} {es : List (κ × β)} (gives_none : ∀ k b, ¬ gives a k b)
      (rest : Entries gives l es) : Entries gives (a :: l) es
  | one {a : α} {k : κ} {b : β} {l : List α} {es : List (κ × β)} (gives_one : gives a k b)
      (rest : Entries gives l es) : Entries gives (a :: l) ((k, b) :: es)

section Entries

variable {α κ β : Type} {gives : α → κ → β → Prop} {l : List α} {es : List (κ × β)}

theorem Entries.of_forall₂ (h : List.Forall₂ (fun a e => gives a e.1 e.2) l es) :
    Entries gives l es := by
  induction h with
  | nil => exact .nil
  | cons hgives _ ih => exact .one hgives ih

/-- An element gives one entry at most. -/
def GivesOne (gives : α → κ → β → Prop) : Prop :=
  ∀ ⦃a : α⦄ ⦃k k' : κ⦄ ⦃b b' : β⦄, gives a k b → gives a k' b' → k = k' ∧ b = b'

variable {k : κ} {b : β}

theorem Entries.forall_ne_iff (hone : GivesOne gives) (h : Entries gives l es) :
    (∀ e ∈ es, ¬ e.1 = k) ↔ ∀ a ∈ l, ∀ b, ¬ gives a k b := by
  induction h with
  | nil => simp
  | none gives_none _ ih => simp only [List.forall_mem_cons, ih, gives_none, not_false_iff,
      implies_true, true_and]
  | @one a k' b l es gives_one _ ih =>
    have hkey : ¬ k' = k ↔ ∀ b, ¬ gives a k b := by
      constructor
      · intro hne b' hgives
        exact hne (hone gives_one hgives).1
      · rintro hnone rfl
        exact hnone b gives_one
    simp only [List.forall_mem_cons, ih, hkey]

/-- The last entry for a key is what the last element gives that gives one for it. -/
theorem Entries.lastWith_iff (hone : GivesOne gives) (h : Entries gives l es) :
    LastWith (·.1 = k) es (k, b) ↔ LastGiving (gives · k ·) l b := by
  induction h with
  | nil => simp [not_lastWith_nil, not_lastGiving_nil]
  | none gives_none _ ih => simp [ih, lastGiving_cons_iff, gives_none]
  | @one a k' b' l es gives_one rest ih =>
    rw [lastWith_cons_iff, lastGiving_cons_iff, ih, rest.forall_ne_iff hone]
    refine or_congr_right ⟨?_, ?_⟩
    · rintro ⟨heq, -, hnone⟩
      obtain ⟨rfl, rfl⟩ := Prod.mk.inj heq
      exact ⟨gives_one, hnone⟩
    · rintro ⟨hgives, hnone⟩
      obtain ⟨rfl, rfl⟩ := hone gives_one hgives
      exact ⟨rfl, rfl, hnone⟩

end Entries

/-! ## Maps of entries -/

section Maps

variable {κ β : Type} [Ord κ] [Std.TransOrd κ] [Std.LawfulEqOrd κ]

/-- A map with more entries holds the last of them for a key, or what it held before. -/
theorem SortedMap.find?_foldl_insert_eq_some_iff {es : List (κ × β)} {m : SortedMap κ β} {k : κ}
    {b : β} :
    (es.foldl (fun m e => m.insert e.1 e.2) m).find? k = some b ↔
      LastWith (·.1 = k) es (k, b) ∨ (m.find? k = some b ∧ ∀ e ∈ es, ¬ e.1 = k) := by
  induction es generalizing m with
  | nil => simp [not_lastWith_nil]
  | cons e es ih =>
    obtain ⟨k', b'⟩ := e
    rw [List.foldl_cons, ih, lastWith_cons_iff]
    by_cases hk : k' = k
    · subst hk
      simp
    · rw [find?_insert_of_ne _ (Ne.symm hk)]
      simp [hk]

/-- A map of entries holds the last of them for a key. -/
theorem SortedMap.find?_ofList_eq_some_iff {es : List (κ × β)} {k : κ} {b : β} :
    (ofList es).find? k = some b ↔ LastWith (·.1 = k) es (k, b) := by
  rw [ofList, find?_foldl_insert_eq_some_iff]
  simp

end Maps

end BuildYard
