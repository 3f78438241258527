/-!
# Maps listed in key order

A `SortedMap κ α` is a finite map kept as the list of its entries in strictly ascending key
order. Because the order is part of the type there is exactly one list for each map, so two maps
with the same look-ups are equal (`SortedMap.ext_find?`), and listing a map always gives the same
order whatever the order of the insertions was.

The laws of look-up after each operation are `find?_insert`, `find?_filter`, `find?_erase_self` and
`find?_erase_of_ne`; `mem_entries_iff` says that the list holds what look-up finds.
-/

namespace BuildYard

/-- Entries in strictly ascending key order. -/
def Ascending {κ α : Type} [Ord κ] (entries : List (κ × α)) : Prop :=
  entries.Pairwise (fun a b => compare a.1 b.1 = .lt)

/-- A finite map from `κ` to `α`, listed in ascending key order without repeated keys. -/
structure SortedMap (κ α : Type) [Ord κ] where
  /-- The entries, in key order. -/
  entries : List (κ × α)
  /-- The entries are in strictly ascending key order. -/
  ascending : Ascending entries

namespace SortedMap

variable {κ α β : Type} [Ord κ]

@[ext] theorem ext {m n : SortedMap κ α} (h : m.entries = n.entries) : m = n := by
  cases m; cases n; cases h; rfl

instance [DecidableEq κ] [DecidableEq α] : DecidableEq (SortedMap κ α) := fun m n =>
  if h : m.entries = n.entries then .isTrue (ext h)
  else .isFalse (fun e => h (congrArg entries e))

/-- The map without entries. -/
def empty : SortedMap κ α := ⟨[], List.Pairwise.nil⟩

instance : EmptyCollection (SortedMap κ α) := ⟨empty⟩

instance : Inhabited (SortedMap κ α) := ⟨empty⟩

/-- Does the map have no entries? -/
def isEmpty (m : SortedMap κ α) : Bool := m.entries.isEmpty

/-- The keys, ascending. -/
def keys (m : SortedMap κ α) : List κ := m.entries.map (·.1)

/-- The values, in the order of their keys. -/
def values (m : SortedMap κ α) : List α := m.entries.map (·.2)

/-- The value stored under `k` in a list of entries. -/
def lookup (k : κ) : List (κ × α) → Option α
  | [] => none
  | (k', a) :: rest => if compare k k' = .eq then some a else lookup k rest

/-- The value stored under `k`. -/
def find? (m : SortedMap κ α) (k : κ) : Option α := lookup k m.entries

/-- Is there an entry for `k`? -/
def contains (m : SortedMap κ α) (k : κ) : Bool := (m.find? k).isSome

/-! ## Insertion -/

/-- Puts an entry at its place in key order, replacing an entry with the same key. -/
def insertEntry (k : κ) (a : α) : List (κ × α) → List (κ × α)
  | [] => [(k, a)]
  | (k', a') :: rest =>
    match compare k k' with
    | .lt => (k, a) :: (k', a') :: rest
    | .eq => (k, a) :: rest
    | .gt => (k', a') :: insertEntry k a rest

theorem mem_insertEntry {k : κ} {a : α} {e : κ × α} {l : List (κ × α)}
    (h : e ∈ insertEntry k a l) : e = (k, a) ∨ e ∈ l := by
  induction l with
  | nil => simpa [insertEntry] using h
  | cons hd tl ih =>
    obtain ⟨k', a'⟩ := hd
    unfold insertEntry at h
    split at h
    · simpa using h
    · rcases List.mem_cons.1 h with h | h
      · exact .inl h
      · exact .inr (List.mem_cons_of_mem _ h)
    · rcases List.mem_cons.1 h with h | h
      · exact .inr (h ▸ List.mem_cons_self)
      · exact (ih h).imp id (List.mem_cons_of_mem _)

section Ordered

variable [Std.TransOrd κ] [Std.LawfulEqOrd κ]

theorem ascending_insertEntry (k : κ) (a : α) {l : List (κ × α)} (h : Ascending l) :
    Ascending (insertEntry k a l) := by
  induction l with
  | nil => exact List.pairwise_singleton _ _
  | cons hd tl ih =>
    obtain ⟨k', a'⟩ := hd
    obtain ⟨hk', htl⟩ := List.pairwise_cons.1 h
    unfold insertEntry
    split
    next hlt =>
      refine List.pairwise_cons.2 ⟨?_, h⟩
      intro e he
      rcases List.mem_cons.1 he with rfl | he
      · exact hlt
      · exact Std.TransCmp.lt_trans hlt (hk' e he)
    next heq =>
      obtain rfl := Std.LawfulEqOrd.eq_of_compare heq
      exact List.pairwise_cons.2 ⟨hk', htl⟩
    next hgt =>
      refine List.pairwise_cons.2 ⟨?_, ih htl⟩
      intro e he
      rcases mem_insertEntry he with rfl | he
      · exact Std.OrientedCmp.lt_of_gt hgt
      · exact hk' e he

/-- The map with `a` stored under `k`, in place of any value stored there before. -/
def insert (m : SortedMap κ α) (k : κ) (a : α) : SortedMap κ α :=
  ⟨insertEntry k a m.entries, ascending_insertEntry k a m.ascending⟩

/-- The map of a list of entries; of two entries with one key the later counts. -/
def ofList (entries : List (κ × α)) : SortedMap κ α :=
  entries.foldl (fun m e => m.insert e.1 e.2) empty

end Ordered

/-- An entry whose key is above all others goes to the end. -/
theorem insertEntry_eq_append [Std.TransOrd κ] {k : κ} {a : α} {l : List (κ × α)}
    (h : ∀ e ∈ l, compare e.1 k = .lt) : insertEntry k a l = l ++ [(k, a)] := by
  induction l with
  | nil => rfl
  | cons hd tl ih =>
    have hgt : compare k hd.1 = .gt := Std.OrientedCmp.gt_of_lt (h hd List.mem_cons_self)
    rw [insertEntry, hgt]
    dsimp only
    rw [ih fun e he => h e (List.mem_cons_of_mem _ he), List.cons_append]

/-- Entries in ascending order that are above those of a map go behind them. -/
theorem entries_foldl_insert [Std.TransOrd κ] [Std.LawfulEqOrd κ] (m : SortedMap κ α)
    {l : List (κ × α)} (h : Ascending (m.entries ++ l)) :
    (l.foldl (fun m e => m.insert e.1 e.2) m).entries = m.entries ++ l := by
  induction l generalizing m with
  | nil => simp
  | cons e l ih =>
    have habove : ∀ e' ∈ m.entries, compare e'.1 e.1 = .lt := fun e' he' =>
      (List.pairwise_append.1 h).2.2 e' he' e List.mem_cons_self
    have hinsert : (m.insert e.1 e.2).entries = m.entries ++ [e] := insertEntry_eq_append habove
    have hnext : Ascending ((m.insert e.1 e.2).entries ++ l) := by
      rw [hinsert, List.append_assoc]
      exact h
    rw [List.foldl_cons, ih _ hnext, hinsert, List.append_assoc]
    rfl

/-- The map of the entries of a map is the map. -/
theorem ofList_entries [Std.TransOrd κ] [Std.LawfulEqOrd κ] (m : SortedMap κ α) :
    ofList m.entries = m :=
  ext (entries_foldl_insert empty m.ascending)

/-! ## Keeping some of the entries -/

/-- The map of the entries that pass a test. -/
def filter (keep : κ → α → Bool) (m : SortedMap κ α) : SortedMap κ α :=
  ⟨m.entries.filter (fun e => keep e.1 e.2), m.ascending.filter _⟩

/-- The map without an entry for `k`. -/
def erase (m : SortedMap κ α) (k : κ) : SortedMap κ α :=
  m.filter (fun k' _ => compare k k' != .eq)

/-- The map with every value changed by `f`. -/
def map (f : α → β) (m : SortedMap κ α) : SortedMap κ β :=
  ⟨m.entries.map (fun e => (e.1, f e.2)), by
    have h := m.ascending
    unfold Ascending at h ⊢
    rw [List.pairwise_map]
    exact h⟩

/-! ## Look-up after each operation -/

theorem contains_iff {m : SortedMap κ α} {k : κ} :
    m.contains k = true ↔ ∃ a, m.find? k = some a := by
  rw [contains, Option.isSome_iff_exists]

theorem filter_filter (keep keep' : κ → α → Bool) (m : SortedMap κ α) :
    (m.filter keep).filter keep' = m.filter fun k a => keep k a && keep' k a := by
  refine ext ?_
  show (m.entries.filter _).filter _ = m.entries.filter _
  rw [List.filter_filter]
  simp only [Bool.and_comm]

@[simp] theorem find?_empty (k : κ) : (empty : SortedMap κ α).find? k = none := rfl

/-- A key below every key of a list is not found in it. -/
theorem lookup_eq_none_of_lt {k : κ} {l : List (κ × α)} (h : ∀ e ∈ l, compare k e.1 = .lt) :
    lookup k l = none := by
  induction l with
  | nil => rfl
  | cons hd tl ih =>
    obtain ⟨k', a'⟩ := hd
    have hne : compare k k' ≠ .eq := by rw [h (k', a') List.mem_cons_self]; decide
    rw [lookup, if_neg hne]
    exact ih (fun e he => h e (List.mem_cons_of_mem _ he))

theorem lookup_filter [Std.LawfulEqOrd κ] (keep : κ → α → Bool) (k : κ) {l : List (κ × α)}
    (h : Ascending l) :
    lookup k (l.filter (fun e => keep e.1 e.2)) = (lookup k l).filter (keep k) := by
  induction l with
  | nil => rfl
  | cons hd tl ih =>
    obtain ⟨k', a⟩ := hd
    obtain ⟨hk', htl⟩ := List.pairwise_cons.1 h
    by_cases hk : compare k k' = .eq
    · obtain rfl := Std.LawfulEqOrd.eq_of_compare hk
      by_cases hp : keep k a
      · simp [lookup, hp, Option.filter]
      · have hnone : lookup k (tl.filter (fun e => keep e.1 e.2)) = none := by
          rw [ih htl, lookup_eq_none_of_lt hk']; rfl
        simp [lookup, hp, hnone, Option.filter]
    · by_cases hp : keep k' a <;> simp [lookup, hp, hk, ih htl]

@[simp] theorem find?_filter [Std.LawfulEqOrd κ] (keep : κ → α → Bool) (m : SortedMap κ α) (k : κ) :
    (m.filter keep).find? k = (m.find? k).filter (keep k) :=
  lookup_filter keep k m.ascending

section Lawful

variable [Std.LawfulEqOrd κ]

theorem lookup_insertEntry (k k' : κ) (a : α) (l : List (κ × α)) :
    lookup k' (insertEntry k a l) = if compare k' k = .eq then some a else lookup k' l := by
  induction l with
  | nil => simp [insertEntry, lookup]
  | cons hd tl ih =>
    obtain ⟨k'', a''⟩ := hd
    unfold insertEntry
    split
    next => simp [lookup]
    next heq =>
      obtain rfl := Std.LawfulEqOrd.eq_of_compare heq
      by_cases h : compare k' k = .eq <;> simp [lookup, h]
    next hgt =>
      by_cases h : compare k' k = .eq
      · obtain rfl := Std.LawfulEqOrd.eq_of_compare h
        simp [lookup, ih, hgt]
      · simp [lookup, ih, h]

theorem find?_insert [Std.TransOrd κ] (m : SortedMap κ α) (k k' : κ) (a : α) :
    (m.insert k a).find? k' = if compare k' k = .eq then some a else m.find? k' :=
  lookup_insertEntry k k' a m.entries

@[simp] theorem find?_insert_self [Std.TransOrd κ] (m : SortedMap κ α) (k : κ) (a : α) :
    (m.insert k a).find? k = some a := by
  simp [find?_insert]

theorem find?_insert_of_ne [Std.TransOrd κ] (m : SortedMap κ α) {k k' : κ} (h : k' ≠ k) (a : α) :
    (m.insert k a).find? k' = m.find? k' := by
  rw [find?_insert, if_neg (fun e => h (Std.LawfulEqOrd.eq_of_compare e))]

@[simp] theorem find?_erase_self (m : SortedMap κ α) (k : κ) : (m.erase k).find? k = none := by
  cases h : m.find? k <;> simp [erase, h, Option.filter]

theorem find?_erase_of_ne (m : SortedMap κ α) {k k' : κ} (h : k' ≠ k) :
    (m.erase k).find? k' = m.find? k' := by
  have hne : compare k k' ≠ .eq := fun e => h (Std.LawfulEqOrd.eq_of_compare e).symm
  cases hf : m.find? k' <;> simp [erase, hf, Option.filter, hne]

theorem find?_erase_eq_some_iff {m : SortedMap κ α} {k k' : κ} {a : α} :
    (m.erase k).find? k' = some a ↔ m.find? k' = some a ∧ k' ≠ k := by
  by_cases hk : k' = k
  · rw [hk, find?_erase_self]
    simp
  · rw [find?_erase_of_ne m hk]
    simp [hk]

theorem mem_iff_lookup [Std.TransOrd κ] {k : κ} {a : α} {l : List (κ × α)} (h : Ascending l) :
    (k, a) ∈ l ↔ lookup k l = some a := by
  induction l with
  | nil => simp [lookup]
  | cons hd tl ih =>
    obtain ⟨k', a'⟩ := hd
    obtain ⟨hk', htl⟩ := List.pairwise_cons.1 h
    by_cases hk : compare k k' = .eq
    · obtain rfl := Std.LawfulEqOrd.eq_of_compare hk
      have hnot : (k, a) ∉ tl := by
        intro hmem
        have hlt := hk' (k, a) hmem
        simp at hlt
      simp [lookup, hnot, eq_comm]
    · have hne : k ≠ k' := fun e => hk (e ▸ Std.ReflCmp.compare_self)
      simp [lookup, hk, hne, ih htl]

/-- The entries are the pairs that are found. -/
theorem mem_entries_iff [Std.TransOrd κ] (m : SortedMap κ α) {k : κ} {a : α} :
    (k, a) ∈ m.entries ↔ m.find? k = some a :=
  mem_iff_lookup m.ascending

/-- Lists in key order with the same look-ups are the same list. -/
theorem eq_of_lookup_eq [Std.TransOrd κ] {l m : List (κ × α)} (hl : Ascending l) (hm : Ascending m)
    (h : ∀ k, lookup k l = lookup k m) : l = m := by
  induction l generalizing m with
  | nil =>
    cases m with
    | nil => rfl
    | cons hd tl => obtain ⟨k, a⟩ := hd; simpa [lookup] using h k
  | cons hd tl ih =>
    obtain ⟨k, a⟩ := hd
    obtain ⟨hk, htl⟩ := List.pairwise_cons.1 hl
    cases m with
    | nil => simpa [lookup] using h k
    | cons hd' tl' =>
      obtain ⟨k', a'⟩ := hd'
      obtain ⟨hk', htl'⟩ := List.pairwise_cons.1 hm
      cases hc : compare k k' with
      | lt =>
        have hnone : lookup k tl' = none :=
          lookup_eq_none_of_lt (fun e he => Std.TransCmp.lt_trans hc (hk' e he))
        have := h k
        simp [lookup, hc, hnone] at this
      | gt =>
        have hc' : compare k' k = .lt := Std.OrientedCmp.lt_of_gt hc
        have hnone : lookup k' tl = none :=
          lookup_eq_none_of_lt (fun e he => Std.TransCmp.lt_trans hc' (hk e he))
        have := h k'
        simp [lookup, hc', hnone] at this
      | eq =>
        obtain rfl := Std.LawfulEqOrd.eq_of_compare hc
        have ha := h k
        simp only [lookup, hc, if_true] at ha
        obtain rfl := Option.some.inj ha
        congr 1
        refine ih htl htl' (fun x => ?_)
        have hx := h x
        by_cases hxk : compare x k = .eq
        · obtain rfl := Std.LawfulEqOrd.eq_of_compare hxk
          rw [lookup_eq_none_of_lt hk, lookup_eq_none_of_lt hk']
        · simpa [lookup, hxk] using hx

/-- Maps with the same look-ups are equal. -/
theorem ext_find? [Std.TransOrd κ] {m n : SortedMap κ α} (h : ∀ k, m.find? k = n.find? k) : m = n :=
  ext (eq_of_lookup_eq m.ascending n.ascending h)

/-- Maps in which the same is found are equal. -/
theorem ext_find?_iff [Std.TransOrd κ] {m n : SortedMap κ α}
    (h : ∀ k a, m.find? k = some a ↔ n.find? k = some a) : m = n :=
  ext_find? fun k => Option.ext fun a => h k a

/-! ## Laws of keeping -/

theorem find?_filter_eq_some_iff {keep : κ → α → Bool} {m : SortedMap κ α} {k : κ} {a : α} :
    (m.filter keep).find? k = some a ↔ m.find? k = some a ∧ keep k a = true := by
  rw [find?_filter, Option.filter_eq_some_iff]

/-- Tests that agree on the entries keep the same entries. -/
theorem filter_congr [Std.TransOrd κ] {keep keep' : κ → α → Bool} {m : SortedMap κ α}
    (h : ∀ k a, m.find? k = some a → keep k a = keep' k a) : m.filter keep = m.filter keep' := by
  refine ext_find? fun k => ?_
  rw [find?_filter, find?_filter]
  cases hk : m.find? k with
  | none => rfl
  | some a => simp [Option.filter, h k a hk]

/-- A test that every entry passes keeps the map as it is. -/
theorem filter_eq_self [Std.TransOrd κ] {keep : κ → α → Bool} {m : SortedMap κ α}
    (h : ∀ k a, m.find? k = some a → keep k a = true) : m.filter keep = m := by
  refine ext_find? fun k => ?_
  rw [find?_filter]
  cases hk : m.find? k with
  | none => rfl
  | some a => simp [Option.filter, h k a hk]

theorem erase_eq_filter [DecidableEq κ] (m : SortedMap κ α) (k : κ) :
    m.erase k = m.filter fun k' _ => k' ≠ k := by
  refine ext (List.filter_congr fun e _ => ?_)
  by_cases hk : e.1 = k
  · simp [hk]
  · have hne : compare k e.1 ≠ .eq := fun h => hk (Std.LawfulEqOrd.eq_of_compare h).symm
    simp [hk, hne]

/-- Where there is no entry, none is taken out. -/
theorem erase_eq_self [Std.TransOrd κ] {m : SortedMap κ α} {k : κ} (h : m.find? k = none) :
    m.erase k = m := by
  refine ext_find?_iff fun k' a => find?_erase_eq_some_iff.trans (and_iff_left_of_imp ?_)
  rintro hfind rfl
  cases h.symm.trans hfind

/-- What was put under a free key is taken out of there again. -/
theorem erase_insert [Std.TransOrd κ] {m : SortedMap κ α} {k : κ} (h : m.find? k = none) (a : α) :
    (m.insert k a).erase k = m := by
  refine ext_find? fun k' => ?_
  by_cases hk : k' = k
  · rw [hk, find?_erase_self, h]
  · rw [find?_erase_of_ne _ hk, find?_insert_of_ne _ hk]

end Lawful

/-! ## Laws of changing the values -/

theorem lookup_map (f : α → β) (k : κ) (l : List (κ × α)) :
    lookup k (l.map fun e => (e.1, f e.2)) = (lookup k l).map f := by
  induction l with
  | nil => rfl
  | cons hd tl ih =>
    obtain ⟨k', a⟩ := hd
    by_cases hk : compare k k' = .eq
    · simp [lookup, hk]
    · simp [lookup, hk, ih]

@[simp] theorem find?_map (f : α → β) (m : SortedMap κ α) (k : κ) :
    (m.map f).find? k = (m.find? k).map f :=
  lookup_map f k m.entries

@[simp] theorem contains_map (f : α → β) (m : SortedMap κ α) (k : κ) :
    (m.map f).contains k = m.contains k := by
  rw [contains, contains, find?_map, Option.isSome_map]

theorem values_map (f : α → β) (m : SortedMap κ α) : (m.map f).values = m.values.map f := by
  rw [values, values, map, List.map_map, List.map_map]
  rfl

theorem map_filter (f : α → β) (keep : κ → β → Bool) (m : SortedMap κ α) :
    (m.map f).filter keep = (m.filter fun k a => keep k (f a)).map f := by
  refine ext ?_
  show (m.entries.map _).filter _ = (m.entries.filter _).map _
  rw [List.filter_map]
  rfl

theorem map_insert [Std.TransOrd κ] [Std.LawfulEqOrd κ] (f : α → β) (m : SortedMap κ α) (k : κ)
    (a : α) : (m.insert k a).map f = (m.map f).insert k (f a) := by
  refine ext_find? fun k' => ?_
  rw [find?_map, find?_insert, find?_insert, find?_map]
  split <;> rfl

theorem map_erase (f : α → β) (m : SortedMap κ α) (k : κ) : (m.erase k).map f = (m.map f).erase k :=
  (map_filter f (fun k' _ => compare k k' != .eq) m).symm

end SortedMap

end BuildYard
