import BuildYard.Json.Reader
/-!
# The grammar that the reader follows

`value?` counts its steps and the arrays and objects that are open, and loses what it cannot keep: texts
that stand for nothing, numbers that are too large, all that is nested too deep. What a text begins with
depends on none of this. This file says it without.

* `Written`: a value as it is written, with such parts in their places.
* `Begins`: a text begins with a value, and what follows the value.
* `begins_of_value?`: what is read is the value of what the text begins with.
* `value?_of_begins`: with enough steps it is read; what follows is the same at any depth.
* `Stands`: a whole text stands for a value. `scan?_eq_some_iff`: as it is scanned.
-/

namespace BuildYard.Json

/-! ## Leaves -/

theorem length_skipSpace_le (s : List Char) : (skipSpace s).length ≤ s.length :=
  (List.dropWhile_sublist _).length_le

theorem skipSpace_skipSpace (s : List Char) : skipSpace (skipSpace s) = skipSpace s := by
  induction s with
  | nil => rfl
  | cons c s ih =>
    unfold skipSpace at *
    rw [List.dropWhile_cons]
    split
    · exact ih
    · rename_i hc
      rw [List.dropWhile_cons, if_neg hc]

/-- What stands behind the white space is no longer than the text. -/
theorem length_lt_of_skipSpace {s rest : List Char} {c : Char} (h : skipSpace s = c :: rest) :
    rest.length < s.length := by
  have hle := length_skipSpace_le s
  rw [h, List.length_cons] at hle
  exact hle

theorem length_of_rawText? {s raw rest : List Char} (h : rawText? s = some (raw, rest)) :
    rest.length < s.length := by
  fun_induction rawText? s generalizing raw with
  | case1 => cases h
  | case2 s => cases h; exact Nat.lt_succ_self _
  | case3 c s ih =>
    obtain ⟨⟨raw', rest'⟩, hin, hout⟩ := Option.map_eq_some_iff.1 h
    cases hout
    have hlt := ih hin
    simp only [List.length_cons]
    omega
  | case4 => cases h
  | case5 c s _ _ _ ih =>
    obtain ⟨⟨raw', rest'⟩, hin, hout⟩ := Option.map_eq_some_iff.1 h
    cases hout
    have hlt := ih hin
    simp only [List.length_cons]
    omega

/-- A run of digits starts with a digit. -/
theorem head_of_digitRun? {s digits rest : List Char} (h : digitRun? s = some (digits, rest)) :
    ∃ c s', s = c :: s' ∧ c.isDigit = true ∧ rest.length ≤ s'.length := by
  cases s with
  | nil => cases h
  | cons c s =>
    by_cases hc : c.isDigit = true
    · simp only [digitRun?, List.takeWhile_cons, List.dropWhile_cons, hc, if_true] at h
      cases h
      exact ⟨c, s, rfl, hc, (List.dropWhile_sublist _).length_le⟩
    · simp [digitRun?, hc] at h

theorem length_of_fraction? {s rest : List Char} {digits : Option (List Char)}
    (h : fraction? s = some (digits, rest)) : rest.length ≤ s.length := by
  unfold fraction? at h
  split at h
  · obtain ⟨⟨ds, after⟩, hrun, hout⟩ := Option.map_eq_some_iff.1 h
    cases hout
    obtain ⟨c, s', rfl, -, hle⟩ := head_of_digitRun? hrun
    simp only [List.length_cons]
    omega
  · cases h
    exact Nat.le_refl _

theorem length_exponentSign (s : List Char) : (exponentSign s).2.length ≤ s.length := by
  unfold exponentSign
  split <;> simp

theorem length_of_exponent? {s rest : List Char} {exponent : Option (Bool × List Char)}
    (h : exponent? s = some (exponent, rest)) : rest.length ≤ s.length := by
  unfold exponent? at h
  split at h
  · cases h
    exact Nat.le_refl _
  · rename_i e s
    split at h
    · have hsign := length_exponentSign s
      generalize exponentSign s = sign at h hsign
      obtain ⟨down, afterSign⟩ := sign
      obtain ⟨⟨ds, after⟩, hrun, hout⟩ := Option.map_eq_some_iff.1 h
      cases hout
      obtain ⟨c, s', rfl, -, hle⟩ := head_of_digitRun? hrun
      simp only [List.length_cons] at hsign ⊢
      omega
    · cases h
      exact Nat.le_refl _

theorem minus_eq (s : List Char) : s = '-' :: (minus s).2 ∨ s = (minus s).2 := by
  unfold minus
  split
  · exact .inl rfl
  · exact .inr rfl

/-- A number starts with a minus sign or a digit. -/
theorem head_of_numeral? {s rest : List Char} {n : Numeral} (h : numeral? s = some (n, rest)) :
    ∃ c s', s = c :: s' ∧ (c = '-' ∨ c.isDigit = true) ∧ rest.length ≤ s'.length := by
  unfold numeral? at h
  have hminus := minus_eq s
  generalize minus s = sign at h hminus
  obtain ⟨negative, afterSign⟩ := sign
  obtain ⟨⟨whole, afterWhole⟩, hwhole, h⟩ := Option.bind_eq_some_iff.1 h
  dsimp only at h
  split at h
  · cases h
  · obtain ⟨⟨fraction, afterFraction⟩, hfraction, h⟩ := Option.bind_eq_some_iff.1 h
    obtain ⟨⟨exponent, after⟩, hexponent, h⟩ := Option.bind_eq_some_iff.1 h
    cases h
    obtain ⟨c, s', rfl, hc, hle⟩ := head_of_digitRun? hwhole
    have hafter : after.length ≤ s'.length :=
      Nat.le_trans (length_of_exponent? hexponent)
        (Nat.le_trans (length_of_fraction? hfraction) hle)
    rcases hminus with hs | hs
    · exact ⟨'-', c :: s', hs, .inl rfl, Nat.le_succ_of_le hafter⟩
    · exact ⟨c, s', hs, .inr hc, hafter⟩

/-! ## Values as they are written -/

/-- A value as it is written. Texts and names may stand for nothing, as half of a surrogate pair does;
and so may numbers that are too large. -/
inductive Written where
  | null
  | bool (b : Bool)
  | number (n : Numeral)
  | text (t : Option String)
  | arr (items : List Written)
  | obj (fields : List (Option String × Written))

namespace Written

mutual

/-- The value that is kept, where so many arrays and objects may be open. -/
def valueAt (depth : Nat) : Written → Json
  | .null => .null
  | .bool b => .bool b
  | .number n => n.value
  | .text t => (t.map Json.str).getD .spoiled
  | .arr items => if depth = 0 then .spoiled else .arr (valuesAt (depth - 1) items)
  | .obj fields => if depth = 0 then .spoiled else .ofNamed (namedAt (depth - 1) fields)

/-- The values of items. -/
def valuesAt (depth : Nat) : List Written → List Json
  | [] => []
  | x :: xs => valueAt depth x :: valuesAt depth xs

/-- The values of fields. -/
def namedAt (depth : Nat) : List (Option String × Written) → List (Option String × Json)
  | [] => []
  | (name, x) :: xs => (name, valueAt depth x) :: namedAt depth xs

end

end Written

/-! ## Grammar -/

/-- A text begins with the name of a field and a colon. -/
def Named (s : List Char) (name : Option String) (rest : List Char) : Prop :=
  ∃ inner raw afterName, skipSpace s = '"' :: inner ∧ rawText? inner = some (raw, afterName) ∧
    spelled? raw = some name ∧ skipSpace afterName = ':' :: rest

mutual

/-- A text begins with a value, and what follows the value. -/
inductive Begins : List Char → Written → List Char → Prop where
  | text {s rest raw after : List Char} {t : Option String} (hs : skipSpace s = '"' :: rest)
      (hraw : rawText? rest = some (raw, after)) (ht : spelled? raw = some t) :
      Begins s (.text t) after
  | noItems {s rest after : List Char} (hs : skipSpace s = '[' :: rest)
      (hrest : skipSpace rest = ']' :: after) : Begins s (.arr []) after
  | items {s rest after : List Char} {items : List Written} (hs : skipSpace s = '[' :: rest)
      (hitems : BeginsItems (skipSpace rest) items after) : Begins s (.arr items) after
  | noFields {s rest after : List Char} (hs : skipSpace s = '{' :: rest)
      (hrest : skipSpace rest = '}' :: after) : Begins s (.obj []) after
  | fields {s rest after : List Char} {fields : List (Option String × Written)}
      (hs : skipSpace s = '{' :: rest) (hfields : BeginsFields (skipSpace rest) fields after) :
      Begins s (.obj fields) after
  | null {s after : List Char} (hs : skipSpace s = 'n' :: 'u' :: 'l' :: 'l' :: after) :
      Begins s .null after
  | yes {s after : List Char} (hs : skipSpace s = 't' :: 'r' :: 'u' :: 'e' :: after) :
      Begins s (.bool true) after
  | no {s after : List Char} (hs : skipSpace s = 'f' :: 'a' :: 'l' :: 's' :: 'e' :: after) :
      Begins s (.bool false) after
  | number {s after : List Char} {n : Numeral} (hn : numeral? (skipSpace s) = some (n, after)) :
      Begins s (.number n) after

/-- A text begins with the items of an array and its closing bracket. -/
inductive BeginsItems : List Char → List Written → List Char → Prop where
  | last {s rest after : List Char} {x : Written} (hx : Begins s x rest)
      (hrest : skipSpace rest = ']' :: after) : BeginsItems s [x] after
  | more {s rest more after : List Char} {x : Written} {xs : List Written} (hx : Begins s x rest)
      (hrest : skipSpace rest = ',' :: more) (hxs : BeginsItems more xs after) :
      BeginsItems s (x :: xs) after

/-- A text begins with the fields of an object and its closing brace. -/
inductive BeginsFields : List Char → List (Option String × Written) → List Char → Prop where
  | last {s start rest after : List Char} {name : Option String} {x : Written}
      (hname : Named s name start) (hx : Begins start x rest)
      (hrest : skipSpace rest = '}' :: after) : BeginsFields s [(name, x)] after
  | more {s start rest more after : List Char} {name : Option String} {x : Written}
      {xs : List (Option String × Written)} (hname : Named s name start) (hx : Begins start x rest)
      (hrest : skipSpace rest = ',' :: more) (hxs : BeginsFields more xs after) :
      BeginsFields s ((name, x) :: xs) after

end

/-- White space before a value does not count. -/
theorem Begins.skipped {s r : List Char} {w : Written} (h : Begins s w r) :
    Begins (skipSpace s) w r := by
  have hskip := skipSpace_skipSpace s
  cases h with
  | text hs hraw ht => exact .text (hskip.trans hs) hraw ht
  | noItems hs hrest => exact .noItems (hskip.trans hs) hrest
  | items hs hitems => exact .items (hskip.trans hs) hitems
  | noFields hs hrest => exact .noFields (hskip.trans hs) hrest
  | fields hs hfields => exact .fields (hskip.trans hs) hfields
  | null hs => exact .null (hskip.trans hs)
  | yes hs => exact .yes (hskip.trans hs)
  | no hs => exact .no (hskip.trans hs)
  | number hn => exact .number (by rwa [hskip])

/-! ## What is read is what the text begins with -/

/-- What so many steps read is the value of what the text begins with. -/
structure Sound (fuel : Nat) : Prop where
  value : ∀ {depth s j r}, value? fuel depth s = some (j, r) →
    ∃ w, Begins s w r ∧ w.valueAt depth = j
  items : ∀ {depth s xs r}, items? fuel depth s = some (xs, r) →
    ∃ ws, BeginsItems s ws r ∧ Written.valuesAt depth ws = xs
  fields : ∀ {depth s xs r}, fields? fuel depth s = some (xs, r) →
    ∃ ws, BeginsFields s ws r ∧ Written.namedAt depth ws = xs

namespace Sound

variable {fuel depth : Nat} {s r : List Char}

theorem value_succ (ih : Sound fuel) {j : Json} (h : value? (fuel + 1) depth s = some (j, r)) :
    ∃ w, Begins s w r ∧ w.valueAt depth = j := by
  rw [value?] at h
  dsimp only at h
  split at h
  · rename_i rest hs
    obtain ⟨⟨raw, after⟩, hraw, h⟩ := Option.bind_eq_some_iff.1 h
    obtain ⟨t, ht, h⟩ := Option.bind_eq_some_iff.1 h
    cases h
    exact ⟨_, .text hs hraw ht, rfl⟩
  · rename_i rest hs
    split at h
    · rename_i after hrest
      cases h
      exact ⟨_, .noItems hs hrest, rfl⟩
    · obtain ⟨⟨items, after⟩, hitems, h⟩ := Option.bind_eq_some_iff.1 h
      cases h
      obtain ⟨ws, hws, rfl⟩ := ih.items hitems
      exact ⟨_, .items hs hws, rfl⟩
  · rename_i rest hs
    split at h
    · rename_i after hrest
      cases h
      exact ⟨_, .noFields hs hrest, rfl⟩
    · obtain ⟨⟨fields, after⟩, hfields, h⟩ := Option.bind_eq_some_iff.1 h
      cases h
      obtain ⟨ws, hws, rfl⟩ := ih.fields hfields
      exact ⟨_, .fields hs hws, rfl⟩
  · rename_i after hs
    cases h
    exact ⟨_, .null hs, rfl⟩
  · rename_i after hs
    cases h
    exact ⟨_, .yes hs, rfl⟩
  · rename_i after hs
    cases h
    exact ⟨_, .no hs, rfl⟩
  · obtain ⟨⟨n, after⟩, hn, h⟩ := Option.map_eq_some_iff.1 h
    cases h
    exact ⟨_, .number hn, rfl⟩

theorem items_succ (ih : Sound fuel) {xs : List Json}
    (h : items? (fuel + 1) depth s = some (xs, r)) :
    ∃ ws, BeginsItems s ws r ∧ Written.valuesAt depth ws = xs := by
  rw [items?] at h
  obtain ⟨⟨x, rest⟩, hx, h⟩ := Option.bind_eq_some_iff.1 h
  obtain ⟨w, hw, rfl⟩ := ih.value hx
  dsimp only at h
  split at h
  · rename_i more hrest
    obtain ⟨⟨xs', after⟩, hxs, h⟩ := Option.bind_eq_some_iff.1 h
    cases h
    obtain ⟨ws, hws, rfl⟩ := ih.items hxs
    exact ⟨_, .more hw hrest hws, rfl⟩
  · rename_i after hrest
    cases h
    exact ⟨_, .last hw hrest, rfl⟩
  · cases h

theorem fields_succ (ih : Sound fuel) {xs : List (Option String × Json)}
    (h : fields? (fuel + 1) depth s = some (xs, r)) :
    ∃ ws, BeginsFields s ws r ∧ Written.namedAt depth ws = xs := by
  rw [fields?] at h
  split at h
  case h_2 => cases h
  rename_i inner hs
  obtain ⟨⟨raw, afterName⟩, hraw, h⟩ := Option.bind_eq_some_iff.1 h
  obtain ⟨name, hspelled, h⟩ := Option.bind_eq_some_iff.1 h
  dsimp only at h
  split at h
  case h_2 => cases h
  rename_i start hcolon
  have hname : Named s name start := ⟨inner, raw, afterName, hs, hraw, hspelled, hcolon⟩
  obtain ⟨⟨x, rest⟩, hx, h⟩ := Option.bind_eq_some_iff.1 h
  obtain ⟨w, hw, rfl⟩ := ih.value hx
  dsimp only at h
  split at h
  · rename_i more hrest
    obtain ⟨⟨xs', after⟩, hxs, h⟩ := Option.bind_eq_some_iff.1 h
    cases h
    obtain ⟨ws, hws, rfl⟩ := ih.fields hxs
    exact ⟨_, .more hname hw hrest hws, rfl⟩
  · rename_i after hrest
    cases h
    exact ⟨_, .last hname hw hrest, rfl⟩
  · cases h

end Sound

theorem sound (fuel : Nat) : Sound fuel := by
  induction fuel with
  | zero =>
    refine ⟨fun h => ?_, fun h => ?_, fun h => ?_⟩
    · simp [value?] at h
    · simp [items?] at h
    · simp [fields?] at h
  | succ fuel ih => exact ⟨ih.value_succ, ih.items_succ, ih.fields_succ⟩

/-- **What is read is the value of what the text begins with.** -/
theorem begins_of_value? {fuel depth : Nat} {s r : List Char} {j : Json}
    (h : value? fuel depth s = some (j, r)) : ∃ w, Begins s w r ∧ w.valueAt depth = j :=
  (sound fuel).value h

/-! ## What the text begins with is read -/

theorem Named.length_lt {s rest : List Char} {name : Option String} (h : Named s name rest) :
    rest.length < s.length := by
  obtain ⟨inner, raw, afterName, hs, hraw, -, hcolon⟩ := h
  have h1 := length_lt_of_skipSpace hs
  have h2 := length_of_rawText? hraw
  have h3 := length_lt_of_skipSpace hcolon
  omega

mutual

theorem Begins.length_lt {s r : List Char} {w : Written} : Begins s w r → r.length < s.length
  | .text hs hraw _ => by
    have h1 := length_lt_of_skipSpace hs
    have h2 := length_of_rawText? hraw
    omega
  | .noItems hs hrest | .noFields hs hrest => by
    have h1 := length_lt_of_skipSpace hs
    have h2 := length_lt_of_skipSpace hrest
    omega
  | @Begins.items _ rest _ _ hs hitems => by
    have h1 := length_lt_of_skipSpace hs
    have h2 := length_skipSpace_le rest
    have h3 := hitems.length_lt
    omega
  | @Begins.fields _ rest _ _ hs hfields => by
    have h1 := length_lt_of_skipSpace hs
    have h2 := length_skipSpace_le rest
    have h3 := hfields.length_lt
    omega
  | .null hs | .yes hs | .no hs => by
    have h1 := length_lt_of_skipSpace hs
    simp only [List.length_cons] at h1
    omega
  | .number hn => by
    obtain ⟨c, s', hs, -, hle⟩ := head_of_numeral? hn
    have h1 := length_lt_of_skipSpace hs
    omega

theorem BeginsItems.length_lt {s r : List Char} {xs : List Written} :
    BeginsItems s xs r → r.length < s.length
  | .last hx hrest => by
    have h1 := hx.length_lt
    have h2 := length_lt_of_skipSpace hrest
    omega
  | .more hx hrest hxs => by
    have h1 := hx.length_lt
    have h2 := length_lt_of_skipSpace hrest
    have h3 := hxs.length_lt
    omega

theorem BeginsFields.length_lt {s r : List Char} {fields : List (Option String × Written)} :
    BeginsFields s fields r → r.length < s.length
  | .last hname hx hrest => by
    have h1 := hname.length_lt
    have h2 := hx.length_lt
    have h3 := length_lt_of_skipSpace hrest
    omega
  | .more hname hx hrest hxs => by
    have h1 := hname.length_lt
    have h2 := hx.length_lt
    have h3 := length_lt_of_skipSpace hrest
    have h4 := hxs.length_lt
    omega

end

/-- What starts with another character than a minus sign or a digit is no number. -/
theorem numeral?_eq_none {c : Char} (hc : ¬(c = '-' ∨ c.isDigit = true)) (s : List Char) :
    numeral? (c :: s) = none := by
  cases hn : numeral? (c :: s) with
  | none => rfl
  | some found =>
    obtain ⟨c', s', hs, hc', -⟩ := head_of_numeral? hn
    cases hs
    exact absurd hc' hc

/-- Where a number stands, a number is read. -/
theorem value?_of_numeral? {s after : List Char} {n : Numeral}
    (hn : numeral? (skipSpace s) = some (n, after)) (fuel depth : Nat) :
    value? (fuel + 1) depth s = some (n.value, after) := by
  have hother : ∀ c rest, ¬(c = '-' ∨ c.isDigit = true) → skipSpace s ≠ c :: rest := by
    intro c rest hc hs
    rw [hs, numeral?_eq_none hc] at hn
    cases hn
  rw [value?]
  dsimp only
  split
  case h_7 => rw [hn, Option.map_some]
  all_goals
    rename_i hs
    exact absurd hs (hother _ _ (by decide))

/-- Every field takes a character at least. -/
theorem BeginsFields.length_le {s r : List Char} {fields : List (Option String × Written)}
    (h : BeginsFields s fields r) : fields.length + r.length ≤ s.length := by
  induction fields generalizing s with
  | nil => cases h
  | cons f fields ih =>
    have hlt := h.length_lt
    cases h with
    | last =>
      simp only [List.length_cons, List.length_nil]
      omega
    | more hname hx hrest hxs =>
      have hothers := ih hxs
      have hstart := hname.length_lt
      have hfirst := hx.length_lt
      have hmore := length_lt_of_skipSpace hrest
      simp only [List.length_cons]
      omega

/-- A value does not start with a closing bracket. -/
theorem Begins.head {s r : List Char} {w : Written} (h : Begins s w r) :
    ∃ c rest, skipSpace s = c :: rest ∧ c ≠ ']' := by
  cases h with
  | text hs | noItems hs | items hs | noFields hs | fields hs | null hs | yes hs | no hs =>
    exact ⟨_, _, hs, by decide⟩
  | number hn =>
    obtain ⟨c, rest, hs, hc, -⟩ := head_of_numeral? hn
    refine ⟨c, rest, hs, ?_⟩
    rintro rfl
    exact absurd hc (by decide)

theorem BeginsItems.head {s r : List Char} {xs : List Written} (h : BeginsItems s xs r) :
    ∃ c rest, skipSpace s = c :: rest ∧ c ≠ ']' := by
  cases h with
  | last hx => exact hx.head
  | more hx => exact hx.head

/-- A name does not start with a closing brace. -/
theorem BeginsFields.head {s r : List Char} {fields : List (Option String × Written)}
    (h : BeginsFields s fields r) : ∃ c rest, skipSpace s = c :: rest ∧ c ≠ '}' := by
  cases h with
  | last hname | more hname =>
    obtain ⟨inner, raw, afterName, hs, -⟩ := hname
    exact ⟨_, _, hs, by decide⟩

mutual

/-- **With enough steps what a text begins with is read.** What follows it depends neither on the steps
nor on the depth. -/
theorem value?_of_begins {s r : List Char} {w : Written} (h : Begins s w r) (fuel depth : Nat)
    (hfuel : 2 * (s.length - r.length) ≤ fuel) :
    value? fuel depth s = some (w.valueAt depth, r) := by
  have hlt := h.length_lt
  obtain ⟨fuel, rfl⟩ : ∃ k, fuel = k + 1 := ⟨fuel - 1, by omega⟩
  cases h with
  | text hs hraw ht => simp [value?, hs, hraw, ht, Written.valueAt]
  | noItems hs hrest => simp [value?, hs, hrest, Written.valueAt, Written.valuesAt]
  | @items _ rest _ xs hs hitems =>
    obtain ⟨c, inner, hrest, hc⟩ := hitems.head
    rw [skipSpace_skipSpace] at hrest
    have hlength := length_lt_of_skipSpace hs
    have hskipped := length_skipSpace_le rest
    have hxs := items?_of_begins hitems fuel (depth - 1) (by omega)
    rw [hrest] at hxs
    simp [value?, hs, hrest, hc, hxs, Written.valueAt]
  | noFields hs hrest => simp [value?, hs, hrest, Written.valueAt, Written.namedAt, ofNamed]
  | @fields _ rest _ xs hs hfields =>
    obtain ⟨c, inner, hrest, hc⟩ := hfields.head
    rw [skipSpace_skipSpace] at hrest
    have hlength := length_lt_of_skipSpace hs
    have hskipped := length_skipSpace_le rest
    have hxs := fields?_of_begins hfields fuel (depth - 1) (by omega)
    rw [hrest] at hxs
    simp [value?, hs, hrest, hc, hxs, Written.valueAt]
  | null hs => simp [value?, hs, Written.valueAt]
  | yes hs => simp [value?, hs, Written.valueAt]
  | no hs => simp [value?, hs, Written.valueAt]
  | number hn => exact value?_of_numeral? hn fuel depth

theorem items?_of_begins {s r : List Char} {xs : List Written} (h : BeginsItems s xs r)
    (fuel depth : Nat) (hfuel : 2 * (s.length - r.length) ≤ fuel + 1) :
    items? fuel depth s = some (Written.valuesAt depth xs, r) := by
  have hlt := h.length_lt
  obtain ⟨fuel, rfl⟩ : ∃ k, fuel = k + 1 := ⟨fuel - 1, by omega⟩
  cases h with
  | last hx hrest =>
    have hlength := length_lt_of_skipSpace hrest
    have hvalue := value?_of_begins hx fuel depth (by omega)
    simp [items?, hvalue, hrest, Written.valuesAt]
  | more hx hrest hxs =>
    have hlength := length_lt_of_skipSpace hrest
    have hfirst := hx.length_lt
    have hothers := hxs.length_lt
    have hvalue := value?_of_begins hx fuel depth (by omega)
    have hvalues := items?_of_begins hxs fuel depth (by omega)
    simp [items?, hvalue, hrest, hvalues, Written.valuesAt]

theorem fields?_of_begins {s r : List Char} {xs : List (Option String × Written)}
    (h : BeginsFields s xs r) (fuel depth : Nat) (hfuel : 2 * (s.length - r.length) ≤ fuel + 1) :
    fields? fuel depth s = some (Written.namedAt depth xs, r) := by
  have hlt := h.length_lt
  obtain ⟨fuel, rfl⟩ : ∃ k, fuel = k + 1 := ⟨fuel - 1, by omega⟩
  cases h with
  | last hname hx hrest =>
    have hlength := length_lt_of_skipSpace hrest
    have hstart := hname.length_lt
    have hvalue := value?_of_begins hx fuel depth (by omega)
    obtain ⟨inner, raw, afterName, hs, hraw, hspelled, hcolon⟩ := hname
    simp [fields?, hs, hraw, hspelled, hcolon, hvalue, hrest, Written.namedAt]
  | more hname hx hrest hxs =>
    have hlength := length_lt_of_skipSpace hrest
    have hstart := hname.length_lt
    have hfirst := hx.length_lt
    have hothers := hxs.length_lt
    have hvalue := value?_of_begins hx fuel depth (by omega)
    have hvalues := fields?_of_begins hxs fuel depth (by omega)
    obtain ⟨inner, raw, afterName, hs, hraw, hspelled, hcolon⟩ := hname
    simp [fields?, hs, hraw, hspelled, hcolon, hvalue, hrest, hvalues, Written.namedAt]

end

/-- The reader takes as many steps as it may need. -/
theorem value?_stepBound {s r : List Char} {w : Written} (h : Begins s w r) (depth : Nat) :
    value? (stepBound s) depth s = some (w.valueAt depth, r) :=
  value?_of_begins h _ depth (by unfold stepBound; omega)

/-- A value is passed over, wherever it stands. -/
theorem skip?_of_begins {s r : List Char} {w : Written} (h : Begins s w r) : skip? s = some r := by
  rw [skip?, value?_stepBound h, Option.map_some]

/-! ## Whole texts -/

/-- A text stands for a value: there is nothing but white space around it. -/
def Stands (text : String) (w : Written) : Prop :=
  ∃ after, Begins text.toList w after ∧ skipSpace after = []

/-- **A text is scanned as the value that it stands for**, and any other text is not. -/
theorem scan?_eq_some_iff {text : String} {j : Json} :
    scan? text = some j ↔ ∃ w, Stands text w ∧ w.valueAt maxDepth = j := by
  constructor
  · intro h
    obtain ⟨⟨found, after⟩, hvalue, hafter⟩ := Option.bind_eq_some_iff.1 h
    dsimp only at hafter
    split at hafter
    · rename_i hempty
      obtain rfl := Option.some.inj hafter
      obtain ⟨w, hw, hj⟩ := begins_of_value? hvalue
      exact ⟨w, ⟨after, hw, List.isEmpty_iff.1 hempty⟩, hj⟩
    · cases hafter
  · rintro ⟨w, ⟨after, hw, hafter⟩, rfl⟩
    simp [scan?, value?_stepBound hw, hafter]

/-! ## Plain texts -/

/-- A character that stands for itself in a text. -/
def isPlain (c : Char) : Bool := c ≠ '"' && c ≠ '\\' && 0x20 ≤ c.toNat

theorem isPlain_iff {c : Char} : isPlain c = true ↔ c ≠ '"' ∧ c ≠ '\\' ∧ 0x20 ≤ c.toNat := by
  simp only [isPlain, Bool.and_eq_true, decide_eq_true_eq, and_assoc]

theorem rawText?_plain {value : List Char} (h : value.all isPlain = true) (rest : List Char) :
    rawText? (value ++ '"' :: rest) = some (value, rest) := by
  induction value with
  | nil => rfl
  | cons c value ih =>
    obtain ⟨hc, hvalue⟩ := Bool.and_eq_true_iff.1 h
    obtain ⟨hquote, hescape, hcontrol⟩ := isPlain_iff.1 hc
    rw [List.cons_append, rawText?, if_neg (Nat.not_lt.2 hcontrol), ih hvalue]
    · rfl
    · exact hquote
    · exact fun _ _ h _ => hescape h

theorem textParts?_plain {value : List Char} (h : value.all isPlain = true) :
    textParts? value = some (value.map .char) := by
  induction value with
  | nil => rfl
  | cons c value ih =>
    obtain ⟨hc, hvalue⟩ := Bool.and_eq_true_iff.1 h
    obtain ⟨-, hescape, -⟩ := isPlain_iff.1 hc
    rw [textParts?, ih hvalue]
    · rfl
    · exact fun _ _ _ _ _ h _ => hescape h
    · exact fun _ _ h _ => hescape h
    · exact fun h _ => hescape h

theorem pairUnits?_chars (value : List Char) : pairUnits? (value.map .char) = some value := by
  induction value with
  | nil => rfl
  | cons c value ih => simp [pairUnits?, ih]

theorem spelled?_plain {value : List Char} (h : value.all isPlain = true) :
    spelled? value = some (some (String.ofList value)) := by
  rw [spelled?, textParts?_plain h, Option.map_some, pairUnits?_chars, Option.map_some]

/-- Plain characters between quotes are a text. -/
theorem begins_plain {value : List Char} (h : value.all isPlain = true) (rest : List Char) :
    Begins ('"' :: (value ++ '"' :: rest)) (.text (String.ofList value)) rest :=
  .text rfl (rawText?_plain h rest) (spelled?_plain h)

theorem named_plain {name : List Char} (h : name.all isPlain = true) (rest : List Char) :
    Named ('"' :: (name ++ '"' :: ':' :: rest)) (String.ofList name) rest :=
  ⟨_, name, ':' :: rest, rfl, rawText?_plain h _, spelled?_plain h, rfl⟩

end BuildYard.Json
