import BuildYard.Proofs.Json.Stepping
/-!
# What the steps accept

A step that finds something takes a part of the text that the grammar knows: a reader that knows which
value it wants accepts no text that is not JSON.

* `Begins.of_skipSpace_eq`: what a text begins with does not depend on the white space before it.
* `Step.Accepts`: a step finds something only where a text begins with a value. `accepts_text`,
  `accepts_textOrNull`, `accepts_anything`, `accepts_textMap`: the steps that read a value do.
* `Step.begins_obj_of_moreFields`, `Step.begins_arr_of_moreItems`: objects and arrays, from what the
  steps find member by member.
-/

namespace BuildYard.Json

/-! ## White space before a value -/

theorem Begins.of_skipSpace_eq {s s' r : List Char} {w : Written} (h : Begins s w r)
    (hs' : skipSpace s' = skipSpace s) : Begins s' w r := by
  cases h with
  | text hs hraw ht => exact .text (hs'.trans hs) hraw ht
  | noItems hs hrest => exact .noItems (hs'.trans hs) hrest
  | items hs hitems => exact .items (hs'.trans hs) hitems
  | noFields hs hrest => exact .noFields (hs'.trans hs) hrest
  | fields hs hfields => exact .fields (hs'.trans hs) hfields
  | null hs => exact .null (hs'.trans hs)
  | yes hs => exact .yes (hs'.trans hs)
  | no hs => exact .no (hs'.trans hs)
  | number hn => exact .number (by rwa [hs'])

theorem BeginsItems.of_skipSpace_eq {s s' r : List Char} {xs : List Written}
    (h : BeginsItems s xs r) (hs' : skipSpace s' = skipSpace s) : BeginsItems s' xs r := by
  cases h with
  | last hx hrest => exact .last (hx.of_skipSpace_eq hs') hrest
  | more hx hrest hxs => exact .more (hx.of_skipSpace_eq hs') hrest hxs

theorem Named.of_skipSpace_eq {s s' rest : List Char} {name : Option String}
    (h : Named s name rest) (hs' : skipSpace s' = skipSpace s) : Named s' name rest := by
  obtain ⟨inner, raw, afterName, hs, hraw, hspelled, hcolon⟩ := h
  exact ⟨inner, raw, afterName, hs'.trans hs, hraw, hspelled, hcolon⟩

theorem BeginsFields.of_skipSpace_eq {s s' r : List Char}
    {fields : List (Option String × Written)} (h : BeginsFields s fields r)
    (hs' : skipSpace s' = skipSpace s) : BeginsFields s' fields r := by
  cases h with
  | last hname hx hrest => exact .last (hname.of_skipSpace_eq hs') hx hrest
  | more hname hx hrest hxs => exact .more (hname.of_skipSpace_eq hs') hx hrest hxs

namespace Step

variable {α β : Type} {s r : List Char}

/-! ## Steps that find something -/

theorem bind_eq_ok {step : Step α} {f : α → Step β} {b : β}
    (h : (step >>= f).run s = .ok (b, r)) :
    ∃ a s', step.run s = .ok (a, s') ∧ (f a).run s' = .ok (b, r) := by
  rw [StateT.run_bind] at h
  cases hstep : step.run s with
  | error e =>
    rw [hstep] at h
    cases h
  | ok found =>
    rw [hstep] at h
    exact ⟨found.1, found.2, rfl, h⟩

theorem pure_eq_ok {a b : α} (h : (pure a : Step α).run s = .ok (b, r)) : a = b ∧ s = r := by
  cases h
  exact ⟨rfl, rfl⟩

theorem set_eq_ok {s' : List Char} {u : Unit} (h : (set s' : Step Unit).run s = .ok (u, r)) :
    s' = r := by
  cases h
  rfl

theorem next_eq_ok {s' : List Char} (h : Step.next.run s = .ok (s', r)) :
    s' = skipSpace s ∧ r = skipSpace s := by
  cases h
  exact ⟨rfl, rfl⟩

theorem orMalformed_eq_ok {part : Option α} {a : α}
    (h : (orMalformed part).run s = .ok (a, r)) : part = some a ∧ s = r := by
  cases part with
  | none => cases h
  | some a' =>
    cases h
    exact ⟨rfl, rfl⟩

theorem quoted_eq_ok {t : String} (h : quoted.run s = .ok (t, r)) :
    ∃ raw, rawText? s = some (raw, r) ∧ spelled? raw = some (some t) := by
  obtain ⟨_, _, hget, h⟩ := bind_eq_ok h
  cases hget
  obtain ⟨⟨raw, rest⟩, _, hpart, h⟩ := bind_eq_ok h
  obtain ⟨hraw, rfl⟩ := orMalformed_eq_ok hpart
  obtain ⟨_, _, hset, h⟩ := bind_eq_ok h
  obtain rfl := set_eq_ok hset
  obtain ⟨ht, rfl⟩ := orMalformed_eq_ok h
  exact ⟨raw, hraw, Option.join_eq_some_iff.1 ht⟩

theorem colon_eq_ok {u : Unit} (h : colon.run s = .ok (u, r)) : skipSpace s = ':' :: r := by
  obtain ⟨_, _, hnext, h⟩ := bind_eq_ok h
  obtain ⟨rfl, rfl⟩ := next_eq_ok hnext
  split at h
  · rename_i hs
    rw [hs, set_eq_ok h]
  · cases h

/-! ## Values -/

/-- A step finds something only where a text begins with a value, and takes the value. -/
def Accepts (step : Step α) : Prop :=
  ∀ {s r a}, step.run s = .ok (a, r) → ∃ w, Begins s w r

theorem accepts_text : Accepts text := by
  intro s r t h
  obtain ⟨_, _, hnext, h⟩ := bind_eq_ok h
  obtain ⟨rfl, rfl⟩ := next_eq_ok hnext
  split at h
  · rename_i rest hs
    obtain ⟨_, _, hset, h⟩ := bind_eq_ok h
    obtain rfl := set_eq_ok hset
    obtain ⟨raw, hraw, hspelled⟩ := quoted_eq_ok h
    exact ⟨_, .text hs hraw hspelled⟩
  · cases h

theorem accepts_textOrNull : Accepts textOrNull := by
  intro s r t h
  obtain ⟨_, _, hnext, h⟩ := bind_eq_ok h
  obtain ⟨rfl, rfl⟩ := next_eq_ok hnext
  split at h
  · rename_i rest hs
    obtain ⟨_, _, hset, h⟩ := bind_eq_ok h
    obtain rfl := set_eq_ok hset
    obtain ⟨-, rfl⟩ := pure_eq_ok h
    exact ⟨_, .null hs⟩
  · obtain ⟨_, _, htext, h⟩ := bind_eq_ok h
    obtain ⟨-, rfl⟩ := pure_eq_ok h
    obtain ⟨w, hw⟩ := accepts_text htext
    exact ⟨w, hw.of_skipSpace_eq (skipSpace_skipSpace s).symm⟩

theorem accepts_anything : Accepts anything := by
  intro s r u h
  obtain ⟨_, _, hget, h⟩ := bind_eq_ok h
  cases hget
  obtain ⟨rest, _, hpart, h⟩ := bind_eq_ok h
  obtain ⟨hskip, rfl⟩ := orMalformed_eq_ok hpart
  obtain rfl := set_eq_ok h
  obtain ⟨⟨j, rest⟩, hvalue, rfl⟩ := Option.map_eq_some_iff.1 hskip
  obtain ⟨w, hw, -⟩ := begins_of_value? hvalue
  exact ⟨w, hw⟩

/-! ## Members -/

variable {close : Char} {isFirst : Bool}

/-- Where there is another member, the first one stands at once and a later one behind a comma. -/
theorem member_eq_true (h : (member close isFirst).run s = .ok (true, r)) :
    ∃ start, r = skipSpace start ∧ (isFirst = true → start = s) ∧
      (isFirst = false → skipSpace s = ',' :: start) := by
  obtain ⟨_, _, hnext, h⟩ := bind_eq_ok h
  obtain ⟨rfl, rfl⟩ := next_eq_ok hnext
  split at h
  · rename_i c rest hs
    split at h
    · obtain ⟨_, _, -, h⟩ := bind_eq_ok h
      cases (pure_eq_ok h).1
    split at h
    · rename_i hfirst
      obtain ⟨-, rfl⟩ := pure_eq_ok h
      exact ⟨s, rfl, fun _ => rfl, by simp [hfirst]⟩
    split at h
    · rename_i hfirst hcomma
      obtain ⟨_, _, hset, h⟩ := bind_eq_ok h
      obtain rfl := set_eq_ok hset
      obtain ⟨_, _, hnext, h⟩ := bind_eq_ok h
      obtain ⟨rfl, rfl⟩ := next_eq_ok hnext
      split at h
      · cases h
      · obtain ⟨-, rfl⟩ := pure_eq_ok h
        exact ⟨rest, rfl, by simp [hfirst], fun _ => by rw [hs, hcomma]⟩
    · cases h
  · cases h

/-- Where there is none, the closing mark stands. -/
theorem member_eq_false (h : (member close isFirst).run s = .ok (false, r)) :
    skipSpace s = close :: r := by
  obtain ⟨_, _, hnext, h⟩ := bind_eq_ok h
  obtain ⟨rfl, rfl⟩ := next_eq_ok hnext
  split at h
  · rename_i c rest hs
    split at h
    · rename_i hclose
      obtain ⟨_, _, hset, h⟩ := bind_eq_ok h
      obtain rfl := set_eq_ok hset
      obtain ⟨-, rfl⟩ := pure_eq_ok h
      rw [hs, hclose]
    split at h
    · cases (pure_eq_ok h).1
    split at h
    · obtain ⟨_, _, -, h⟩ := bind_eq_ok h
      obtain ⟨_, _, -, h⟩ := bind_eq_ok h
      split at h
      · cases h
      · cases (pure_eq_ok h).1
    · cases h
  · cases h

/-! ## Objects -/

/-- A field before other fields, or before the closing brace. -/
theorem beginsFields_cons {start rest : List Char} {name : Option String} {x : Written}
    {xs : List (Option String × Written)} (hname : Named s name start) (hx : Begins start x rest)
    (hmore : MoreFields false rest xs r) : BeginsFields s ((name, x) :: xs) r := by
  cases xs with
  | nil => exact .last hname hx hmore
  | cons f xs =>
    obtain ⟨next, hmember, hxs⟩ := hmore
    obtain ⟨next', hnext, -, hcomma⟩ := member_eq_true hmember
    exact .more hname hx (hcomma rfl) (hxs.of_skipSpace_eq hnext.symm)

/-- A brace and fields behind it are an object. -/
theorem begins_obj_of_moreFields {rest : List Char} {fields : List (Option String × Written)}
    (hs : skipSpace s = '{' :: rest) (h : MoreFields true rest fields r) :
    Begins s (.obj fields) r := by
  cases fields with
  | nil => exact .noFields hs h
  | cons f fields =>
    obtain ⟨start, hmember, hfields⟩ := h
    obtain ⟨start', hstart, hfirst, -⟩ := member_eq_true hmember
    obtain rfl := hfirst rfl
    exact .fields hs (hfields.of_skipSpace_eq ((skipSpace_skipSpace _).trans hstart.symm))

/-- A step that adds a field takes a colon and a value. -/
def AcceptsField (add : α → String → Step α) : Prop :=
  ∀ {found name s r a}, (add found name).run s = .ok (a, r) →
    ∃ start x, skipSpace s = ':' :: start ∧ Begins start x r

theorem fieldName_eq_ok {name : String} (h : fieldName.run s = .ok (name, r)) :
    ∃ inner raw, s = '"' :: inner ∧ rawText? inner = some (raw, r) ∧
      spelled? raw = some (some name) := by
  obtain ⟨_, _, hget, h⟩ := bind_eq_ok h
  cases hget
  split at h
  · rename_i inner _
    obtain ⟨_, _, hset, h⟩ := bind_eq_ok h
    obtain rfl := set_eq_ok hset
    obtain ⟨raw, hraw, hspelled⟩ := quoted_eq_ok h
    exact ⟨inner, raw, rfl, hraw, hspelled⟩
  · cases h

theorem moreFields_of_fieldsFrom {add : α → String → Step α} (hadd : AcceptsField add) {steps : Nat}
    {found a : α} (h : (fieldsFrom add steps isFirst found).run s = .ok (a, r)) :
    ∃ fields, MoreFields isFirst s fields r := by
  induction steps generalizing isFirst s found with
  | zero => cases h
  | succ steps ih =>
    rw [fieldsFrom] at h
    obtain ⟨isMore, _, hmember, h⟩ := bind_eq_ok h
    cases isMore with
    | false =>
      obtain ⟨-, rfl⟩ := pure_eq_ok h
      exact ⟨[], member_eq_false hmember⟩
    | true =>
      obtain ⟨start, rfl, -⟩ := member_eq_true hmember
      obtain ⟨name, _, hfieldName, h⟩ := bind_eq_ok h
      obtain ⟨_, _, hadded, h⟩ := bind_eq_ok h
      obtain ⟨inner, raw, hstart, hraw, hspelled⟩ := fieldName_eq_ok hfieldName
      obtain ⟨value, x, hcolon, hx⟩ := hadd hadded
      obtain ⟨xs, hmore⟩ := ih h
      have hname : Named start (some name) value := ⟨inner, raw, _, hstart, hraw, hspelled, hcolon⟩
      exact ⟨(some name, x) :: xs, start, hmember, beginsFields_cons hname hx hmore⟩

theorem moreFields_of_fields {add : α → String → Step α} (hadd : AcceptsField add) {start a : α}
    (h : (fields start add).run s = .ok (a, r)) : ∃ fields, MoreFields true s fields r := by
  obtain ⟨_, _, hget, h⟩ := bind_eq_ok h
  cases hget
  exact moreFields_of_fieldsFrom hadd h

theorem accepts_textMap : Accepts textMap := by
  intro s r m h
  obtain ⟨_, _, hnext, h⟩ := bind_eq_ok h
  obtain ⟨rfl, rfl⟩ := next_eq_ok hnext
  split at h
  · rename_i rest hs
    obtain ⟨_, _, hset, h⟩ := bind_eq_ok h
    obtain rfl := set_eq_ok hset
    have hadd : AcceptsField fun (found : SortedMap String String) name => do
        colon
        return found.insert name (← text) := by
      intro found name s r a h
      obtain ⟨_, start, hcolon, h⟩ := bind_eq_ok h
      obtain ⟨t, _, htext, h⟩ := bind_eq_ok h
      obtain ⟨-, rfl⟩ := pure_eq_ok h
      obtain ⟨x, hx⟩ := accepts_text htext
      exact ⟨start, x, colon_eq_ok hcolon, hx⟩
    obtain ⟨fields, hfields⟩ := moreFields_of_fields hadd h
    exact ⟨_, begins_obj_of_moreFields hs hfields⟩
  · cases h

/-! ## Arrays -/

/-- A bracket and items behind it are an array. -/
theorem begins_arr_of_moreItems {rest : List Char} {items : List Written}
    (hs : skipSpace s = '[' :: rest) (h : MoreItems true rest items r) :
    Begins s (.arr items) r := by
  cases items with
  | nil => exact .noItems hs h
  | cons x items =>
    obtain ⟨start, hmember, hitems⟩ := h
    obtain ⟨start', hstart, hfirst, -⟩ := member_eq_true hmember
    obtain rfl := hfirst rfl
    exact .items hs (hitems.of_skipSpace_eq ((skipSpace_skipSpace _).trans hstart.symm))

/-- An item that is accepted stands before what is accepted behind it. -/
theorem moreItems_of_item {read : Step α} (hread : Accepts read) {s' : List Char} {a : α}
    {xs : List Written} (h : (item isFirst read).run s = .ok (a, s'))
    (hmore : MoreItems false s' xs r) : ∃ x, MoreItems isFirst s (x :: xs) r := by
  obtain ⟨isMore, _, hmember, h⟩ := bind_eq_ok h
  cases isMore with
  | false => cases h
  | true =>
    obtain ⟨start, rfl, -⟩ := member_eq_true hmember
    obtain ⟨x, hx⟩ := hread h
    refine ⟨x, start, hmember, ?_⟩
    have hx := hx.of_skipSpace_eq (skipSpace_skipSpace start).symm
    cases xs with
    | nil => exact .last hx hmore
    | cons x' xs =>
      obtain ⟨next, hnext, hxs⟩ := hmore
      obtain ⟨next', hskip, -, hcomma⟩ := member_eq_true hnext
      exact .more hx (hcomma rfl) (hxs.of_skipSpace_eq hskip.symm)

theorem arrayEnd_eq_ok {u : Unit} (h : arrayEnd.run s = .ok (u, r)) :
    MoreItems false s [] r := by
  obtain ⟨_, _, hnext, h⟩ := bind_eq_ok h
  obtain ⟨rfl, rfl⟩ := next_eq_ok hnext
  split at h
  · rename_i rest hs
    obtain rfl := set_eq_ok h
    exact hs
  · cases h

theorem textEnd_eq_ok {u : Unit} (h : textEnd.run s = .ok (u, r)) : skipSpace s = [] := by
  obtain ⟨_, _, hnext, h⟩ := bind_eq_ok h
  obtain ⟨rfl, rfl⟩ := next_eq_ok hnext
  split at h
  · cases h
  · rename_i hempty
    simpa using hempty

end Step

end BuildYard.Json
