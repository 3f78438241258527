import BuildYard.Json.Stepwise
import BuildYard.Proofs.Json.Grammar
/-!
# What the steps read

A step takes off the front of a text what it wants. Where the text begins with a value, this file says
what each step finds: the same as can be told from the value, and behind it the same rest.

* `Written.asText`, `Written.asTextMap`, …: what can be told from a value, or the fault with it.
* `Step.Reads`: what a step finds at the start of a text, and where it leaves off. It is put together
  as steps are.
* `Reads.text`, `Reads.anything`, `Reads.fields`, …: one law for each step.
-/

namespace BuildYard.Json

/-! ## What can be told from a value -/

/-- What is spelled, unless it stands for nothing. -/
def spelling {α : Type} : Option α → Except Fault α
  | some a => .ok a
  | none => .error .malformed

namespace Written

variable {α : Type}

/-- The fault with a value where another is wanted. A text or a number may be spoiled itself. -/
def refused : Written → Fault
  | .text none => .malformed
  | .number n => if n.value.isWhole then .unwanted else .malformed
  | .text (some _) | .null | .bool _ | .arr _ | .obj _ => .unwanted

/-- A text. -/
def asText : Written → Except Fault String
  | .text (some t) => .ok t
  | w => .error w.refused

theorem asText_text (t : Option String) : asText (.text t) = spelling t := by
  cases t <;> rfl

/-- A value that can be read or `null`. -/
def orNull (read : Written → Except Fault α) : Written → Except Fault (Option α)
  | .null => .ok none
  | w => (read w).map some

/-- What comes of one more field, unless its name stands for nothing. -/
def giveField (give : α → String → Written → Except Fault α) (found : α)
    (f : Option String × Written) : Except Fault α :=
  spelling f.1 >>= fun name => give found name f.2

/-- A map with one more text. -/
def giveText (found : SortedMap String String) (name : String) (x : Written) :
    Except Fault (SortedMap String String) :=
  x.asText.map (found.insert name)

/-- An object of texts as a map; of two fields with one name the later counts. -/
def asTextMap : Written → Except Fault (SortedMap String String)
  | .obj fields => fields.foldlM (giveField giveText) .empty
  | w => .error w.refused

/-- The character that values of this kind start with, if it is the same for all of them. -/
def opening? : Written → Option Char
  | .null => some 'n'
  | .bool true => some 't'
  | .bool false => some 'f'
  | .text _ => some '"'
  | .arr _ => some '['
  | .obj _ => some '{'
  | .number _ => none

end Written

open Written (asText asText_text asTextMap giveField giveText orNull)

/-! ## Telling values apart -/

theorem Begins.opening_eq {s r rest : List Char} {w : Written} {c : Char} (h : Begins s w r)
    (hs : skipSpace s = c :: rest) (hc : ¬(c = '-' ∨ c.isDigit = true)) : w.opening? = some c := by
  cases h with
  | text hs' | noItems hs' | items hs' | noFields hs' | fields hs' | null hs' | yes hs' | no hs' =>
    rw [hs] at hs'
    cases hs'
    rfl
  | number hn =>
    rw [hs, numeral?_eq_none hc] at hn
    cases hn

/-- Where a brace stands, an object begins. -/
theorem Begins.exists_obj {s r rest : List Char} {w : Written} (h : Begins s w r)
    (hs : skipSpace s = '{' :: rest) : ∃ fields, w = .obj fields := by
  have hopening := h.opening_eq hs (by decide)
  cases w with
  | obj fields => exact ⟨fields, rfl⟩
  | bool b => cases b <;> cases hopening
  | _ => cases hopening

/-- Where a bracket stands, an array begins. -/
theorem Begins.exists_arr {s r rest : List Char} {w : Written} (h : Begins s w r)
    (hs : skipSpace s = '[' :: rest) : ∃ items, w = .arr items := by
  have hopening := h.opening_eq hs (by decide)
  cases w with
  | arr items => exact ⟨items, rfl⟩
  | bool b => cases b <;> cases hopening
  | _ => cases hopening

/-- Where the word stands, the value is `null`. -/
theorem Begins.eq_null {s r rest : List Char} {w : Written} (h : Begins s w r)
    (hs : skipSpace s = 'n' :: rest) : w = .null := by
  have hopening := h.opening_eq hs (by decide)
  cases w with
  | null => rfl
  | bool b => cases b <;> cases hopening
  | _ => cases hopening

/-! ## Steps -/

namespace Step

variable {α β : Type}

/-- A step finds something at the start of a text, or comes to a fault; if it finds something, it leaves
a rest. -/
def Reads (step : Step α) (s : List Char) (found : Except Fault α) (r : List Char) : Prop :=
  step.run s = found.map fun a => (a, r)

namespace Reads

theorem pure (a : α) (s : List Char) : Reads (Pure.pure a) s (.ok a) s := rfl

theorem fault (e : Fault) (s r : List Char) : Reads (throw e : Step α) s (.error e) r := rfl

theorem get (s : List Char) : Reads MonadState.get s (.ok s) s := rfl

theorem set (s s' : List Char) : Reads (MonadStateOf.set s') s (.ok ()) s' := rfl

theorem next (s : List Char) : Reads Step.next s (.ok (skipSpace s)) (skipSpace s) := rfl

theorem orMalformed {part found : Option α} (h : part = found) (s : List Char) :
    Reads (Step.orMalformed part) s (spelling found) s := by
  subst h
  cases part <;> rfl

/-- One step and then another, which goes on where the first left off. -/
theorem bind {step : Step α} {f : α → Step β} {s s' r : List Char} {found : Except Fault α}
    {g : α → Except Fault β} (h : Reads step s found s') (hf : ∀ a, Reads (f a) s' (g a) r) :
    Reads (step >>= f) s (found >>= g) r := by
  unfold Reads at *
  rw [StateT.run_bind, h]
  cases found with
  | error e => rfl
  | ok a => exact hf a

/-- A step that finds something and then another. -/
theorem andThen {step : Step α} {f : α → Step β} {s s' r : List Char} {a : α} {found : Except Fault β}
    (h : Reads step s (.ok a) s') (hf : Reads (f a) s' found r) : Reads (step >>= f) s found r := by
  unfold Reads at *
  rw [StateT.run_bind, h]
  exact hf

/-- After a fault there is nothing else. -/
theorem failing {step : Step α} {s r : List Char} {e : Fault} (h : Reads step s (.error e) r)
    (f : α → Step β) : Reads (step >>= f) s (.error e) r := by
  unfold Reads at *
  rw [StateT.run_bind, h]
  rfl

/-- A step whose find is changed. -/
theorem changed {step : Step α} {s r : List Char} {found : Except Fault α} (h : Reads step s found r)
    (f : α → β) : Reads (do return f (← step)) s (found.map f) r := by
  have hfound : found.map f = found >>= fun a => .ok (f a) := by
    cases found <;> rfl
  rw [hfound]
  exact .bind h fun a => .pure ..

theorem run'_eq {step : Step α} {s r : List Char} {found : Except Fault α}
    (h : Reads step s found r) : step.run' s = found := by
  rw [StateT.run'_eq, h]
  cases found <;> rfl

/-! ## Leaves -/

theorem quoted {s raw r : List Char} {t : Option String} (hraw : rawText? s = some (raw, r))
    (ht : spelled? raw = some t) : Reads Step.quoted s (spelling t) r :=
  .andThen (.get s) <| .andThen (.orMalformed hraw _) <| .andThen (.set _ r) <|
    .orMalformed (by rw [unescaped?, ht, Option.join_some]) r

/-- Where there is another value than is wanted, the fault is the fault with that value. -/
theorem refused_of_begins {s r : List Char} {w : Written} (h : Begins s w r) :
    refused (skipSpace s) = w.refused := by
  cases h with
  | @text _ _ _ _ t hs hraw ht =>
    cases t <;> simp [refused, hs, hraw, unescaped?, ht, Written.refused]
  | noItems hs | items hs | noFields hs | fields hs | null hs | yes hs | no hs =>
    rw [hs]
    rfl
  | number hn =>
    unfold refused
    split
    case h_7 => simp [hn, Written.refused]
    all_goals
      rename_i hs
      rw [hs, numeral?_eq_none (by decide)] at hn
      cases hn

theorem text {s r : List Char} {w : Written} (h : Begins s w r) : Reads Step.text s w.asText r := by
  have hrefused := refused_of_begins h
  refine .andThen (.next s) ?_
  cases h with
  | text hs hraw ht =>
    rw [hs, asText_text]
    exact .andThen (.set _ _) (.quoted hraw ht)
  | noItems hs | items hs | noFields hs | fields hs | null hs | yes hs | no hs =>
    rw [hs] at hrefused ⊢
    show Reads (throw (refused _)) _ (.error .unwanted) r
    rw [hrefused]
    exact .fault ..
  | number hn =>
    split
    · rename_i hs
      rw [hs, numeral?_eq_none (by decide)] at hn
      cases hn
    · rw [hrefused]
      exact .fault ..

theorem textOrNull {s r : List Char} {w : Written} (h : Begins s w r) :
    Reads Step.textOrNull s (orNull asText w) r := by
  refine .andThen (.next s) ?_
  split
  · rename_i rest hs
    obtain rfl := h.eq_null hs
    cases h with
    | null hs' =>
      obtain ⟨rfl⟩ : 'n' :: 'u' :: 'l' :: 'l' :: rest = _ := hs.symm.trans hs'
      exact .andThen (.set _ _) (.pure ..)
  · rename_i hother
    have hnull : orNull asText w = w.asText.map some := by
      cases h with
      | null hs => exact absurd hs (hother _)
      | _ => rfl
    rw [hnull]
    exact .changed (.text h.skipped) some

theorem anything {s r : List Char} {w : Written} (h : Begins s w r) :
    Reads Step.anything s (.ok ()) r :=
  .andThen (.get s) <| .andThen (.orMalformed (skip?_of_begins h) _) (.set _ r)

theorem colon {s rest : List Char} (hs : skipSpace s = ':' :: rest) :
    Reads Step.colon s (.ok ()) rest := by
  refine .andThen (.next s) ?_
  rw [hs]
  exact .set ..

/-! ## Members -/

variable {close : Char}

theorem member_end {s rest : List Char} (hs : skipSpace s = close :: rest) (isFirst : Bool) :
    Reads (member close isFirst) s (.ok false) rest := by
  refine .andThen (.next s) ?_
  rw [hs]
  dsimp only
  rw [if_pos rfl]
  exact .andThen (.set ..) (.pure ..)

theorem member_first {s rest : List Char} {c : Char} (hs : skipSpace s = c :: rest) (hc : c ≠ close) :
    Reads (member close true) s (.ok true) (skipSpace s) := by
  refine .andThen (.next s) ?_
  rw [hs]
  dsimp only
  rw [if_neg hc, if_pos rfl]
  exact .pure ..

theorem member_next {s more rest : List Char} {c : Char} (hs : skipSpace s = ',' :: more)
    (hcomma : ',' ≠ close) (hmore : skipSpace more = c :: rest) (hc : c ≠ close) :
    Reads (member close false) s (.ok true) (skipSpace more) := by
  have hhead : (skipSpace more).head? ≠ some close := by
    rw [hmore]
    exact fun h => hc (Option.some.inj h)
  refine .andThen (.next s) ?_
  rw [hs]
  dsimp only
  rw [if_neg hcomma, if_neg Bool.false_ne_true, if_pos rfl]
  refine .andThen (.set _ _) (.andThen (.next more) ?_)
  rw [if_neg hhead]
  exact .andThen (.pure ..) (.pure ..)

end Reads

/-! ## Objects -/

/-- In an object a text goes on with fields, as far as the closing brace. -/
def MoreFields (isFirst : Bool) (s : List Char) (fields : List (Option String × Written))
    (r : List Char) : Prop :=
  match fields with
  | [] => skipSpace s = '}' :: r
  | _ => ∃ start, Reads (member '}' isFirst) s (.ok true) (skipSpace start) ∧
    BeginsFields start fields r

/-- An object begins with a brace and goes on with its fields. -/
theorem begins_obj {s r : List Char} {fields : List (Option String × Written)}
    (h : Begins s (.obj fields) r) : ∃ rest, skipSpace s = '{' :: rest ∧ fields.length ≤ rest.length ∧
      MoreFields true rest fields r := by
  cases h with
  | @noFields _ rest _ hs hrest => exact ⟨rest, hs, Nat.zero_le _, hrest⟩
  | @fields _ rest _ _ hs hfields =>
    have hlength := hfields.length_le
    have hskipped := length_skipSpace_le rest
    refine ⟨rest, hs, by omega, ?_⟩
    obtain ⟨c, inner, hrest, hc⟩ := hfields.head
    cases fields with
    | nil => cases hfields
    | cons f fields =>
      refine ⟨skipSpace rest, ?_, hfields⟩
      rw [skipSpace_skipSpace] at hrest ⊢
      exact .member_first hrest hc

/-- After a field the object goes on or ends. -/
theorem moreFields_of_begins {s r : List Char} {name : Option String} {x : Written}
    {xs : List (Option String × Written)} (h : BeginsFields s ((name, x) :: xs) r) :
    ∃ start rest, Named s name start ∧ Begins start x rest ∧ MoreFields false rest xs r := by
  cases h with
  | @last _ start rest _ _ _ hname hx hrest => exact ⟨start, rest, hname, hx, hrest⟩
  | @more _ start rest more _ _ _ _ hname hx hrest hxs =>
    refine ⟨start, rest, hname, hx, ?_⟩
    obtain ⟨c, inner, hmore, hc⟩ := hxs.head
    cases xs with
    | nil => cases hxs
    | cons f xs => exact ⟨more, .member_next hrest (by decide) hmore hc, hxs⟩

/-- A step that adds a field of a text adds what the value of the field gives. -/
def AddsAs (add : α → String → Step α) (give : α → String → Written → Except Fault α) : Prop :=
  ∀ found name {s start r x}, skipSpace s = ':' :: start → Begins start x r →
    Reads (add found name) s (give found name x) r

namespace Reads

theorem fieldName {s start : List Char} {name : Option String} (h : Named s name start) :
    ∃ rest, Reads Step.fieldName (skipSpace s) (spelling name) rest ∧
      skipSpace rest = ':' :: start := by
  obtain ⟨inner, raw, rest, hs, hraw, hspelled, hcolon⟩ := h
  refine ⟨rest, .andThen (.get _) ?_, hcolon⟩
  rw [hs]
  exact .andThen (.set ..) (.quoted hraw hspelled)

variable {add : α → String → Step α} {give : α → String → Written → Except Fault α}

theorem fieldsFrom (hadd : AddsAs add give) {fields : List (Option String × Written)}
    {isFirst : Bool} {s r : List Char} (h : MoreFields isFirst s fields r) {steps : Nat}
    (hsteps : fields.length < steps) (found : α) :
    Reads (Step.fieldsFrom add steps isFirst found) s (fields.foldlM (giveField give) found) r := by
  induction fields generalizing isFirst s steps found with
  | nil =>
    obtain ⟨steps, rfl⟩ := Nat.exists_eq_add_one.2 hsteps
    exact .andThen (.member_end h isFirst) (.pure ..)
  | cons f fields ih =>
    obtain ⟨steps, rfl⟩ := Nat.exists_eq_add_one.2 (Nat.zero_lt_of_lt hsteps)
    obtain ⟨start, hmember, hfields⟩ := h
    obtain ⟨value, rest, hname, hx, hrest⟩ := moreFields_of_begins hfields
    obtain ⟨afterName, hfieldName, hcolon⟩ := fieldName hname
    rw [List.foldlM_cons, giveField, bind_assoc]
    refine .andThen hmember (.bind hfieldName fun name => ?_)
    refine .bind (hadd found name hcolon hx) fun found => ?_
    exact ih hrest (Nat.lt_of_succ_lt_succ hsteps) found

theorem fields (hadd : AddsAs add give) {fields : List (Option String × Written)}
    {s r : List Char} (h : MoreFields true s fields r) (hlength : fields.length ≤ s.length)
    (start : α) : Reads (Step.fields start add) s (fields.foldlM (giveField give) start) r :=
  .andThen (.get s) (.fieldsFrom hadd h (Nat.lt_succ_of_le hlength) start)

theorem addsAs_text :
    AddsAs (fun found name => do Step.colon; return found.insert name (← Step.text)) giveText := by
  intro found name s start r x hcolon hx
  exact .andThen (.colon hcolon) (.changed (.text hx) (found.insert name))

theorem textMap {s r : List Char} {w : Written} (h : Begins s w r) :
    Reads Step.textMap s w.asTextMap r := by
  have hrefused := refused_of_begins h
  refine .andThen (.next s) ?_
  split
  · rename_i rest hs
    obtain ⟨fields, rfl⟩ := h.exists_obj hs
    obtain ⟨rest', hs', hlength, hfields⟩ := begins_obj h
    obtain rfl : rest = rest' := List.tail_eq_of_cons_eq (hs.symm.trans hs')
    exact .andThen (.set _ _) (.fields addsAs_text hfields hlength SortedMap.empty)
  · rename_i hother
    have hmap : w.asTextMap = .error w.refused := by
      cases w with
      | obj fields =>
        obtain ⟨rest, hs, -⟩ := begins_obj h
        exact absurd hs (hother rest)
      | _ => rfl
    rw [hrefused, hmap]
    exact .fault ..

end Reads

/-! ## Arrays -/

/-- In an array a text goes on with items, as far as the closing bracket. -/
def MoreItems (isFirst : Bool) (s : List Char) (items : List Written) (r : List Char) : Prop :=
  match items with
  | [] => skipSpace s = ']' :: r
  | _ => ∃ start, Reads (member ']' isFirst) s (.ok true) (skipSpace start) ∧
    BeginsItems start items r

/-- An array begins with a bracket and goes on with its items. -/
theorem begins_arr {s r : List Char} {items : List Written} (h : Begins s (.arr items) r) :
    ∃ rest, skipSpace s = '[' :: rest ∧ MoreItems true rest items r := by
  cases h with
  | @noItems _ rest _ hs hrest => exact ⟨rest, hs, hrest⟩
  | @items _ rest _ _ hs hitems =>
    refine ⟨rest, hs, ?_⟩
    obtain ⟨c, inner, hrest, hc⟩ := hitems.head
    cases items with
    | nil => cases hitems
    | cons x items =>
      refine ⟨skipSpace rest, ?_, hitems⟩
      rw [skipSpace_skipSpace] at hrest ⊢
      exact .member_first hrest hc

/-- After an item the array goes on or ends. -/
theorem moreItems_of_begins {s r : List Char} {x : Written} {xs : List Written}
    (h : BeginsItems s (x :: xs) r) : ∃ rest, Begins s x rest ∧ MoreItems false rest xs r := by
  cases h with
  | @last _ rest _ _ hx hrest => exact ⟨rest, hx, hrest⟩
  | @more _ rest more _ _ _ hx hrest hxs =>
    refine ⟨rest, hx, ?_⟩
    obtain ⟨c, inner, hmore, hc⟩ := hxs.head
    cases xs with
    | nil => cases hxs
    | cons x' xs => exact ⟨more, .member_next hrest (by decide) hmore hc, hxs⟩

namespace Reads

/-- An item that is there. -/
theorem item {isFirst : Bool} {s r : List Char} {x : Written} {xs : List Written} {read : Step α}
    {give : Written → Except Fault α} (h : MoreItems isFirst s (x :: xs) r)
    (hread : ∀ {s r}, Begins s x r → Reads read s (give x) r) :
    ∃ rest, Reads (Step.item isFirst read) s (give x) rest ∧ MoreItems false rest xs r := by
  obtain ⟨start, hmember, hitems⟩ := h
  obtain ⟨rest, hx, hmore⟩ := moreItems_of_begins hitems
  exact ⟨rest, .andThen hmember (hread hx.skipped), hmore⟩

/-- An item that is missing. -/
theorem item_missing {isFirst : Bool} {s r : List Char} (h : MoreItems isFirst s [] r)
    (read : Step α) : Reads (Step.item isFirst read) s (.error .unwanted) r :=
  .andThen (.member_end h isFirst) (.fault ..)

/-- The end of an array, if no items are left. -/
theorem arrayEnd {s r : List Char} {items : List Written} (h : MoreItems false s items r) :
    Reads Step.arrayEnd s (if items.isEmpty then .ok () else .error .malformed) r := by
  refine .andThen (.next s) ?_
  cases items with
  | nil =>
    rw [show skipSpace s = ']' :: r from h]
    exact .set ..
  | cons x items =>
    obtain ⟨start, hmember, -⟩ := h
    split
    · rename_i rest hs
      -- at a closing bracket there is no further item
      have hend := member_end hs false
      rw [Reads, hmember] at hend
      cases hend
    · exact .fault ..

theorem textEnd {s : List Char} (h : skipSpace s = []) : Reads Step.textEnd s (.ok ()) [] := by
  refine .andThen (.next s) ?_
  rw [h]
  exact .pure ..

end Reads

end Step

end BuildYard.Json
