import BuildYard.Http.Submission
import BuildYard.Proofs.Json.Stepping
/-!
# Submissions as values

The body of a submission is read step by step, and the reading ends at the first fault. If the body is
JSON, what comes of it can be told from the value that it stands for.

* `Submission.ofWritten`: the submission that a value is, or the fault with the value.
* `read_eq_ofWritten`: it is what is read.
* `Submission.concealed`: a value with the values of its variables hidden.
* `ofWritten_concealed`: if they are texts, what is read is the submission without them.
-/

namespace BuildYard.Http.Submission

open Json (Begins Fault Stands Written)
open Json.Step (Reads AddsAs MoreFields MoreItems)
open Json.Written (asText asTextMap giveField giveText orNull)

/-! ## The submission that a value is -/

/-- What is given for the first time. -/
def firstGiven {α : Type} (before : Option α) (given : Except Fault α) : Except Fault α :=
  if before.isSome then .error .unwanted else given

/-- The draft with the value of one more field. -/
def Draft.give (d : Draft) (name : String) (x : Written) : Except Fault Draft :=
  if name = "service_id" then
    (firstGiven d.serviceId (asText x)).map fun t => { d with serviceId := some t }
  else if name = "job_id" then
    (firstGiven d.jobId (asText x)).map fun t => { d with jobId := some t }
  else if name = "env" then
    (firstGiven d.env (asTextMap x)).map fun env => { d with env := some env }
  else if name = "trigger_source" then
    (firstGiven d.triggerSource (orNull asText x)).map fun t => { d with triggerSource := some t }
  else .ok d

/-- The submission whose fields were given, if none of the ids is missing. -/
def Draft.finished (d : Draft) : Except Fault Submission :=
  match d.serviceId, d.jobId with
  | some serviceId, some jobId =>
    .ok { serviceId, jobId, env := d.env.getD .empty, triggerSource := d.triggerSource.join }
  | _, _ => .error .unwanted

/-- The submission that the fields of an object are. -/
def ofFields (fields : List (Option String × Written)) : Except Fault Submission :=
  fields.foldlM (giveField Draft.give) {} >>= Draft.finished

/-- What the first of the items gives, and the items behind it. -/
def nextItem {α : Type} (give : Written → Except Fault α) :
    List Written → Except Fault (α × List Written)
  | x :: items => (give x).map fun a => (a, items)
  | [] => .error .unwanted

theorem nextItem_cons_bind {α β : Type} (give : Written → Except Fault α) (x : Written)
    (items : List Written) (g : α × List Written → Except Fault β) :
    nextItem give (x :: items) >>= g = give x >>= fun a => g (a, items) := by
  rw [nextItem]
  cases give x <;> rfl

theorem nextItem_nil_bind {α β : Type} (give : Written → Except Fault α)
    (g : α × List Written → Except Fault β) : nextItem give [] >>= g = .error .unwanted := rfl

/-- The submission that the items of an array are. -/
def ofItems (items : List Written) : Except Fault Submission := do
  let (serviceId, items) ← nextItem asText items
  let (jobId, items) ← nextItem asText items
  let (env, items) ← nextItem asTextMap items
  let (triggerSource, items) ← nextItem (orNull asText) items
  if items.isEmpty then return { serviceId, jobId, env, triggerSource } else throw .malformed

/-- The submission that a value is, or the fault with the value. -/
def ofWritten : Written → Except Fault Submission
  | .obj fields => ofFields fields
  | .arr items => ofItems items
  | w => .error w.refused

/-! ## It is what is read -/

theorem reads_once {α : Type} (before : Option α) {read : Json.Step α}
    {given : Except Fault α} {s start r : List Char} (hcolon : Json.skipSpace s = ':' :: start)
    (hread : Reads read start given r) :
    Reads (once before read) s (firstGiven before given) r := by
  unfold once firstGiven
  by_cases hbefore : before.isSome = true
  · rw [if_pos hbefore, if_pos hbefore]
    exact .fault ..
  · rw [if_neg hbefore, if_neg hbefore]
    exact .andThen (.colon hcolon) hread

theorem addsAs_give : AddsAs Draft.add Draft.give := by
  intro d name s start r x hcolon hx
  unfold Draft.add Draft.give
  split
  · exact .changed (reads_once d.serviceId hcolon (.text hx)) _
  split
  · exact .changed (reads_once d.jobId hcolon (.text hx)) _
  split
  · exact .changed (reads_once d.env hcolon (.textMap hx)) _
  split
  · exact .changed (reads_once d.triggerSource hcolon (.textOrNull hx)) _
  · exact .andThen (.colon hcolon) (.andThen (.anything hx) (.pure ..))

theorem reads_finish (d : Draft) (s : List Char) : Reads d.finish s d.finished s := by
  obtain ⟨_ | serviceId, _ | jobId, env, triggerSource⟩ := d
  · exact .fault ..
  · exact .fault ..
  · exact .fault ..
  · exact .pure ..

theorem reads_ofObject {s r : List Char} {fields : List (Option String × Written)}
    (h : MoreFields true s fields r) (hlength : fields.length ≤ s.length) :
    Reads ofObject s (ofFields fields) r :=
  .bind (.fields addsAs_give h hlength _) fun d => reads_finish d r

theorem reads_item {α β : Type} {isFirst : Bool} {s r : List Char} {items : List Written}
    {read : Json.Step α} {give : Written → Except Fault α} {f : α → Json.Step β}
    {g : α × List Written → Except Fault β} (h : MoreItems isFirst s items r)
    (hread : ∀ {s r x}, Begins s x r → Reads read s (give x) r)
    (hf : ∀ a {s items}, MoreItems false s items r → Reads (f a) s (g (a, items)) r) :
    Reads (Json.Step.item isFirst read >>= f) s (nextItem give items >>= g) r := by
  cases items with
  | nil => exact .failing (.item_missing h read) f
  | cons x items =>
    obtain ⟨rest, hitem, hmore⟩ := Reads.item h hread
    rw [nextItem_cons_bind]
    exact .bind hitem fun a => hf a hmore

theorem reads_ofArray {s r : List Char} {items : List Written} (h : MoreItems true s items r) :
    Reads ofArray s (ofItems items) r := by
  refine reads_item h .text fun serviceId _ _ h => ?_
  refine reads_item h .text fun jobId _ _ h => ?_
  refine reads_item h .textMap fun env _ _ h => ?_
  refine reads_item h .textOrNull fun triggerSource _ items h => ?_
  cases items with
  | nil => exact .andThen (.arrayEnd h) (.pure ..)
  | cons x items => exact .failing (.arrayEnd h) _

/-- **A body that is JSON is read as the submission that its value is.** -/
theorem read_eq_ofWritten {body : String} {w : Written} (h : Stands body w) :
    read body = ofWritten w := by
  obtain ⟨after, hbegins, hafter⟩ := h
  have hrefused := Json.Step.Reads.refused_of_begins hbegins
  have hend : ∀ submission : Submission,
      Reads (do Json.Step.textEnd; return submission) after (.ok submission) [] :=
    fun submission => .andThen (.textEnd hafter) (.pure ..)
  have hwhole : Reads whole body.toList (ofWritten w >>= .ok) [] := by
    refine .andThen (.next _) ?_
    split
    · rename_i rest hs
      obtain ⟨fields, rfl⟩ := hbegins.exists_obj hs
      obtain ⟨rest', hs', hlength, hfields⟩ := Json.Step.begins_obj hbegins
      obtain rfl : rest = rest' := List.tail_eq_of_cons_eq (hs.symm.trans hs')
      exact .andThen (.set _ _) (.bind (reads_ofObject hfields hlength) hend)
    · rename_i rest hs
      obtain ⟨items, rfl⟩ := hbegins.exists_arr hs
      obtain ⟨rest', hs', hitems⟩ := Json.Step.begins_arr hbegins
      obtain rfl : rest = rest' := List.tail_eq_of_cons_eq (hs.symm.trans hs')
      exact .andThen (.set _ _) (.bind (reads_ofArray hitems) hend)
    · rename_i hobject harray
      rw [hrefused]
      cases w with
      | obj fields =>
        obtain ⟨rest, hs, -⟩ := Json.Step.begins_obj hbegins
        exact absurd hs (hobject rest)
      | arr items =>
        obtain ⟨rest, hs, -⟩ := Json.Step.begins_arr hbegins
        exact absurd hs (harray rest)
      | _ => exact .failing (.fault ..) _
  rw [read, hwhole.run'_eq]
  cases ofWritten w <;> rfl

/-! ## The values of variables -/

/-- A text with nothing in it in the place of a text. -/
def hideText : Written → Written
  | .text (some _) => .text (some "")
  | w => w

/-- A value with the values of its fields hidden. -/
def hideValues (hide : Written → Written) : Written → Written
  | .obj fields => .obj (fields.map fun f => (f.1, hide f.2))
  | w => w

/-- A field of a submission, the values of the variables hidden. -/
def concealedField (hide : Written → Written) (f : Option String × Written) :
    Option String × Written :=
  (f.1, if f.1 = some "env" then hideValues hide f.2 else f.2)

/-- The value of a submission, the values of its variables hidden. -/
def concealed (hide : Written → Written) : Written → Written
  | .obj fields => .obj (fields.map (concealedField hide))
  | .arr (serviceId :: jobId :: env :: others) =>
    .arr (serviceId :: jobId :: hideValues hide env :: others)
  | w => w

/-- Variables without their values. -/
def unvalued (env : SortedMap String String) : SortedMap String String := env.map fun _ => ""

/-- The submission without the values of its variables. -/
def withoutValues (s : Submission) : Submission := { s with env := unvalued s.env }

/-- The draft without the values of the variables. -/
def Draft.withoutValues (d : Draft) : Draft := { d with env := d.env.map unvalued }

/-- Folds that agree at each step up to a change of what is folded. -/
theorem foldlM_map_comm {α β : Type} (step : α → β → Except Fault α) (change : α → α)
    (conceal : β → β) (h : ∀ a b, step (change a) (conceal b) = (step a b).map change) (l : List β)
    (a : α) : (l.map conceal).foldlM step (change a) = (l.foldlM step a).map change := by
  induction l generalizing a with
  | nil => rfl
  | cons b l ih =>
    rw [List.map_cons, List.foldlM_cons, List.foldlM_cons, h]
    cases step a b with
    | error e => rfl
    | ok a => exact ih a

theorem asText_hideText (x : Written) : asText (hideText x) = (asText x).map fun _ => "" := by
  cases x with
  | text t => cases t <;> rfl
  | _ => rfl

theorem giveText_hideText (found : SortedMap String String) (f : Option String × Written) :
    giveField giveText (unvalued found) (f.1, hideText f.2) =
      (giveField giveText found f).map unvalued := by
  obtain ⟨_ | name, x⟩ := f
  · rfl
  · show (asText (hideText x)).map _ = ((asText x).map _).map unvalued
    rw [asText_hideText]
    cases asText x with
    | error e => rfl
    | ok t => exact congrArg Except.ok (SortedMap.map_insert ..).symm

theorem asTextMap_hideValues (x : Written) :
    asTextMap (hideValues hideText x) = (asTextMap x).map unvalued := by
  cases x with
  | obj fields => exact foldlM_map_comm _ unvalued _ giveText_hideText fields SortedMap.empty
  | text t => cases t <;> rfl
  | _ => rfl

theorem give_hideValues (d : Draft) (x : Written) :
    d.withoutValues.give "env" (hideValues hideText x) = (d.give "env" x).map Draft.withoutValues := by
  obtain ⟨serviceId, jobId, env, triggerSource⟩ := d
  show (firstGiven (env.map unvalued) (asTextMap (hideValues hideText x))).map _ =
    ((firstGiven env (asTextMap x)).map _).map _
  rw [asTextMap_hideValues]
  cases env <;> cases asTextMap x <;> rfl

theorem map_withoutValues {α : Type} (given : Except Fault α) (put : α → Draft) :
    (given.map put).map Draft.withoutValues = given.map fun a => (put a).withoutValues := by
  cases given <;> rfl

theorem give_withoutValues {name : String} (hname : name ≠ "env") (d : Draft) (x : Written) :
    d.withoutValues.give name x = (d.give name x).map Draft.withoutValues := by
  simp only [Draft.give, if_neg hname]
  split
  · rw [map_withoutValues]
    rfl
  split
  · rw [map_withoutValues]
    rfl
  split
  · rw [map_withoutValues]
    rfl
  · rfl

theorem give_concealedField (d : Draft) (f : Option String × Written) :
    giveField Draft.give d.withoutValues (concealedField hideText f) =
      (giveField Draft.give d f).map Draft.withoutValues := by
  obtain ⟨_ | name, x⟩ := f
  · rfl
  · show d.withoutValues.give name (concealedField hideText (name, x)).2 = _
    by_cases henv : name = "env"
    · subst henv
      exact give_hideValues d x
    · rw [concealedField, if_neg fun h => henv (Option.some.inj h)]
      exact give_withoutValues henv d x

theorem finished_withoutValues (d : Draft) :
    d.withoutValues.finished = d.finished.map withoutValues := by
  obtain ⟨_ | serviceId, _ | jobId, _ | env, triggerSource⟩ := d <;> rfl

theorem ofFields_concealed (fields : List (Option String × Written)) :
    ofFields (fields.map (concealedField hideText)) = (ofFields fields).map withoutValues := by
  have hfold := foldlM_map_comm (giveField Draft.give) Draft.withoutValues
    (concealedField hideText) give_concealedField fields {}
  rw [show ({} : Draft).withoutValues = {} from rfl] at hfold
  rw [ofFields, ofFields, hfold]
  cases fields.foldlM (giveField Draft.give) {} with
  | error e => rfl
  | ok d => exact finished_withoutValues d

theorem ofItems_concealed (serviceId jobId env : Written) (others : List Written) :
    ofItems (serviceId :: jobId :: hideValues hideText env :: others) =
      (ofItems (serviceId :: jobId :: env :: others)).map withoutValues := by
  simp only [ofItems, nextItem_cons_bind, asTextMap_hideValues]
  cases asText serviceId with
  | error e => rfl
  | ok serviceId =>
    cases asText jobId with
    | error e => rfl
    | ok jobId =>
      cases asTextMap env with
      | error e => rfl
      | ok env =>
        show (nextItem _ others >>= _) = (nextItem _ others >>= _).map _
        cases nextItem (orNull asText) others with
        | error e => rfl
        | ok last =>
          obtain ⟨triggerSource, _ | ⟨x, items⟩⟩ := last
          · rfl
          · rfl

/-- Without an item for the variables there is nothing to hide. -/
theorem ofItems_short (serviceId : Written) (items : List Written) (hitems : items.length ≤ 1) :
    ofItems (serviceId :: items) = (ofItems (serviceId :: items)).map withoutValues := by
  simp only [ofItems, nextItem_cons_bind]
  cases asText serviceId with
  | error e => rfl
  | ok serviceId =>
    rcases items with _ | ⟨jobId, _ | ⟨x, items⟩⟩
    · rfl
    · simp only [nextItem_cons_bind, nextItem_nil_bind]
      cases asText jobId <;> rfl
    · simp at hitems

/-- **What is read without the values of the variables** is the submission without them. -/
theorem ofWritten_concealed (w : Written) :
    ofWritten (concealed hideText w) = (ofWritten w).map withoutValues := by
  cases w with
  | obj fields => exact ofFields_concealed fields
  | arr items =>
    rcases items with _ | ⟨serviceId, _ | ⟨jobId, _ | ⟨env, others⟩⟩⟩
    · rfl
    · exact ofItems_short serviceId [] (Nat.zero_le 1)
    · exact ofItems_short serviceId [jobId] (Nat.le_refl 1)
    · exact ofItems_concealed serviceId jobId env others
  | _ => rfl

end BuildYard.Http.Submission
