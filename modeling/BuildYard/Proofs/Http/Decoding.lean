import BuildYard.Http.Answer
import BuildYard.Proofs.Http.Submissions
import BuildYard.Proofs.Json.Acceptance
/-!
# Bodies that bring a submission

Which bodies are submissions can be said of the JSON that they are, without reading them: the ids are
given once as texts, the variables and the source of the trigger are given once or not at all, and the
other fields do not count.

* `Describes`: a value is a submission. `ofWritten_eq_ok_iff`: it is, where it is read as one.
* `stands_of_read`: what is read as a submission is JSON.
* `read_eq_ok_iff`: a body is read as a submission exactly where it is JSON that describes it.
* `submissionOf_eq_ok_iff`: which requests bring a submission.
-/

namespace BuildYard.Http

open Json (Begins Fault Stands Written)
open Json.Step (Accepts AcceptsField bind_eq_ok pure_eq_ok set_eq_ok)
open Json.Written (asText asTextMap giveField giveText orNull)

/-! ## Results that are good -/

theorem map_eq_ok_iff {ε α β : Type} {x : Except ε α} {f : α → β} {b : β} :
    x.map f = .ok b ↔ ∃ a, x = .ok a ∧ f a = b := by
  cases x <;> simp [Except.map]

namespace Submission

/-! ## Values of one kind -/

/-- The value is an object of texts, and these are the texts by their names; of two with one name the
later counts. -/
def IsTextMap (x : Written) (texts : SortedMap String String) : Prop :=
  ∃ entries : List (String × String),
    x = .obj (entries.map fun e => (some e.1, .text (some e.2))) ∧ texts = SortedMap.ofList entries

/-- The value is `null`, or the text. -/
def IsTextOrNull (x : Written) (t : Option String) : Prop :=
  (x = .null ∧ t = none) ∨ ∃ text, x = .text (some text) ∧ t = some text

theorem asText_eq_ok_iff {x : Written} {t : String} : asText x = .ok t ↔ x = .text (some t) := by
  cases x with
  | text t' => cases t' <;> simp [asText]
  | _ => simp [asText]

theorem orNull_eq_ok_iff {x : Written} {t : Option String} :
    orNull asText x = .ok t ↔ IsTextOrNull x t := by
  cases x with
  | null => simp [orNull, IsTextOrNull, eq_comm (a := t)]
  | _ => simp [orNull, IsTextOrNull, map_eq_ok_iff, asText_eq_ok_iff, eq_comm (a := t)]

theorem foldlM_giveText_eq_ok_iff {fields : List (Option String × Written)}
    {found texts : SortedMap String String} :
    fields.foldlM (giveField giveText) found = .ok texts ↔
      ∃ entries : List (String × String),
        fields = entries.map (fun e => (some e.1, .text (some e.2))) ∧
          texts = entries.foldl (fun m e => m.insert e.1 e.2) found := by
  induction fields generalizing found with
  | nil =>
    constructor
    · intro h
      cases h
      exact ⟨[], rfl, rfl⟩
    · rintro ⟨_ | ⟨e, entries⟩, hfields, rfl⟩
      · rfl
      · cases hfields
  | cons f fields ih =>
    rw [List.foldlM_cons, bind_eq_ok_iff]
    constructor
    · rintro ⟨next, hgive, hrest⟩
      obtain ⟨_ | name, x⟩ := f
      · cases hgive
      · obtain ⟨t, ht, rfl⟩ := map_eq_ok_iff.1 hgive
        obtain ⟨entries, rfl, rfl⟩ := ih.1 hrest
        obtain rfl : x = .text (some t) := asText_eq_ok_iff.1 ht
        exact ⟨(name, t) :: entries, rfl, rfl⟩
    · rintro ⟨_ | ⟨⟨name, t⟩, entries⟩, hfields, rfl⟩
      · cases hfields
      · cases hfields
        exact ⟨found.insert name t, rfl, ih.2 ⟨entries, rfl, rfl⟩⟩

theorem asTextMap_eq_ok_iff {x : Written} {texts : SortedMap String String} :
    asTextMap x = .ok texts ↔ IsTextMap x texts := by
  cases x with
  | obj fields =>
    simp only [asTextMap, foldlM_giveText_eq_ok_iff, IsTextMap, Written.obj.injEq]
    rfl
  | _ => simp [asTextMap, IsTextMap]

/-! ## Fields by their names -/

/-- The values that are given under a name, in their order. -/
def given (fields : List (Option String × Written)) (name : String) : List Written :=
  (fields.filter fun f => f.1 = some name).map (·.2)

theorem given_cons_self (name : String) (x : Written) (fields : List (Option String × Written)) :
    given ((some name, x) :: fields) name = x :: given fields name := by
  simp [given]

theorem given_cons_of_ne {name name' : String} (h : name ≠ name') (x : Written)
    (fields : List (Option String × Written)) :
    given ((some name, x) :: fields) name' = given fields name' := by
  simp [given, h]

/-- What is known of a field when these values of it have been read, one after the other. -/
def Settled {α : Type} (read : Written → Except Fault α) (before : Option α) (xs : List Written)
    (after : Option α) : Prop :=
  match xs with
  | [] => after = before
  | [x] => before = none ∧ ∃ a, read x = .ok a ∧ after = some a
  | _ => False

theorem settled_cons {α : Type} {read : Written → Except Fault α} {before after : Option α}
    {x : Written} {xs : List Written} :
    Settled read before (x :: xs) after ↔
      ∃ a, firstGiven before (read x) = .ok a ∧ Settled read (some a) xs after := by
  have hfirst : ∀ a, firstGiven before (read x) = .ok a ↔ before = none ∧ read x = .ok a := by
    intro a
    cases before <;> simp [firstGiven]
  simp only [hfirst, and_assoc, exists_and_left]
  rcases xs with _ | ⟨y, _ | ⟨z, xs⟩⟩ <;> simp [Settled]

/-- A draft becomes another one by these fields: their names can be spelled, and each of the fields that
are known is settled. -/
def Fills (fields : List (Option String × Written)) (d d' : Draft) : Prop :=
  (∀ f ∈ fields, f.1.isSome) ∧
    Settled asText d.serviceId (given fields "service_id") d'.serviceId ∧
    Settled asText d.jobId (given fields "job_id") d'.jobId ∧
    Settled asTextMap d.env (given fields "env") d'.env ∧
    Settled (orNull asText) d.triggerSource (given fields "trigger_source") d'.triggerSource

/-- The first field goes into the draft, and the others fill what comes of it. -/
theorem fills_cons {name : String} {x : Written} {fields : List (Option String × Written)}
    {d d' : Draft} :
    Fills ((some name, x) :: fields) d d' ↔
      ∃ next, d.give name x = .ok next ∧ Fills fields next d' := by
  have hnamed : (∀ f ∈ (some name, x) :: fields, f.1.isSome) ↔ ∀ f ∈ fields, f.1.isSome := by
    simp
  rw [Fills, hnamed]
  unfold Fills Draft.give
  by_cases hknown : name ∈ ["service_id", "job_id", "env", "trigger_source"]
  · -- a known field is read if it was not before; the other fields stay as they are
    simp only [List.mem_cons, List.not_mem_nil, or_false] at hknown
    rcases hknown with rfl | rfl | rfl | rfl
    all_goals
      simp only [String.reduceEq, if_true, if_false, map_eq_ok_iff, given_cons_self, settled_cons,
        given_cons_of_ne, ne_eq, not_false_eq_true]
      grind
  · simp only [List.mem_cons, List.not_mem_nil, or_false, not_or] at hknown
    obtain ⟨hservice, hjob, henv, htrigger⟩ := hknown
    simp only [if_neg hservice, if_neg hjob, if_neg henv, if_neg htrigger,
      given_cons_of_ne hservice, given_cons_of_ne hjob, given_cons_of_ne henv,
      given_cons_of_ne htrigger, Except.ok.injEq, exists_eq_left']

theorem foldlM_give_eq_ok_iff {fields : List (Option String × Written)} {d d' : Draft} :
    fields.foldlM (giveField Draft.give) d = .ok d' ↔ Fills fields d d' := by
  induction fields generalizing d with
  | nil =>
    constructor
    · intro h
      cases h
      exact ⟨nofun, rfl, rfl, rfl, rfl⟩
    · rintro ⟨-, hservice, hjob, henv, htrigger⟩
      cases d'
      cases hservice
      cases hjob
      cases henv
      cases htrigger
      rfl
  | cons f fields ih =>
    obtain ⟨_ | name, x⟩ := f
    · have hno : ¬ Fills ((none, x) :: fields) d d' := fun h => by simpa using h.1 _ List.mem_cons_self
      simp only [hno, iff_false]
      exact nofun
    · rw [fills_cons, List.foldlM_cons, bind_eq_ok_iff]
      simp only [ih]
      rfl

/-! ## Values that are submissions -/

/-- A field is not given, and then something holds, or it is given once, and then something holds of
its value. -/
def AtMostOnce (xs : List Written) (absent : Prop) (present : Written → Prop) : Prop :=
  match xs with
  | [] => absent
  | [x] => present x
  | _ => False

/-- The fields of an object are a submission: the ids are given once, as texts; the variables are
given at most once, as an object of texts; the source of the trigger is given at most once, as a text
or `null`. The names of all fields can be spelled, and the other fields hold anything. -/
structure DescribesFields (fields : List (Option String × Written)) (s : Submission) : Prop where
  named : ∀ f ∈ fields, f.1.isSome
  serviceId : given fields "service_id" = [.text (some s.serviceId)]
  jobId : given fields "job_id" = [.text (some s.jobId)]
  env : AtMostOnce (given fields "env") (s.env = .empty) (IsTextMap · s.env)
  triggerSource :
    AtMostOnce (given fields "trigger_source") (s.triggerSource = none) (IsTextOrNull · s.triggerSource)

/-- A value is a submission: an object with its fields, or an array of the four values in their
order. -/
inductive Describes : Written → Submission → Prop where
  | object {fields : List (Option String × Written)} {s : Submission}
    (hfields : DescribesFields fields s) : Describes (.obj fields) s
  | array {env triggerSource : Written} {s : Submission} (henv : IsTextMap env s.env)
    (htrigger : IsTextOrNull triggerSource s.triggerSource) :
    Describes (.arr [.text (some s.serviceId), .text (some s.jobId), env, triggerSource]) s

theorem settled_text_iff {xs : List Written} {t : String} :
    Settled asText none xs (some t) ↔ xs = [.text (some t)] := by
  rcases xs with _ | ⟨x, _ | ⟨y, xs⟩⟩ <;> simp [Settled, asText_eq_ok_iff]

/-- What comes of a field that nothing was known of. -/
theorem settled_none_iff {α β : Type} {read : Written → Except Fault α} {xs : List Written}
    {finish : Option α → β} {b : β} :
    (∃ after, Settled read none xs after ∧ finish after = b) ↔
      AtMostOnce xs (finish none = b) fun x => ∃ a, read x = .ok a ∧ finish (some a) = b := by
  rcases xs with _ | ⟨x, _ | ⟨y, xs⟩⟩
  · simp [Settled, AtMostOnce]
  · constructor
    · rintro ⟨_, ⟨-, a, ha, rfl⟩, hb⟩
      exact ⟨a, ha, hb⟩
    · rintro ⟨a, ha, hb⟩
      exact ⟨some a, ⟨rfl, a, ha, rfl⟩, hb⟩
  · simp [Settled, AtMostOnce]

theorem settled_textMap_iff {xs : List Written} {texts : SortedMap String String} :
    (∃ after, Settled asTextMap none xs after ∧ after.getD .empty = texts) ↔
      AtMostOnce xs (texts = .empty) (IsTextMap · texts) := by
  rw [settled_none_iff]
  simp [asTextMap_eq_ok_iff, eq_comm (a := texts)]

theorem settled_textOrNull_iff {xs : List Written} {t : Option String} :
    (∃ after, Settled (orNull asText) none xs after ∧ after.join = t) ↔
      AtMostOnce xs (t = none) (IsTextOrNull · t) := by
  rw [settled_none_iff]
  simp [orNull_eq_ok_iff, eq_comm (a := t)]

theorem finished_eq_ok_iff {d : Draft} {s : Submission} :
    d.finished = .ok s ↔ d.serviceId = some s.serviceId ∧ d.jobId = some s.jobId ∧
      d.env.getD .empty = s.env ∧ d.triggerSource.join = s.triggerSource := by
  obtain ⟨_ | serviceId, _ | jobId, env, triggerSource⟩ := d <;> cases s <;> simp [Draft.finished]

theorem ofFields_eq_ok_iff {fields : List (Option String × Written)} {s : Submission} :
    ofFields fields = .ok s ↔ DescribesFields fields s := by
  rw [ofFields, bind_eq_ok_iff]
  simp only [foldlM_give_eq_ok_iff, finished_eq_ok_iff]
  constructor
  · rintro ⟨d, ⟨hnamed, hservice, hjob, henv, htrigger⟩, hserviceId, hjobId, hvariables, hsource⟩
    rw [hserviceId] at hservice
    rw [hjobId] at hjob
    exact ⟨hnamed, settled_text_iff.1 hservice, settled_text_iff.1 hjob,
      settled_textMap_iff.1 ⟨d.env, henv, hvariables⟩,
      settled_textOrNull_iff.1 ⟨d.triggerSource, htrigger, hsource⟩⟩
  · rintro ⟨hnamed, hservice, hjob, henv, htrigger⟩
    obtain ⟨env, henv, hvariables⟩ := settled_textMap_iff.2 henv
    obtain ⟨triggerSource, htrigger, hsource⟩ := settled_textOrNull_iff.2 htrigger
    exact ⟨⟨some s.serviceId, some s.jobId, env, triggerSource⟩,
      ⟨hnamed, settled_text_iff.2 hservice, settled_text_iff.2 hjob, henv, htrigger⟩, rfl, rfl,
      hvariables, hsource⟩

theorem nextItem_eq_ok_iff {α : Type} {give : Written → Except Fault α}
    {items rest : List Written} {a : α} :
    nextItem give items = .ok (a, rest) ↔ ∃ x, items = x :: rest ∧ give x = .ok a := by
  cases items with
  | nil => simp [nextItem]
  | cons x items =>
    rw [nextItem, map_eq_ok_iff]
    constructor
    · rintro ⟨a, ha, h⟩
      cases h
      exact ⟨x, rfl, ha⟩
    · rintro ⟨x, h, ha⟩
      cases h
      exact ⟨a, ha, rfl⟩

theorem ofItems_eq_ok_iff {items : List Written} {s : Submission} :
    ofItems items = .ok s ↔ ∃ env triggerSource,
      items = [.text (some s.serviceId), .text (some s.jobId), env, triggerSource] ∧
        IsTextMap env s.env ∧ IsTextOrNull triggerSource s.triggerSource := by
  constructor
  · intro h
    obtain ⟨⟨serviceId, _⟩, hservice, h⟩ := bind_eq_ok_iff.1 h
    obtain ⟨⟨jobId, _⟩, hjob, h⟩ := bind_eq_ok_iff.1 h
    obtain ⟨⟨env, _⟩, henv, h⟩ := bind_eq_ok_iff.1 h
    obtain ⟨⟨triggerSource, rest⟩, htrigger, hlast⟩ := bind_eq_ok_iff.1 h
    obtain ⟨x, rfl, hx⟩ := nextItem_eq_ok_iff.1 hservice
    obtain ⟨x', rfl, hx'⟩ := nextItem_eq_ok_iff.1 hjob
    obtain ⟨envItem, rfl, henvItem⟩ := nextItem_eq_ok_iff.1 henv
    obtain ⟨source, rfl, hsource⟩ := nextItem_eq_ok_iff.1 htrigger
    dsimp only at hlast
    split at hlast
    · rename_i hempty
      cases hlast
      rw [asText_eq_ok_iff.1 hx, asText_eq_ok_iff.1 hx', List.isEmpty_iff.1 hempty]
      exact ⟨envItem, source, rfl, asTextMap_eq_ok_iff.1 henvItem, orNull_eq_ok_iff.1 hsource⟩
    · cases hlast
  · rintro ⟨env, triggerSource, rfl, henv, htrigger⟩
    simp only [ofItems, nextItem_cons_bind, asText_eq_ok_iff.2 rfl, asTextMap_eq_ok_iff.2 henv,
      orNull_eq_ok_iff.2 htrigger]
    rfl

/-- A value is read as a submission exactly where it describes it. -/
theorem ofWritten_eq_ok_iff {w : Written} {s : Submission} :
    ofWritten w = .ok s ↔ Describes w s := by
  cases w with
  | obj fields =>
    rw [ofWritten, ofFields_eq_ok_iff]
    exact ⟨.object, fun h => by cases h; assumption⟩
  | arr items =>
    rw [ofWritten, ofItems_eq_ok_iff]
    constructor
    · rintro ⟨env, triggerSource, rfl, henv, htrigger⟩
      exact .array henv htrigger
    · rintro (_ | ⟨henv, htrigger⟩)
      exact ⟨_, _, rfl, henv, htrigger⟩
  | _ => exact ⟨nofun, nofun⟩

/-! ## What is read is JSON -/

/-- A field that was not given before is a colon and a value, whatever comes of it. -/
theorem once_eq_ok {α : Type} {read : Json.Step α} (hread : Accepts read) {before : Option α}
    {s r : List Char} {a : α} (h : (once before read).run s = .ok (a, r)) :
    ∃ start x, Json.skipSpace s = ':' :: start ∧ Begins start x r := by
  unfold once at h
  split at h
  · obtain ⟨_, _, hfault, -⟩ := bind_eq_ok h
    cases hfault
  · obtain ⟨_, start, hcolon, h⟩ := bind_eq_ok h
    obtain ⟨x, hx⟩ := hread h
    exact ⟨start, x, Json.Step.colon_eq_ok hcolon, hx⟩

theorem acceptsField_add : AcceptsField Draft.add := by
  intro d name s r d' h
  have hgiven : ∀ {α : Type} {read : Json.Step α} {before : Option α} {put : α → Draft},
      Accepts read → (do return put (← once before read) : Json.Step Draft).run s = .ok (d', r) →
        ∃ start x, Json.skipSpace s = ':' :: start ∧ Begins start x r := by
    intro α read before put hread h
    obtain ⟨a, _, honce, h⟩ := bind_eq_ok h
    obtain ⟨-, rfl⟩ := pure_eq_ok h
    exact once_eq_ok hread honce
  unfold Draft.add at h
  split at h
  · exact hgiven Json.Step.accepts_text h
  split at h
  · exact hgiven Json.Step.accepts_text h
  split at h
  · exact hgiven Json.Step.accepts_textMap h
  split at h
  · exact hgiven Json.Step.accepts_textOrNull h
  · obtain ⟨_, start, hcolon, h⟩ := bind_eq_ok h
    obtain ⟨_, _, hskip, h⟩ := bind_eq_ok h
    obtain ⟨-, rfl⟩ := pure_eq_ok h
    obtain ⟨x, hx⟩ := Json.Step.accepts_anything hskip
    exact ⟨start, x, Json.Step.colon_eq_ok hcolon, hx⟩

theorem moreFields_of_ofObject {s r : List Char} {submission : Submission}
    (h : ofObject.run s = .ok (submission, r)) :
    ∃ fields, Json.Step.MoreFields true s fields r := by
  obtain ⟨d, _, hfields, h⟩ := bind_eq_ok h
  unfold Draft.finish at h
  split at h
  · obtain ⟨-, rfl⟩ := pure_eq_ok h
    exact Json.Step.moreFields_of_fields acceptsField_add hfields
  · cases h

theorem moreItems_of_ofArray {s r : List Char} {submission : Submission}
    (h : ofArray.run s = .ok (submission, r)) : ∃ items, Json.Step.MoreItems true s items r := by
  obtain ⟨serviceId, _, hservice, h⟩ := bind_eq_ok h
  obtain ⟨jobId, _, hjob, h⟩ := bind_eq_ok h
  obtain ⟨env, _, henv, h⟩ := bind_eq_ok h
  obtain ⟨triggerSource, _, htrigger, h⟩ := bind_eq_ok h
  obtain ⟨_, _, hend, h⟩ := bind_eq_ok h
  obtain ⟨-, rfl⟩ := pure_eq_ok h
  obtain ⟨source, hitems⟩ := Json.Step.moreItems_of_item Json.Step.accepts_textOrNull htrigger
    (Json.Step.arrayEnd_eq_ok hend)
  obtain ⟨envItem, hitems⟩ := Json.Step.moreItems_of_item Json.Step.accepts_textMap henv hitems
  obtain ⟨second, hitems⟩ := Json.Step.moreItems_of_item Json.Step.accepts_text hjob hitems
  obtain ⟨first, hitems⟩ := Json.Step.moreItems_of_item Json.Step.accepts_text hservice hitems
  exact ⟨_, hitems⟩

theorem begins_of_whole {s r : List Char} {submission : Submission}
    (h : whole.run s = .ok (submission, r)) :
    ∃ w after, Begins s w after ∧ Json.skipSpace after = [] := by
  have hend : ∀ {submission submission' : Submission} {s r},
      (do Json.Step.textEnd; return submission : Json.Step Submission).run s =
        .ok (submission', r) → Json.skipSpace s = [] := by
    intro submission submission' s r h
    obtain ⟨_, _, hend, -⟩ := bind_eq_ok h
    exact Json.Step.textEnd_eq_ok hend
  obtain ⟨_, _, hnext, h⟩ := bind_eq_ok h
  obtain ⟨rfl, rfl⟩ := Json.Step.next_eq_ok hnext
  dsimp only at h
  split at h
  · rename_i rest hs
    obtain ⟨_, _, hset, h⟩ := bind_eq_ok h
    obtain rfl := set_eq_ok hset
    obtain ⟨_, after, hobject, h⟩ := bind_eq_ok h
    obtain ⟨fields, hfields⟩ := moreFields_of_ofObject hobject
    exact ⟨_, after, Json.Step.begins_obj_of_moreFields hs hfields, hend h⟩
  · rename_i rest hs
    obtain ⟨_, _, hset, h⟩ := bind_eq_ok h
    obtain rfl := set_eq_ok hset
    obtain ⟨_, after, harray, h⟩ := bind_eq_ok h
    obtain ⟨items, hitems⟩ := moreItems_of_ofArray harray
    exact ⟨_, after, Json.Step.begins_arr_of_moreItems hs hitems, hend h⟩
  · obtain ⟨_, _, hfault, -⟩ := bind_eq_ok h
    cases hfault

theorem stands_of_read {body : String} {submission : Submission}
    (h : read body = .ok submission) : ∃ w, Stands body w := by
  rw [read, StateT.run'_eq] at h
  obtain ⟨⟨_, r⟩, hrun, rfl⟩ := map_eq_ok_iff.1 h
  obtain ⟨w, after, hw, hafter⟩ := begins_of_whole hrun
  exact ⟨w, after, hw, hafter⟩

/-- **A body is read as a submission exactly where it is JSON that describes it.** -/
theorem read_eq_ok_iff {body : String} {submission : Submission} :
    read body = .ok submission ↔ ∃ w, Stands body w ∧ Describes w submission := by
  constructor
  · intro h
    obtain ⟨w, hw⟩ := stands_of_read h
    exact ⟨w, hw, ofWritten_eq_ok_iff.1 ((read_eq_ofWritten hw).symm.trans h)⟩
  · rintro ⟨w, hw, hdescribes⟩
    exact (read_eq_ofWritten hw).trans (ofWritten_eq_ok_iff.2 hdescribes)

end Submission

/-! ## Requests that bring a submission -/

/-- A request brings a submission: it announces JSON, and its body is short enough and is JSON that
describes the submission. -/
structure Brings (request : Request) (submission : Submission) : Prop where
  isJson : ∃ text type, request.contentType = some text ∧ MediaType.of? text.toList = some type ∧
    type.isJson = true
  isShort : request.body.utf8ByteSize ≤ maxBodyOctets
  describes : ∃ w, Stands request.body w ∧ Submission.Describes w submission

theorem submissionOf_eq_ok_iff {request : Request} {submission : Submission} :
    submissionOf request = .ok submission ↔ Brings request submission := by
  have hjson : (request.contentType.bind (MediaType.of? ·.toList)).any (·.isJson) = true ↔
      ∃ text type, request.contentType = some text ∧ MediaType.of? text.toList = some type ∧
        type.isJson = true := by
    rw [Option.any_eq_true]
    constructor
    · rintro ⟨type, htype, hannounced⟩
      obtain ⟨text, htext, htype⟩ := Option.bind_eq_some_iff.1 htype
      exact ⟨text, type, htext, htype, hannounced⟩
    · rintro ⟨text, type, htext, htype, hannounced⟩
      exact ⟨type, Option.bind_eq_some_iff.2 ⟨text, htext, htype⟩, hannounced⟩
  have hread : (Submission.read request.body).mapError Submission.statusOf = .ok submission ↔
      Submission.read request.body = .ok submission := by
    cases Submission.read request.body with
    | error => exact ⟨nofun, nofun⟩
    | ok =>
      constructor
      · rintro ⟨⟩
        rfl
      · rintro ⟨⟩
        rfl
  unfold submissionOf
  dsimp only
  constructor
  · intro h
    split at h
    · cases h
    · rename_i hannounced
      split at h
      · cases h
      · rename_i hshort
        exact ⟨hjson.1 (by simpa using hannounced), Nat.not_lt.1 hshort,
          Submission.read_eq_ok_iff.1 (hread.1 h)⟩
  · rintro ⟨hannounced, hshort, hdescribes⟩
    rw [hjson.2 hannounced, if_neg (by decide), if_neg (Nat.not_lt.2 hshort)]
    exact hread.2 (Submission.read_eq_ok_iff.2 hdescribes)

end BuildYard.Http
