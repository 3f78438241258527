import BuildYard.Proofs.Build.Requests
import BuildYard.Proofs.Cluster.Joining
import Mathlib.Data.List.Perm.Subperm
import Mathlib.Data.List.InsertIdx
/-!
# Deletions that are under way together

Over a cluster behind its API server a deletion is built, then sent, and then its response comes in.
When several are under way, nothing is known about whose turn it is. What is known at each moment is a
list of records, one for each job, which say how far its deletion has come (`Recorded`): every step
moves one record on, and the requests that were sent are the deletions of the records that say so.

* `Deletes`: what deletions under way together have sent when they end, and how they end.
* `deletes_of_joins`: they end in no other way, whatever their order.
-/

namespace BuildYard.Build

open Remote (IsGone answer deleted? orAbsent sending)

/-! ## One deletion -/

/-- How far a deletion has come. -/
inductive Stage where
  | asked
  | built
  /-- So many others were sent before it. -/
  | sent (place : Nat)

variable {settings : Settings} {responses : List ApiResponse}

/-- The steps that are left of the deletion of a job. -/
def left (settings : Settings) (responses : List ApiResponse) (name : String) :
    Stage → Strand Remote Unit
  | .asked => (Cluster.deletion settings.namespace_ name .foreground).within
      ("failed to delete job " ++ name)
  | .built => (Remote.posting (Remote.deleteRequest settings.namespace_ name .foreground) deleted?
      orAbsent).within ("failed to delete job " ++ name)
  | .sent place => (Strand.last (.ofResult (orAbsent (answer deleted? responses[place]?)))).within
      ("failed to delete job " ++ name)

theorem left_asked (name : String) :
    left settings responses name .asked =
      match canDelete settings name with
      | .error e => (Strand.last (.ofResult (orAbsent (.error e)))).within
          ("failed to delete job " ++ name)
      | .ok () => .step id fun _ => left settings responses name .built := by
  show (Remote.asking _ deleted? orAbsent).within _ = _
  rw [Remote.asking_eq, canDelete]
  rcases Remote.sendable (Remote.deleteRequest settings.namespace_ name .foreground) with e | ⟨⟩
  · rfl
  · rfl

/-- The last step of a deletion: it cannot be sent, or its response comes in. -/
theorem left_eq_last {name : String} {stage : Stage} {a : Attempt Remote Unit}
    (h : left settings responses name stage = .last a) :
    (stage = .asked ∧ canDelete settings name ≠ .ok () ∧
      ∀ c, ∃ e, a.outcome c = (.error e, c)) ∨
    ∃ place, stage = .sent place ∧ ∀ c, a.outcome c =
      (during ("failed to delete job " ++ name) (orAbsent (answer deleted? responses[place]?)),
        c) := by
  cases stage with
  | asked =>
    rw [left_asked] at h
    cases hcan : canDelete settings name with
    | error e =>
      rw [hcan] at h
      obtain rfl := Strand.last.inj h
      refine .inl ⟨rfl, nofun, fun c => ⟨e.during ("failed to delete job " ++ name), ?_⟩⟩
      rw [Attempt.outcome_within, Attempt.outcome_ofResult, Remote.orAbsent_of_sendable hcan]
      rfl
    | ok =>
      rw [hcan] at h
      cases h
  | built => cases h
  | sent place =>
    obtain rfl := Strand.last.inj h
    exact .inr ⟨place, rfl, fun c => rfl⟩

/-- A step of a deletion that is not its last: it is built, or it is sent. -/
theorem left_eq_step {name : String} {stage : Stage} {next : Remote → Remote}
    {rest : Remote → Strand Remote Unit} (h : left settings responses name stage = .step next rest) :
    (stage = .asked ∧ canDelete settings name = .ok () ∧ next = id ∧
      ∀ c, rest c = left settings responses name .built) ∨
    (stage = .built ∧ ∀ (c : Remote) (requests : List ApiRequest),
      next (c.sending responses requests) =
        c.sending responses (requests ++ [deletion settings name]) ∧
      rest (c.sending responses requests) =
        left settings responses name (.sent requests.length)) := by
  cases stage with
  | asked =>
    rw [left_asked] at h
    cases hcan : canDelete settings name with
    | error e =>
      rw [hcan] at h
      cases h
    | ok =>
      rw [hcan] at h
      obtain ⟨rfl, rfl⟩ := Strand.step.inj h
      exact .inl ⟨rfl, rfl, rfl, fun c => rfl⟩
  | built =>
    obtain ⟨rfl, rfl⟩ := Strand.step.inj h
    refine .inr ⟨rfl, fun c requests => ?_⟩
    have hnetwork : (c.sending responses requests).network =
      .scripted (responses.drop requests.length) := rfl
    obtain ⟨hanswer, hsent⟩ := Remote.outcome_exchange hnetwork
      (Remote.deleteRequest settings.namespace_ name .foreground) deleted?
    constructor
    · dsimp only
      rw [hsent, Remote.sending_sending, onWire_deleteRequest]
    · dsimp only
      rw [hanswer, List.head?_drop]
      rfl
  | sent place => cases h

/-! ## All of them -/

/-- The job of a deletion that was sent, and how many others were sent before it. -/
def sentAs : String × Stage → Option (String × Nat)
  | (name, .sent place) => some (name, place)
  | (_, .asked) | (_, .built) => none

/-- What is recorded of the deletions of some jobs when those of `order` were sent, in this order: one
record for each job. -/
structure Recorded (settings : Settings) (names order : List String)
    (records : List (String × Stage)) : Prop where
  each : (records.map (·.1)).Perm names
  sent : (records.filterMap sentAs).Perm order.zipIdx
  built : ∀ r ∈ records, r.2 ≠ .asked → canDelete settings r.1 = .ok ()

theorem filterMap_sent_cons (name : String) (place : Nat) (records : List (String × Stage)) :
    ((name, .sent place) :: records).filterMap sentAs =
      (name, place) :: records.filterMap sentAs := rfl

namespace Recorded

variable {names order : List String} {name : String}
  {records records' : List (String × Stage)}

theorem perm (h : Recorded settings names order records) (hperm : records.Perm records') :
    Recorded settings names order records' where
  each := (hperm.map _).symm.trans h.each
  sent := (hperm.filterMap _).symm.trans h.sent
  built r hr := h.built r (hperm.mem_iff.2 hr)

/-- At first all of them are only asked for. -/
theorem start (names : List String) :
    Recorded settings names [] (names.map fun name => (name, .asked)) where
  each := by simp [Function.comp_def]
  sent := by simp [List.filterMap_map, sentAs, Function.comp_def]
  built := by simp

theorem build (h : Recorded settings names order ((name, .asked) :: records))
    (hcan : canDelete settings name = .ok ()) :
    Recorded settings names order ((name, .built) :: records) where
  each := h.each
  sent := h.sent
  built r hr hstage := by
    rcases List.mem_cons.1 hr with rfl | hr
    · exact hcan
    · exact h.built r (List.mem_cons_of_mem _ hr) hstage

theorem send (h : Recorded settings names order ((name, .built) :: records)) :
    Recorded settings names (order ++ [name]) ((name, .sent order.length) :: records) where
  each := h.each
  sent := by
    have hsent : (records.filterMap sentAs).Perm order.zipIdx := h.sent
    have hlast : (order ++ [name]).zipIdx = order.zipIdx ++ [(name, order.length)] := by
      simp [List.zipIdx_append]
    rw [hlast, filterMap_sent_cons]
    exact (hsent.cons _).trans (List.perm_append_singleton _ _).symm
  built r hr hstage := by
    rcases List.mem_cons.1 hr with rfl | hr
    · exact h.built (name, .built) List.mem_cons_self nofun
    · exact h.built r (List.mem_cons_of_mem _ hr) hstage

/-- A deletion that was sent has its record. -/
theorem exists_sent (h : Recorded settings names order records) {place : Nat}
    (hplace : order[place]? = some name) : (name, .sent place) ∈ records := by
  have hmem : (name, place) ∈ records.filterMap sentAs :=
    h.sent.mem_iff.2 (List.mk_mem_zipIdx_iff_getElem?.2 hplace)
  obtain ⟨⟨name', stage⟩, hrecord, hsent⟩ := List.mem_filterMap.1 hmem
  cases stage with
  | asked => cases hsent
  | built => cases hsent
  | sent place' =>
    cases hsent
    exact hrecord

/-- The place that a record tells is one of those that were sent. -/
theorem place_lt (h : Recorded settings names order records) {place : Nat}
    (hrecord : (name, .sent place) ∈ records) : place < order.length := by
  have hmem : (name, place) ∈ order.zipIdx :=
    h.sent.mem_iff.1 (List.mem_filterMap.2 ⟨_, hrecord, rfl⟩)
  exact (List.getElem?_eq_some_iff.1 (List.mk_mem_zipIdx_iff_getElem?.1 hmem)).1

theorem map_sent_sublist (records : List (String × Stage)) :
    ((records.filterMap sentAs).map (·.1)).Sublist (records.map (·.1)) := by
  induction records with
  | nil => exact .slnil
  | cons record records ih =>
    obtain ⟨name, stage⟩ := record
    cases stage with
    | asked => exact ih.cons _
    | built => exact ih.cons _
    | sent place => exact ih.cons_cons _

/-- No job's deletion is sent more often than the job is there. -/
theorem subperm (h : Recorded settings names order records) : order.Subperm names := by
  have horder : ((records.filterMap sentAs).map (·.1)).Perm order := by
    have hmap := h.sent.map (·.1)
    rwa [List.zipIdx_map_fst] at hmap
  exact horder.symm.subperm.trans ((map_sent_sublist records).subperm.trans h.each.subperm)

theorem can_of_mem (h : Recorded settings names order records) (hname : name ∈ order) :
    canDelete settings name = .ok () := by
  obtain ⟨place, hplace⟩ := List.mem_iff_getElem?.1 hname
  exact h.built (name, .sent place) (h.exists_sent hplace) nofun

end Recorded

/-- What deletions under way together have sent, and how they end. -/
structure Deletes (settings : Settings) (responses : List ApiResponse) (names order : List String)
    (result : Except Failure Unit) : Prop where
  /-- No job's deletion is sent more often than the job is there. -/
  once : order.Subperm names
  can : ∀ name ∈ order, canDelete settings name = .ok ()
  /-- When they succeed all were sent, and their jobs are gone. -/
  ok : result = .ok () → order.Perm names ∧ ∀ i < order.length, IsGone responses[i]?
  /-- When they fail one cannot be sent, or was sent and its job is not gone. -/
  failed : ∀ e, result = .error e →
    (∃ name ∈ names, canDelete settings name ≠ .ok ()) ∨ ∃ i < order.length, ¬ IsGone responses[i]?

/-- Deletions that can all be sent and are all answered well succeed. -/
theorem Deletes.done {names order : List String} {result : Except Failure Unit}
    (h : Deletes settings responses names order result)
    (hcan : ∀ name ∈ names, canDelete settings name = .ok ())
    (hgone : ∀ i < names.length, IsGone responses[i]?) : result = .ok () := by
  cases result with
  | ok => rfl
  | error e =>
    obtain ⟨name, hname, hno⟩ | ⟨i, hi, hno⟩ := h.failed e rfl
    · exact absurd (hcan name hname) hno
    · exact absurd (hgone i (Nat.lt_of_lt_of_le hi h.once.length_le)) hno

/-- The record tells that the deletion was sent and that its job is gone. -/
def Ended (responses : List ApiResponse) (record : String × Stage) : Prop :=
  ∃ place, record.2 = .sent place ∧ IsGone responses[place]?

theorem map_sent_of_ended {records : List (String × Stage)}
    (h : ∀ r ∈ records, Ended responses r) :
    (records.filterMap sentAs).map (·.1) = records.map (·.1) := by
  induction records with
  | nil => rfl
  | cons record records ih =>
    obtain ⟨name, stage⟩ := record
    obtain ⟨place, rfl, -⟩ := h _ List.mem_cons_self
    rw [filterMap_sent_cons, List.map_cons, List.map_cons,
      ih fun r hr => h r (List.mem_cons_of_mem _ hr)]

namespace Recorded

variable {names order : List String} {name : String} {records : List (String × Stage)}

/-- When all records tell that their jobs are gone, all deletions were sent and answered well. -/
theorem deletes_of_ended (h : Recorded settings names order records)
    (hended : ∀ r ∈ records, Ended responses r) :
    Deletes settings responses names order (.ok ()) where
  once := h.subperm
  can name hname := h.can_of_mem hname
  ok _ := by
    constructor
    · have hmap := h.sent.map (·.1)
      rw [map_sent_of_ended hended, List.zipIdx_map_fst] at hmap
      exact hmap.symm.trans h.each
    · intro i hi
      obtain ⟨place, hplace, hgone⟩ := hended _ (h.exists_sent (List.getElem?_eq_getElem hi))
      cases hplace
      exact hgone
  failed e he := by cases he

/-- A deletion that cannot be sent, or whose job is not gone, makes them fail. -/
theorem deletes_of_stuck (h : Recorded settings names order records) (e : Failure)
    (hstuck : (∃ name ∈ names, canDelete settings name ≠ .ok ()) ∨
      ∃ i < order.length, ¬ IsGone responses[i]?) :
    Deletes settings responses names order (.error e) where
  once := h.subperm
  can name hname := h.can_of_mem hname
  ok hok := by cases hok
  failed _ _ := hstuck

theorem name_mem (h : Recorded settings names order records) {stage : Stage}
    (hrecord : (name, stage) ∈ records) : name ∈ names :=
  h.each.mem_iff.1 (List.mem_map_of_mem hrecord)

end Recorded

variable {names order : List String} {name : String} {stage : Stage}
  {pending ended : List (String × Stage)} {turn : Nat}

/-- A record that is at a turn stands in front of the others. -/
theorem perm_of_turn (hturn : pending[turn]? = some (name, stage)) :
    (pending ++ ended).Perm ((name, stage) :: (pending.eraseIdx turn ++ ended)) := by
  obtain ⟨hlt, hrecord⟩ := List.getElem?_eq_some_iff.1 hturn
  have hfirst := List.getElem_cons_eraseIdx_perm hlt
  rw [hrecord] at hfirst
  exact hfirst.symm.append_right ended

/-- A record that moves on stays one of those that are left. -/
theorem perm_set (hturn : pending[turn]? = some (name, stage)) (record : String × Stage) :
    (record :: (pending.eraseIdx turn ++ ended)).Perm (pending.set turn record ++ ended) :=
  (List.set_perm_cons_eraseIdx (List.getElem?_eq_some_iff.1 hturn).1 record).symm.append_right ended

/-- **Deletions under way together send and end as `Deletes` says**, whatever their order: by
induction on how they come to an end, with the records of those that are left and of those that have
ended. -/
theorem deletes_of_joins {strands : List (Strand Remote Unit)} {c₀ c d : Remote}
    {result : Except Failure Unit} (h : Strand.Joins strands c result d)
    (hstrands : strands = pending.map fun r => left settings responses r.1 r.2)
    (hc : c = c₀.sending responses (order.map (deletion settings)))
    (hrecorded : Recorded settings names order (pending ++ ended))
    (hended : ∀ r ∈ ended, Ended responses r) :
    ∃ order', d = c₀.sending responses (order'.map (deletion settings)) ∧
      Deletes settings responses names order' result := by
  induction h generalizing pending ended order with
  | ended =>
    obtain rfl := List.map_eq_nil_iff.1 hstrands.symm
    exact ⟨order, hc, hrecorded.deletes_of_ended hended⟩
  | @fails strands turn a s t e here failed =>
    rw [hstrands, List.getElem?_map, Option.map_eq_some_iff] at here
    obtain ⟨⟨name, stage⟩, hturn, hlast⟩ := here
    have hrecord : (name, stage) ∈ pending ++ ended :=
      List.mem_append_left _ (List.mem_of_getElem? hturn)
    obtain ⟨rfl, hcan, hfails⟩ | ⟨place, rfl, hanswer⟩ := left_eq_last hlast
    · obtain ⟨e', hfails⟩ := hfails s
      cases failed.symm.trans hfails
      exact ⟨order, hc, hrecorded.deletes_of_stuck e (.inl ⟨name, hrecorded.name_mem hrecord, hcan⟩)⟩
    · obtain ⟨hresult, rfl⟩ := Prod.ext_iff.1 (failed.symm.trans (hanswer s))
      refine ⟨order, hc, hrecorded.deletes_of_stuck e
        (.inr ⟨place, hrecorded.place_lt hrecord, fun hgone => ?_⟩)⟩
      rw [Remote.orAbsent_answer_eq_ok_iff.2 hgone] at hresult
      cases hresult
  | @ends strands turn a s s' t r here done others ih =>
    rw [hstrands, List.getElem?_map, Option.map_eq_some_iff] at here
    obtain ⟨⟨name, stage⟩, hturn, hlast⟩ := here
    obtain ⟨rfl, hcan, hfails⟩ | ⟨place, rfl, hanswer⟩ := left_eq_last hlast
    · obtain ⟨e', hfails⟩ := hfails s
      cases done.symm.trans hfails
    · obtain ⟨hresult, rfl⟩ := Prod.ext_iff.1 (done.symm.trans (hanswer s))
      -- The record goes over to those that have ended.
      have hmoved := hrecorded.perm ((perm_of_turn hturn).trans List.perm_middle.symm)
      refine ih (by rw [hstrands, List.eraseIdx_map]) hc hmoved ?_
      intro r hr
      rcases List.mem_cons.1 hr with rfl | hr
      · exact ⟨place, rfl, Remote.orAbsent_answer_eq_ok_iff.1 (during_eq_ok_iff.1 hresult.symm)⟩
      · exact hended r hr
  | @goes strands turn next rest s t r here others ih =>
    rw [hstrands, List.getElem?_map, Option.map_eq_some_iff] at here
    obtain ⟨⟨name, stage⟩, hturn, hstep⟩ := here
    have hfirst := hrecorded.perm (perm_of_turn hturn)
    obtain ⟨rfl, hcan, rfl, hrest⟩ | ⟨rfl, hsend⟩ := left_eq_step hstep
    · have hset : strands.set turn (rest s) = (pending.set turn (name, .built)).map fun r =>
          left settings responses r.1 r.2 := by
        rw [hstrands, hrest, List.map_set]
      exact ih hset hc ((hfirst.build hcan).perm (perm_set hturn _)) hended
    · obtain ⟨hnext, hrest⟩ := hsend c₀ (order.map (deletion settings))
      rw [List.length_map] at hrest
      have hset : strands.set turn (rest s) =
          (pending.set turn (name, .sent order.length)).map fun r =>
            left settings responses r.1 r.2 := by
        rw [hstrands, hc, hrest, List.map_set]
      have hmore : next s = c₀.sending responses ((order ++ [name]).map (deletion settings)) := by
        rw [hc, hnext, List.map_append, List.map_singleton]
      exact ih hset hmore (hfirst.send.perm (perm_set hturn _)) hended

/-- What is sent by deletions that go on side by side from the start. -/
theorem deletions_sent {c d : Remote} {result : Except Failure Unit}
    (hc : c.network = .scripted responses)
    (h : Strand.Joins (deletions settings.namespace_ names) c result d) :
    ∃ order, d = c.sending responses (order.map (deletion settings)) ∧
      Deletes settings responses names order result := by
  have hstart : Recorded settings names [] (names.map (fun name => (name, .asked)) ++ []) := by
    rw [List.append_nil]
    exact .start names
  have hnone : c = c.sending responses (([] : List String).map (deletion settings)) :=
    (Remote.sending_nil hc).symm
  refine deletes_of_joins h ?_ hnone hstart (by simp)
  rw [List.map_map]
  rfl

/-! ## All sent together -/

/-- Deletions that wait for their responses send nothing more. -/
theorem outcome_inOrder_sent {records : List (String × Stage)}
    (h : ∀ r ∈ records, ∃ place, r.2 = .sent place) (c : Remote) :
    ((Strand.inOrder (records.map fun r => left settings responses r.1 r.2)).outcome c).2 = c := by
  induction records with
  | nil => rfl
  | cons record records ih =>
    obtain ⟨name, stage⟩ := record
    obtain ⟨place, rfl⟩ := h _ List.mem_cons_self
    rw [List.map_cons, Strand.inOrder, Attempt.outcome_bind, left, Strand.within,
      Strand.outcome_run_last, Attempt.outcome_within, Attempt.outcome_ofResult]
    rcases during _ (orAbsent (answer deleted? responses[place]?)) with e | ⟨⟩
    · rfl
    · exact ih fun r hr => h r (List.mem_cons_of_mem _ hr)

/-- Deletions that can be sent can all be under way before the response to any of them comes in. The
turns for that do not depend on the cluster. -/
theorem exists_turns_together (responses : List ApiResponse) (order : List String)
    (hcan : ∀ name ∈ names, canDelete settings name = .ok ()) (records : List (String × Stage))
    (hsent : ∀ r ∈ records, ∃ place, r.2 = .sent place) :
    ∃ turns, ∀ c : Remote,
      ((Strand.byTurns turns
        (records.map (fun r => left settings responses r.1 r.2) ++
          names.map fun name => left settings responses name .asked)).outcome
            (c.sending responses (order.map (deletion settings)))).2 =
        c.sending responses ((order ++ names).map (deletion settings)) := by
  induction names generalizing records order with
  | nil =>
    refine ⟨[], fun c => ?_⟩
    rw [List.map_nil, List.append_nil, List.append_nil]
    exact outcome_inOrder_sent hsent _
  | cons name names ih =>
    have hrecords : ∀ r ∈ records ++ [(name, .sent order.length)], ∃ place, r.2 = .sent place := by
      intro r hr
      rcases List.mem_append.1 hr with hr | hr
      · exact hsent r hr
      · exact ⟨order.length, by rw [List.mem_singleton.1 hr]⟩
    obtain ⟨turns, hturns⟩ := ih (order ++ [name])
      (fun name' h' => hcan name' (List.mem_cons_of_mem _ h')) _ hrecords
    refine ⟨records.length :: records.length :: turns, fun c => ?_⟩
    have hafter := hturns c
    obtain ⟨next, rest, hbuilt⟩ : ∃ next rest,
        left settings responses name .built = .step next rest := ⟨_, _, rfl⟩
    obtain ⟨hstage, -⟩ | ⟨-, hsend⟩ := left_eq_step hbuilt
    · cases hstage
    · -- It is built, and then it is sent before any response comes in.
      obtain ⟨hnext, hrest⟩ := hsend c (order.map (deletion settings))
      rw [List.length_map] at hrest
      have hlength : records.length =
          (records.map fun r => left settings responses r.1 r.2).length := by
        rw [List.length_map]
      rw [List.map_cons, left_asked, hcan name List.mem_cons_self, hlength]
      dsimp only
      rw [Strand.outcome_byTurns_between, hbuilt, Strand.outcome_byTurns_between, id_eq, hnext,
        hrest]
      simpa using hafter

theorem exists_turns_deletions (responses : List ApiResponse)
    (hcan : ∀ name ∈ names, canDelete settings name = .ok ()) :
    ∃ turns, ∀ c : Remote, c.network = .scripted responses →
      ((Strand.byTurns turns (deletions settings.namespace_ names)).outcome c).2 =
        c.sending responses (names.map (deletion settings)) := by
  obtain ⟨turns, hturns⟩ := exists_turns_together responses [] hcan [] (by simp)
  refine ⟨turns, fun c hc => ?_⟩
  have hafter := hturns c
  rw [List.map_nil, List.map_nil, Remote.sending_nil hc] at hafter
  exact hafter

end BuildYard.Build
