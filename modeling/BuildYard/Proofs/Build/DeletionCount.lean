import BuildYard.Proofs.Build.Traffic
/-!
# What the counter of canceled jobs counts

The counter is raised once, after all the deletions of a cancellation. It counts the jobs that were
deleted as long as the deletions all go well or none does; when some but not all of them are answered
well, those are left out. Which deletions were sent by then is a matter of their order.

* `Cancels.canceled`: what a cancellation adds to the counter, by its requests and their responses.
* `countsDeletions_iff`: when that is the number of deletions that were answered well.
-/

namespace BuildYard.Build

open Remote (IsGone)

/-! ## Deletions that are answered well -/

instance : (r : Except Failure Unit) → Decidable (r = .ok ())
  | .ok () => .isTrue rfl
  | .error _ => .isFalse nofun

instance : DecidablePred IsGone := fun _ => decidable_of_iff _ Remote.orAbsent_answer_eq_ok_iff

/-- How many of these requests are deletions that are answered by success or with code 404. -/
def goneAmong (requests : List ApiRequest) (responses : List ApiResponse) : Nat :=
  (requests.zip responses).countP fun (request, response) =>
    request.method = .delete ∧ IsGone (some response)

/-- How many of the first `n` responses answer a deletion by success or with code 404. -/
def goneOf (n : Nat) (responses : List ApiResponse) : Nat :=
  (responses.take n).countP fun response => IsGone (some response)

@[simp] theorem goneOf_zero (responses : List ApiResponse) : goneOf 0 responses = 0 := rfl

@[simp] theorem goneOf_nil (n : Nat) : goneOf n [] = 0 := by
  rw [goneOf, List.take_nil, List.countP_nil]

theorem goneOf_succ_cons (n : Nat) (response : ApiResponse) (responses : List ApiResponse) :
    goneOf (n + 1) (response :: responses) =
      goneOf n responses + if IsGone (some response) then 1 else 0 := by
  simp only [goneOf, List.take_succ_cons, List.countP_cons, decide_eq_true_eq]

theorem goneOf_le (n : Nat) (responses : List ApiResponse) : goneOf n responses ≤ n :=
  Nat.le_trans List.countP_le_length (List.length_take_le n responses)

theorem goneOf_mono {m n : Nat} (h : m ≤ n) (responses : List ApiResponse) :
    goneOf m responses ≤ goneOf n responses :=
  (List.take_sublist_take_left h).countP_le

theorem goneOf_eq_iff {n : Nat} {responses : List ApiResponse} :
    goneOf n responses = n ↔ ∀ i < n, IsGone responses[i]? := by
  induction n generalizing responses with
  | zero => simp
  | succ n ih =>
    cases responses with
    | nil =>
      have hnone : ¬ IsGone none := fun ⟨r, hr, _⟩ => by cases hr
      refine iff_of_false (by simp) fun h => ?_
      exact hnone (h 0 n.succ_pos)
    | cons response responses =>
      have hle := goneOf_le n responses
      rw [goneOf_succ_cons, Nat.forall_lt_succ_left, List.getElem?_cons_zero]
      simp only [List.getElem?_cons_succ, ← ih]
      by_cases hgone : IsGone (some response)
      · simp [hgone]
      · simp only [hgone, if_false, false_and, iff_false]
        omega

/-- Of deletions that are sent it only matters how many there are. -/
theorem goneAmong_map_deletion (settings : Settings) (order : List String)
    (responses : List ApiResponse) :
    goneAmong (order.map (deletion settings)) responses = goneOf order.length responses := by
  induction order generalizing responses with
  | nil => rfl
  | cons name order ih =>
    cases responses with
    | nil => simp [goneAmong]
    | cons response responses =>
      rw [List.length_cons, goneOf_succ_cons, ← ih]
      simp [goneAmong, List.countP_cons, deletion]

theorem goneAmong_clearing (settings : Settings) (serviceId : String) (order : List String)
    (responses : List ApiResponse) :
    goneAmong (clearing settings serviceId order) responses =
      goneOf order.length (responses.drop 1) := by
  rw [← goneAmong_map_deletion settings]
  cases responses with
  | nil => simp [goneAmong]
  | cons response responses => simp [goneAmong, clearing, listing]

variable {settings : Settings} {serviceId : String} {responses : List ApiResponse}

/-- Deletions succeed exactly when so many are answered well as there are jobs. -/
theorem Deletes.ok_iff {names order : List String} {result : Except Failure Unit}
    (h : Deletes settings responses names order result) :
    result = .ok () ↔ goneOf order.length responses = names.length := by
  constructor
  · intro hok
    obtain ⟨hall, hgone⟩ := h.ok hok
    rw [goneOf_eq_iff.2 hgone, hall.length_eq]
  · intro hcount
    have hle := goneOf_le order.length responses
    have hall : order.Perm names := h.once.perm_of_length_le (by omega)
    rw [← hall.length_eq] at hcount
    refine h.done (fun name hname => h.can name (hall.mem_iff.2 hname)) ?_
    rw [← hall.length_eq]
    exact goneOf_eq_iff.1 hcount

/-! ## What a cancellation adds to the counter -/

/-- The counter is raised by the number of jobs that a cancellation gives the names of. -/
theorem canceled_cancel {σ : Type} [Cluster σ] (settings : Settings) (serviceId : String)
    (s : Session σ) :
    ((cancel settings serviceId).outcome s).2.counters.canceled = s.counters.canceled +
      (((cancel settings serviceId).outcome s).1.toOption.getD []).length := by
  rw [outcome_cancel]
  rcases (Cluster.listJobs settings.namespace_ (.forService serviceId)).outcome s.cluster
    with ⟨e | jobs, c⟩
  · rfl
  · obtain ⟨deleted, c', hdelete, -⟩ := outcome_deleteAll settings.namespace_ (activeNames jobs)
      { s with cluster := c }
    simp only [hdelete]
    cases deleted with
    | error e => rfl
    | ok => rfl

/-- What a cancellation adds to the counter, by its requests and their responses: it sends no
deletion, or it adds all the active jobs if all their deletions are answered well and else nothing. -/
theorem Cancels.canceled {requests : List ApiRequest} {result : Except Failure (List String)}
    (h : Cancels settings serviceId responses requests result) :
    (goneAmong requests responses = 0 ∧ (result.toOption.getD []).length = 0) ∨
    ∃ jobs order, listed responses = .ok jobs ∧ order.length ≤ (activeNames jobs).length ∧
      requests = clearing settings serviceId order ∧
      (result.toOption.getD []).length =
        if goneAmong requests responses = (activeNames jobs).length then (activeNames jobs).length
        else 0 := by
  cases h with
  | unsent => exact .inl ⟨rfl, rfl⟩
  | unlisted =>
    refine .inl ⟨?_, rfl⟩
    show goneAmong (clearing settings serviceId []) responses = 0
    rw [goneAmong_clearing, List.length_nil, goneOf_zero]
  | deleting hcan hlist hdeletes =>
    rename_i jobs order result
    refine .inr ⟨jobs, order, hlist, hdeletes.once.length_le, rfl, ?_⟩
    rw [goneAmong_clearing]
    cases result with
    | error e =>
      rw [if_neg fun hcount => by cases hdeletes.ok_iff.2 hcount]
      rfl
    | ok =>
      rw [if_pos (hdeletes.ok_iff.1 rfl)]
      rfl

/-! ## The counter -/

/-- The requests that a cancellation sends. -/
def canceling (settings : Settings) (serviceId : String) (s : Session Remote) : List ApiRequest :=
  ((cancel settings serviceId).outcome s).2.cluster.sent.drop s.cluster.sent.length

/-- The counter of canceled jobs grows by the deletions that are answered by success or with code 404,
among those that the cancellation sends. -/
def CountsDeletions (settings : Settings) (serviceId : String) (s : Session Remote)
    (responses : List ApiResponse) : Prop :=
  ((cancel settings serviceId).outcome s).2.counters.canceled =
    s.counters.canceled + goneAmong (canceling settings serviceId s) responses

instance (serviceId : String) (s : Session Remote) (responses : List ApiResponse) :
    Decidable (CountsDeletions settings serviceId s responses) :=
  inferInstanceAs (Decidable (_ = _))

/-- The cancellation lists jobs, and some deletions of active ones are answered well, but fewer than
there are active jobs. -/
structure BreaksOff (settings : Settings) (serviceId : String) (s : Session Remote)
    (responses : List ApiResponse) (jobs : List Job) : Prop where
  is_listed : listed responses = .ok jobs
  some_gone : 0 < goneAmong (canceling settings serviceId s) responses
  not_all_gone : goneAmong (canceling settings serviceId s) responses < (activeNames jobs).length

/-- The session with another order of what is under way together. -/
def paced (s : Session Remote) (pace : Nat → List Nat) : Session Remote :=
  { s with cluster := { s.cluster with pace := pace } }

/-- A cancellation goes in one of its ways. -/
theorem cancels_canceling (settings : Settings) (serviceId : String) {s : Session Remote}
    (hs : s.cluster.network = .scripted responses) :
    Cancels settings serviceId responses (canceling settings serviceId s)
      ((cancel settings serviceId).outcome s).1 := by
  rcases hcancel : (cancel settings serviceId).outcome s with ⟨result, s'⟩
  obtain ⟨requests, hcluster, hcancels⟩ := cancel_sent hs hcancel
  rw [canceling, hcancel, hcluster, Remote.sending, List.drop_left]
  exact hcancels

theorem countsDeletions_iff_not_breaksOff {s : Session Remote}
    (hs : s.cluster.network = .scripted responses) :
    CountsDeletions settings serviceId s responses ↔
      ¬ ∃ jobs, BreaksOff settings serviceId s responses jobs := by
  have hcancels := cancels_canceling settings serviceId hs
  rw [CountsDeletions, canceled_cancel, Nat.add_left_cancel_iff]
  obtain ⟨hnone, hzero⟩ | ⟨jobs, order, hlist, hle, hclearing, hadded⟩ := hcancels.canceled
  · rw [hnone, hzero]
    refine iff_of_true rfl ?_
    rintro ⟨jobs, -, hsome, -⟩
    rw [hnone] at hsome
    exact Nat.lt_irrefl 0 hsome
  · have hgone : goneAmong (canceling settings serviceId s) responses ≤
        (activeNames jobs).length := by
      rw [hclearing, goneAmong_clearing]
      exact Nat.le_trans (goneOf_le ..) hle
    have hbreaks : (∃ jobs, BreaksOff settings serviceId s responses jobs) ↔
        0 < goneAmong (canceling settings serviceId s) responses ∧
          goneAmong (canceling settings serviceId s) responses < (activeNames jobs).length := by
      constructor
      · rintro ⟨jobs', hlist', hsome, hnot⟩
        obtain rfl := Except.ok.inj (hlist.symm.trans hlist')
        exact ⟨hsome, hnot⟩
      · rintro ⟨hsome, hnot⟩
        exact ⟨jobs, hlist, hsome, hnot⟩
    rw [hadded, hbreaks]
    split <;> omega

/-! ## Orders -/

theorem outcome_deleteAll_eq {σ : Type} [Cluster σ] (ns : String) (names : List String)
    (s : Session σ) :
    (deleteAll ns names).outcome s =
      (((Strand.byTurns (Cluster.turns s.cluster names.length) (deletions ns names)).outcome
          s.cluster).1,
        { s with cluster := ((Strand.byTurns (Cluster.turns s.cluster names.length)
          (deletions ns names)).outcome s.cluster).2 }) := by
  have hlength : (deletions (σ := σ) ns names).length = names.length := List.length_map ..
  rw [deleteAll, Session.outcome_onCluster, Cluster.sideBySide, Attempt.outcome_of, hlength]

/-- There is an order in which all the deletions are sent before the response to any of them comes
in. -/
theorem exists_pace_together {s : Session Remote} (hs : s.cluster.network = .scripted responses)
    {jobs : List Job} (hcan : canList settings serviceId = .ok ())
    (hlist : listed responses = .ok jobs)
    (hdelete : ∀ name ∈ activeNames jobs, canDelete settings name = .ok ()) :
    ∃ pace, canceling settings serviceId (paced s pace) =
      clearing settings serviceId (activeNames jobs) := by
  obtain ⟨turns, hturns⟩ := exists_turns_deletions (responses.drop 1) hdelete
  refine ⟨fun _ => turns, ?_⟩
  let c : Remote := (paced s fun _ => turns).cluster.sending responses [listing settings serviceId]
  have hnetwork : (paced s fun _ => turns).cluster.network = .scripted responses := hs
  have hcluster : ((cancel settings serviceId).outcome (paced s fun _ => turns)).2.cluster =
      c.sending (responses.drop 1) ((activeNames jobs).map (deletion settings)) := by
    rw [← hturns c rfl, outcome_cancel, outcome_listJobs settings serviceId hnetwork, hcan, hlist]
    dsimp only
    rw [outcome_deleteAll_eq]
    show _ = ((Strand.byTurns (Cluster.turns c (activeNames jobs).length) _).outcome c).2
    rcases (Strand.byTurns (Cluster.turns c (activeNames jobs).length)
      (deletions settings.namespace_ (activeNames jobs))).outcome c with ⟨e | ⟨⟩, t⟩ <;> rfl
  have hsent : (c.sending (responses.drop 1) ((activeNames jobs).map (deletion settings))).sent =
      (paced s fun _ => turns).cluster.sent ++ clearing settings serviceId (activeNames jobs) :=
    List.append_assoc ..
  rw [canceling, hcluster, hsent, List.drop_left]

/-- A cancellation whose deletions can be sent counts them in every order exactly when all or none of
the responses answer them well. -/
theorem forall_paced_countsDeletions_iff {s : Session Remote}
    (hs : s.cluster.network = .scripted responses) {jobs : List Job}
    (hcan : canList settings serviceId = .ok ()) (hlist : listed responses = .ok jobs)
    (hdelete : ∀ name ∈ activeNames jobs, canDelete settings name = .ok ()) :
    (∀ pace, CountsDeletions settings serviceId (paced s pace) responses) ↔
      goneOf (activeNames jobs).length (responses.drop 1) = 0 ∨
        goneOf (activeNames jobs).length (responses.drop 1) = (activeNames jobs).length := by
  have hpaced : ∀ pace, (paced s pace).cluster.network = .scripted responses := fun _ => hs
  constructor
  · intro hcounts
    obtain ⟨pace, hall⟩ := exists_pace_together hs hcan hlist hdelete
    have hbreaks := (countsDeletions_iff_not_breaksOff (hpaced pace)).1 (hcounts pace)
    have hle := goneOf_le (activeNames jobs).length (responses.drop 1)
    by_contra hmixed
    obtain ⟨hsome, hnot⟩ := not_or.1 hmixed
    refine hbreaks ⟨jobs, hlist, ?_, ?_⟩
    · rw [hall, goneAmong_clearing]
      omega
    · rw [hall, goneAmong_clearing]
      omega
  · intro hgone pace
    rw [countsDeletions_iff_not_breaksOff (hpaced pace)]
    rintro ⟨jobs', hlist', hsome, hnot⟩
    obtain rfl := Except.ok.inj (hlist.symm.trans hlist')
    have hcancels := cancels_canceling settings serviceId (hpaced pace)
    rcases hgone with hnone | hall
    · -- Of the responses that come in none is good, so none is counted.
      obtain ⟨hzero, -⟩ | ⟨jobs', order, hlist'', hle, hclearing, -⟩ := hcancels.canceled
      · omega
      · obtain rfl := Except.ok.inj (hlist.symm.trans hlist'')
        rw [hclearing, goneAmong_clearing] at hsome
        have hmono := goneOf_mono hle (responses.drop 1)
        omega
    · -- Nothing fails, so all the deletions are sent and counted.
      have hwell : ∀ j < (activeNames jobs).length, IsGone responses[j + 1]? := fun j hj =>
        isGone_drop_one.1 (goneOf_eq_iff.1 hall j hj)
      have hok := hcancels.done hcan hlist hdelete hwell
      rw [hok] at hcancels
      obtain ⟨jobs', order, hlist'', hperm, hclearing, -⟩ := hcancels.of_ok
      obtain rfl := Except.ok.inj (hlist.symm.trans hlist'')
      rw [hclearing, goneAmong_clearing, hperm.length_eq, hall] at hnot
      exact Nat.lt_irrefl _ hnot

/-- Two active jobs of a service; the one is deleted, and the deletion of the other fails. -/
def halfCleared : List ApiResponse := [
  ⟨200, "\x7b\"metadata\":\x7b\x7d,\"items\":[" ++
    "\x7b\"metadata\":\x7b\"name\":\"a\"\x7d,\"status\":\x7b\"active\":1\x7d\x7d," ++
    "\x7b\"metadata\":\x7b\"name\":\"b\"\x7d,\"status\":\x7b\"active\":1\x7d\x7d]\x7d"⟩,
  ⟨200, "\x7b\"metadata\":\x7b\"name\":\"a\"\x7d\x7d"⟩,
  ⟨500, "boom"⟩]

/-- A cancellation that breaks off does not count what it has deleted. -/
theorem not_countsDeletions_halfCleared :
    ¬ CountsDeletions {} "svc" { cluster := { network := .scripted halfCleared }, now := .epoch }
      halfCleared := by
  decide +kernel

/-- **The counter of canceled jobs counts the deletions of a cancellation, unless it breaks off.**
Whatever the API server answers and in whatever order the deletions go, the counter grows by the
deletions that are answered by success or with code 404, exactly when it is not the case that some are
answered so, but fewer than there are active jobs. So with given responses it grows by them in every
order exactly when all or none of the deletions that the cancellation asks for are answered so. -/
theorem countsDeletions_iff (settings : Settings) (serviceId : String) {s : Session Remote}
    {responses : List ApiResponse} (hs : s.cluster.network = .scripted responses) :
    (CountsDeletions settings serviceId s responses ↔
      ¬ ∃ jobs, BreaksOff settings serviceId s responses jobs) ∧
    ∀ jobs, canList settings serviceId = .ok () → listed responses = .ok jobs →
      (∀ name ∈ activeNames jobs, canDelete settings name = .ok ()) →
        ((∀ pace, CountsDeletions settings serviceId (paced s pace) responses) ↔
          goneOf (activeNames jobs).length (responses.drop 1) = 0 ∨
            goneOf (activeNames jobs).length (responses.drop 1) = (activeNames jobs).length) :=
  ⟨countsDeletions_iff_not_breaksOff hs, fun _ hcan hlist hdelete =>
    forall_paced_countsDeletions_iff hs hcan hlist hdelete⟩

/-- Two active jobs of a service; the one is deleted, and the other is gone already. -/
def wholeCleared : List ApiResponse := halfCleared.take 2 ++ [⟨404, "gone"⟩]

/-- Two active jobs of a service; the deletion of the one fails, and the other is deleted. -/
def lastCleared : List ApiResponse :=
  halfCleared.take 1 ++ [⟨500, "boom"⟩, ⟨200, "\x7b\"metadata\":\x7b\"name\":\"b\"\x7d\x7d"⟩]

/-- A cancellation that goes all the way counts both. When two deletions are sent before any response
comes in and the first fails, the second is not counted. -/
theorem countsDeletions_iff_cleared :
    ∃ s : Session Remote, s.cluster.network = .scripted wholeCleared ∧
      ((cancel {} "svc").outcome s).2.counters.canceled = 2 ∧
      (¬ ∃ jobs, BreaksOff {} "svc" s wholeCleared jobs) ∧
    ∃ t : Session Remote, t.cluster.network = .scripted lastCleared ∧
      (canceling {} "svc" t).length = 3 ∧
      ((cancel {} "svc").outcome t).2.counters.canceled = 0 ∧
      ∃ jobs, BreaksOff {} "svc" t lastCleared jobs := by
  let s : Session Remote := { cluster := { network := .scripted wholeCleared }, now := .epoch }
  let t : Session Remote := {
    cluster := { network := .scripted lastCleared, pace := fun _ => [0, 1, 0, 1] }
    now := .epoch }
  have hall : ((cancel {} "svc").outcome s).2.counters.canceled = 2 ∧
      CountsDeletions {} "svc" s wholeCleared := by
    decide +kernel
  have hhalf : (canceling {} "svc" t).length = 3 ∧
      ((cancel {} "svc").outcome t).2.counters.canceled = 0 ∧
      ¬ CountsDeletions {} "svc" t lastCleared := by
    decide +kernel
  exact ⟨s, rfl, hall.1, (countsDeletions_iff {} "svc" (s := s) rfl).1.1 hall.2, t, rfl, hhalf.1,
    hhalf.2.1, not_not.1 fun h => hhalf.2.2 ((countsDeletions_iff {} "svc" (s := t) rfl).1.2 h)⟩

end BuildYard.Build
