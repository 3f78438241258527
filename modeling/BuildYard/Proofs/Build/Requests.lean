import BuildYard.Build.Dispatch
import BuildYard.Proofs.Cluster.Exchange
import BuildYard.Proofs.Text.Encoding
/-!
# The requests of a build

What a build asks of the API server: the jobs of its service, the deletion of a job, the creation of
its own. What stands in a target after a number sign is a fragment and does not go out.

* `onWire_listRequest`, `onWire_deleteRequest`, `onWire_createRequest`: these are what goes out.
* `uri_listing`, `uri_deletion`, `uri_creation`: their targets, where no name has a number sign.
* `uri_deletion_of_hash`, `uri_of_hash_namespace`: what they name where one has.
* `canList_of_labelFault?`: a namespace and a service that are label values can be asked for.
-/

namespace BuildYard.Build

open Remote (onWire)

/-! ## What is sent -/

/-- The characters before the first number sign, or all of them. -/
def beforeHash : List Char → List Char
  | [] => []
  | c :: cs => if c = '#' then [] else c :: beforeHash cs

/-- A text before its first number sign, or all of it. -/
def untilHash (text : String) : String := String.ofList (beforeHash text.toList)

theorem beforeHash_eq_takeWhile (cs : List Char) : beforeHash cs = cs.takeWhile (· ≠ '#') := by
  induction cs with
  | nil => rfl
  | cons c cs ih => by_cases h : c = '#' <;> simp [beforeHash, h, ih]

theorem beforeHash_append {cs : List Char} (h : '#' ∉ cs) (rest : List Char) :
    beforeHash (cs ++ rest) = cs ++ beforeHash rest := by
  induction cs with
  | nil => rfl
  | cons c cs ih =>
    obtain ⟨hc, hcs⟩ := not_or.1 (mt List.mem_cons.2 h)
    rw [List.cons_append, beforeHash, if_neg (Ne.symm hc), ih hcs, List.cons_append]

theorem untilHash_of_not_mem {text : String} (h : '#' ∉ text.toList) : untilHash text = text := by
  rw [untilHash, ← List.append_nil text.toList, beforeHash_append h, beforeHash, List.append_nil,
    String.ofList_toList]

theorem untilHash_append {before : String} (h : '#' ∉ before.toList) (after : String) :
    untilHash (before ++ ("#" ++ after)) = before := by
  have hmark : ("#" ++ after).toList = '#' :: after.toList := by
    rw [String.toList_append]
    rfl
  rw [untilHash, String.toList_append, beforeHash_append h, hmark, beforeHash, if_pos rfl,
    List.append_nil, String.ofList_toList]

/-- What is cut from a target is its fragment. -/
theorem sentUri_eq_untilHash (uri : String) : Remote.sentUri uri = untilHash uri := by
  rw [Remote.sentUri, untilHash, beforeHash_eq_takeWhile]

/-- Asks for the jobs of a service. -/
def listing (settings : Settings) (serviceId : String) : ApiRequest where
  method := .get
  uri := untilHash ("/apis/batch/v1/namespaces/" ++ settings.namespace_ ++
    "/jobs?&labelSelector=" ++ String.ofList (Text.toForm ("serviceID=" ++ serviceId).toList))

/-- Asks to delete a job with its pods. -/
def deletion (settings : Settings) (name : String) : ApiRequest where
  method := .delete
  uri := untilHash ("/apis/batch/v1/namespaces/" ++ settings.namespace_ ++ "/jobs/" ++ name ++ "?")
  body := some (.obj [("propagationPolicy", .str "Foreground")])

/-- Asks to create the job of a build. -/
def creation (settings : Settings) (request : BuildRequest) (at_ : Instant) : ApiRequest where
  method := .post
  uri := untilHash ("/apis/batch/v1/namespaces/" ++ settings.namespace_ ++ "/jobs?")
  body := some (manifest request (jobName request at_) at_ settings).toJson

section Targets

variable {settings : Settings}

theorem hash_not_mem_append {s t : String} (hs : '#' ∉ s.toList) (ht : '#' ∉ t.toList) :
    '#' ∉ (s ++ t).toList := by
  rw [String.toList_append, List.mem_append, not_or]
  exact ⟨hs, ht⟩

theorem hash_not_mem_path {ns path : String} (hns : '#' ∉ ns.toList) (hpath : '#' ∉ path.toList) :
    '#' ∉ ("/apis/batch/v1/namespaces/" ++ ns ++ path).toList :=
  hash_not_mem_append (hash_not_mem_append (by decide) hns) hpath

theorem hash_not_mem_job {ns name : String} (hns : '#' ∉ ns.toList) (hname : '#' ∉ name.toList) :
    '#' ∉ ("/apis/batch/v1/namespaces/" ++ ns ++ "/jobs/" ++ name).toList :=
  hash_not_mem_append (hash_not_mem_path hns (by decide)) hname

/-- The service is asked for in full, whatever is in its name. -/
theorem uri_listing (hns : '#' ∉ settings.namespace_.toList) (serviceId : String) :
    (listing settings serviceId).uri =
      "/apis/batch/v1/namespaces/" ++ settings.namespace_ ++ "/jobs?&labelSelector=" ++
        String.ofList (Text.toForm ("serviceID=" ++ serviceId).toList) := by
  refine untilHash_of_not_mem (hash_not_mem_append (hash_not_mem_path hns (by decide)) ?_)
  rw [String.toList_ofList]
  exact Text.not_mem_toForm rfl (by decide) (by decide) _

/-- The target is the path of the job, if there is no number sign in its name. -/
theorem uri_deletion {name : String} (hns : '#' ∉ settings.namespace_.toList)
    (hname : '#' ∉ name.toList) :
    (deletion settings name).uri =
      "/apis/batch/v1/namespaces/" ++ settings.namespace_ ++ "/jobs/" ++ name ++ "?" :=
  untilHash_of_not_mem (hash_not_mem_append (hash_not_mem_job hns hname) (by decide))

theorem uri_creation (hns : '#' ∉ settings.namespace_.toList) (request : BuildRequest)
    (at_ : Instant) : (creation settings request at_).uri =
      "/apis/batch/v1/namespaces/" ++ settings.namespace_ ++ "/jobs?" :=
  untilHash_of_not_mem (hash_not_mem_path hns (by decide))

/-- The target is the path of another job, if there is a number sign in the name: of the one whose name
ends there. -/
theorem uri_deletion_of_hash {before : String} (after : String)
    (hns : '#' ∉ settings.namespace_.toList) (hname : '#' ∉ before.toList) :
    (deletion settings (before ++ "#" ++ after)).uri =
      "/apis/batch/v1/namespaces/" ++ settings.namespace_ ++ "/jobs/" ++ before := by
  rw [deletion, ← untilHash_append (hash_not_mem_job hns hname) (after ++ "?")]
  simp only [String.append_assoc]

/-- With a number sign in the namespace, no target names a job or jobs at all. -/
theorem uri_of_hash_namespace {before after : String}
    (hns : settings.namespace_ = before ++ "#" ++ after) (hbefore : '#' ∉ before.toList)
    (serviceId name : String) (request : BuildRequest) (at_ : Instant) :
    (listing settings serviceId).uri = "/apis/batch/v1/namespaces/" ++ before ∧
    (deletion settings name).uri = "/apis/batch/v1/namespaces/" ++ before ∧
    (creation settings request at_).uri = "/apis/batch/v1/namespaces/" ++ before := by
  have hcut : ∀ path : String,
      untilHash ("/apis/batch/v1/namespaces/" ++ settings.namespace_ ++ path) =
        "/apis/batch/v1/namespaces/" ++ before := by
    intro path
    rw [hns, ← untilHash_append (hash_not_mem_append (by decide) hbefore) (after ++ path)]
    simp only [String.append_assoc]
  refine ⟨?_, ?_, hcut _⟩
  · rw [listing, String.append_assoc, hcut]
  · rw [deletion, String.append_assoc, String.append_assoc, hcut]

end Targets

theorem collection_job (ns : String) :
    Remote.collection .job ns = "/apis/batch/v1/namespaces/" ++ ns ++ "/jobs" := by
  have hplural : ("/jobs" : String) = "/" ++ "jobs" := rfl
  rw [hplural, ← String.append_assoc]
  rfl

theorem chars_forService (serviceId : String) :
    (Selector.forService serviceId).chars = ("serviceID=" ++ serviceId).toList := by
  have hkey : "serviceID=".toList = "serviceID".toList ++ ['='] := by decide
  show LabelKey.serviceId.text.toList ++ '=' :: serviceId.toList = _
  rw [String.toList_append, hkey, List.append_assoc]
  rfl

theorem onWire_listRequest (settings : Settings) (serviceId : String) :
    onWire (Remote.listRequest .job settings.namespace_ (.forService serviceId)) =
      listing settings serviceId := by
  have hquery : ("/jobs?&labelSelector=" : String) = "/jobs" ++ "?" ++ "&labelSelector=" := rfl
  have hsome : (Selector.forService serviceId).isEmpty = false := rfl
  rw [Remote.listRequest, listing, onWire, sentUri_eq_untilHash, collection_job, chars_forService,
    hsome, hquery]
  simp only [Bool.false_eq_true, if_false, String.append_assoc]

theorem onWire_deleteRequest (settings : Settings) (name : String) :
    onWire (Remote.deleteRequest settings.namespace_ name .foreground) =
      deletion settings name := by
  have hslash : ("/jobs/" : String) = "/jobs" ++ "/" := rfl
  rw [Remote.deleteRequest, deletion, onWire, sentUri_eq_untilHash, collection_job, hslash]
  simp only [String.append_assoc]
  rfl

theorem onWire_createRequest (settings : Settings) (request : BuildRequest) (at_ : Instant) :
    onWire (Remote.createRequest settings.namespace_
      (manifest request (jobName request at_) at_ settings)) = creation settings request at_ := by
  have hmark : ("/jobs?" : String) = "/jobs" ++ "?" := rfl
  rw [Remote.createRequest, creation, onWire, sentUri_eq_untilHash, collection_job, hmark]
  simp only [String.append_assoc]

/-- Can the request for the jobs of a service be sent? The namespace of the settings decides it. -/
def canList (settings : Settings) (serviceId : String) : Except Failure Unit :=
  Remote.sendable (Remote.listRequest .job settings.namespace_ (.forService serviceId))

/-- Can the deletion of a job be sent? -/
def canDelete (settings : Settings) (name : String) : Except Failure Unit :=
  Remote.sendable (Remote.deleteRequest settings.namespace_ name .foreground)

/-- Can the creation of the job of a build be sent? -/
def canCreate (settings : Settings) (request : BuildRequest) (at_ : Instant) :
    Except Failure Unit :=
  Remote.sendable (Remote.createRequest settings.namespace_
    (manifest request (jobName request at_) at_ settings))

/-! ## Label values in requests -/

/-- A character of a label value stands for itself in a path, in a query and in a form. -/
theorem isPlain_of_isLabelInner {c : Char} (h : isLabelInner c = true) :
    Http.isPathChar c = true ∧ Http.isQueryChar c = true ∧ Text.isFormPlain c = true := by
  simp only [isLabelInner, Bool.or_eq_true, beq_iff_eq] at h
  rcases h with ((h | rfl) | rfl) | rfl
  · have hrange := Text.toNat_of_isAlphanum h
    refine ⟨?_, ?_, by simp [Text.isFormPlain, h]⟩
    · simp only [Http.isPathChar, Bool.or_eq_true, Bool.and_eq_true, beq_iff_eq, decide_eq_true_eq]
      omega
    · simp only [Http.isQueryChar, Bool.or_eq_true, Bool.and_eq_true, beq_iff_eq, decide_eq_true_eq]
      omega
  all_goals decide

/-- The equals sign of the selector is encoded, and the label value stands for itself. -/
theorem toForm_forService {serviceId : String} (h : labelFault? serviceId = none) :
    Text.toForm (Selector.forService serviceId).chars =
      "serviceID%3D".toList ++ serviceId.toList := by
  have hkey : Text.toForm "serviceID=".toList = "serviceID%3D".toList := by
    decide +kernel
  have hvalue : Text.toForm serviceId.toList = serviceId.toList :=
    Text.toForm_of_plain fun c hc =>
      (isPlain_of_isLabelInner ((of_labelFault?_eq_none h).2 c hc)).2.2
  rw [chars_forService, String.toList_append, Text.toForm_append, hkey, hvalue]

theorem uri_listRequest (ns : String) {serviceId : String} (h : labelFault? serviceId = none) :
    (Remote.listRequest .job ns (.forService serviceId)).uri =
      "/apis/batch/v1/namespaces/" ++ ns ++ "/jobs?&labelSelector=serviceID%3D" ++ serviceId := by
  have hsome : (Selector.forService serviceId).isEmpty = false := rfl
  have hquery : ("/jobs?&labelSelector=serviceID%3D" : String) =
    "/jobs" ++ "?" ++ "&labelSelector=" ++ "serviceID%3D" := rfl
  rw [Remote.listRequest, collection_job, hsome, toForm_forService h, ← String.toList_append,
    String.ofList_toList, hquery]
  simp only [Bool.false_eq_true, if_false, String.append_assoc]

/-- The jobs of a service can be asked for when it and the namespace are label values. -/
theorem canList_of_labelFault? {settings : Settings} {serviceId : String}
    (hns : labelFault? settings.namespace_ = none) (hservice : labelFault? serviceId = none) :
    canList settings serviceId = .ok () := by
  obtain ⟨hshortNs, hcharsNs⟩ := of_labelFault?_eq_none hns
  obtain ⟨hshort, hchars⟩ := of_labelFault?_eq_none hservice
  have hsize : ("/apis/batch/v1/namespaces/" ++ settings.namespace_ ++
      "/jobs?&labelSelector=serviceID%3D" ++ serviceId).utf8ByteSize ≤ Http.maxTargetOctets := by
    have hfirst : "/apis/batch/v1/namespaces/".utf8ByteSize = 26 := by decide
    have hsecond : "/jobs?&labelSelector=serviceID%3D".utf8ByteSize = 33 := by decide
    simp only [String.utf8ByteSize_append, hfirst, hsecond]
    simp only [maxLabelOctets, Http.maxTargetOctets] at *
    omega
  have hpath : ∀ c ∈ "/apis/batch/v1/namespaces/".toList ++ settings.namespace_.toList ++
      "/jobs".toList, Http.isPathChar c = true := by
    have hfirst : ∀ c ∈ "/apis/batch/v1/namespaces/".toList, Http.isPathChar c = true :=
      List.all_eq_true.1 (by decide)
    have hlast : ∀ c ∈ "/jobs".toList, Http.isPathChar c = true :=
      List.all_eq_true.1 (by decide)
    intro c hc
    simp only [List.mem_append] at hc
    rcases hc with (hc | hc) | hc
    · exact hfirst c hc
    · exact (isPlain_of_isLabelInner (hcharsNs c hc)).1
    · exact hlast c hc
  have hquery : ∀ c ∈ "&labelSelector=serviceID%3D".toList ++ serviceId.toList,
      Http.isQueryChar c = true := by
    have hfirst : ∀ c ∈ "&labelSelector=serviceID%3D".toList, Http.isQueryChar c = true :=
      List.all_eq_true.1 (by decide)
    intro c hc
    rcases List.mem_append.1 hc with hc | hc
    · exact hfirst c hc
    · exact (isPlain_of_isLabelInner (hchars c hc)).2.1
  have htext : ("/apis/batch/v1/namespaces/" ++ settings.namespace_ ++
      "/jobs?&labelSelector=serviceID%3D" ++ serviceId).toList =
        ("/apis/batch/v1/namespaces/".toList ++ settings.namespace_.toList ++ "/jobs".toList) ++
          '?' :: ("&labelSelector=serviceID%3D".toList ++ serviceId.toList) := by
    have hmiddle : "/jobs?&labelSelector=serviceID%3D".toList =
      "/jobs".toList ++ '?' :: "&labelSelector=serviceID%3D".toList := by decide +kernel
    simp only [String.toList_append, hmiddle, List.append_assoc, List.cons_append]
  rw [canList, Remote.sendable, uri_listRequest _ hservice, if_neg (Nat.not_lt_of_le hsize), htext,
    Http.Target.ofPath?_append hpath hquery]
  rfl

end BuildYard.Build
