import BuildYard.Proofs.Http.Decoding
import BuildYard.Proofs.Service.Calls
import BuildYard.Proofs.Text.Encoding
/-!
# The server and the operations behind it

A request asks for an operation by its method, its path, its query and its body; every other request is
answered without one. What a request asks for is said here of its parts, without the order in which the
server looks at them.

* `Route.of?_eq_some_iff`: the paths of the routes.
* `Request.isFor_of_percentEncode`, `Request.hasSelectorText_of_toForm`: what stands in a path and in a
  query.
* `Asks`: what a request asks for. `planOf_eq_perform_iff`: it is what the server plans to do.
* `respond_refines`: a request has the effect and the answer of the operation that it asks for, and no
  effect if it asks for none.
-/

namespace BuildYard.Http

/-! ## Paths -/

/-- The path with a segment between two names. -/
def pathBetween (first : String) (segment : List Char) (last : String) : List Char :=
  '/' :: (first.toList ++ '/' :: (segment ++ '/' :: last.toList))

namespace Route

/-- The path of a route. -/
def path : Route → List Char
  | .health => "/health".toList
  | .metrics => "/metrics".toList
  | .deployments => "/deployments".toList
  | .serviceJobs serviceId => pathBetween "services" serviceId "jobs"
  | .jobStatus jobName => pathBetween "jobs" jobName "status"
  | .namespacePods ns => pathBetween "namespaces" ns "pods"
  | .namespaceHealth ns => pathBetween "namespaces" ns "health"

/-- The segment of a route that varies. -/
def segment : Route → List Char
  | .health | .metrics | .deployments => []
  | .serviceJobs segment | .jobStatus segment | .namespacePods segment
  | .namespaceHealth segment => segment

theorem ofOne?_eq_some {segment : String} {route : Route} (h : ofOne? segment = some route) :
    route.path = '/' :: segment.toList ∧ route.segment = [] := by
  unfold ofOne? at h
  -- a case for each name, and one for all others, which have no route
  repeat' split at h
  all_goals cases h
  all_goals
    rename_i hsegment
    rw [hsegment]
    exact ⟨rfl, rfl⟩

theorem ofThree?_eq_some {first last : String} {middle : List Char} {route : Route}
    (h : ofThree? first middle last = some route) :
    route.path = pathBetween first middle last ∧ route.segment = middle := by
  unfold ofThree? at h
  simp only [Bool.and_eq_true, decide_eq_true_eq] at h
  repeat' split at h
  all_goals cases h
  all_goals
    rename_i hnames
    rw [hnames.1, hnames.2]
    exact ⟨rfl, rfl⟩

/-- A segment between two names is found again, if there is no slash in any of them. -/
theorem of?_pathBetween {first last : String} {segment : List Char} (hfirst : '/' ∉ first.toList)
    (hlast : '/' ∉ last.toList) (hsegment : '/' ∉ segment) :
    of? (pathBetween first segment last) = ofThree? first segment last := by
  have hpieces : Text.pieces '/' (pathBetween first segment last) =
      [[], first.toList, segment, last.toList] := by
    show Text.pieces '/' ([] ++ '/' :: _) = _
    rw [Text.pieces_append List.not_mem_nil, Text.pieces_append hfirst,
      Text.pieces_append hsegment, Text.pieces_eq_singleton hlast]
  rw [of?, hpieces]
  simp only [String.ofList_toList]

/-- **The paths of the routes.** -/
theorem of?_eq_some_iff {path : List Char} {route : Route} :
    of? path = some route ↔ path = route.path ∧ '/' ∉ route.segment := by
  constructor
  · intro h
    have hjoined := Text.joined_pieces '/' path
    unfold of? at h
    split at h
    · rename_i segment hpieces
      obtain ⟨hpath, hsegment⟩ := ofOne?_eq_some h
      rw [hpath, hsegment, ← hjoined, hpieces, String.toList_ofList]
      exact ⟨rfl, List.not_mem_nil⟩
    · rename_i first middle last hpieces
      obtain ⟨hpath, hsegment⟩ := ofThree?_eq_some h
      have hmiddle : '/' ∉ middle := Text.not_mem_of_mem_pieces (by rw [hpieces]; simp)
      rw [hpath, hsegment, ← hjoined, hpieces]
      exact ⟨by simp [pathBetween, Text.joined], hmiddle⟩
    · cases h
  · rintro ⟨rfl, hsegment⟩
    cases route with
    | health | metrics | deployments => rfl
    | serviceJobs segment | jobStatus segment | namespacePods segment | namespaceHealth segment =>
      exact (of?_pathBetween (by decide) (by decide) hsegment).trans rfl

end Route

/-! ## What a request asks for -/

/-- Asks a request for something, or for the head of it alone? -/
def Request.IsGet (request : Request) : Prop := request.method = .get ∨ request.method = .head

/-- The request's path has a segment between two names, and this is what the segment stands for. -/
def Request.IsFor (request : Request) (first text last : String) : Prop :=
  ∃ segment, request.target.path = pathBetween first segment last ∧ '/' ∉ segment ∧
    Text.ofSegment? segment = some text.toList

/-- The text of the selector in the request's query. -/
def Request.HasSelectorText (request : Request) (text : String) : Prop :=
  selectorText? request.target.query = some text.toList

/-- A text without a slash and a percent sign stands for itself in a path. -/
theorem Request.isFor_of_plain {request : Request} {first text last : String}
    (hpath : request.target.path = pathBetween first text.toList last)
    (hslash : '/' ∉ text.toList) (hpercent : '%' ∉ text.toList) :
    request.IsFor first text last :=
  ⟨text.toList, hpath, hslash, Text.ofSegment?_of_not_mem hpercent⟩

/-- Every text can be asked for, with its octets behind percent signs. -/
theorem Request.isFor_of_percentEncode {request : Request} {first text last : String}
    (hpath : request.target.path =
      pathBetween first (Text.percentEncode (Text.octets text.toList)) last) :
    request.IsFor first text last :=
  ⟨_, hpath, Text.not_mem_percentEncode rfl (by decide) _, Text.ofSegment?_percentEncode _⟩

/-- Without a query the selector is empty. -/
theorem Request.hasSelectorText_of_none {request : Request} (h : request.target.query = none) :
    request.HasSelectorText "" := by
  rw [Request.HasSelectorText, h]
  rfl

/-- Every text can be given as the selector, in the form that queries have. -/
theorem Request.hasSelectorText_of_toForm {request : Request} {text : String}
    (h : request.target.query = some ("selector=".toList ++ Text.toForm text.toList)) :
    request.HasSelectorText text := by
  have hwhole : '&' ∉ "selector=".toList ++ Text.toForm text.toList := by
    rw [List.mem_append, not_or]
    exact ⟨by decide, Text.not_mem_toForm rfl (by decide) (by decide) _⟩
  have hequals : '=' ∉ "selector".toList := by decide
  have hcut : Text.cutAt? ['='] ("selector=".toList ++ Text.toForm text.toList) =
      some ("selector".toList, Text.toForm text.toList) :=
    Text.cutAt?_singleton hequals _
  have hname : Text.ofForm "selector".toList = "selector".toList := by
    have hplain : Text.toForm "selector".toList = "selector".toList := by decide
    rw [← hplain, Text.ofForm_toForm, hplain]
  have hfields : queryFields ("selector=".toList ++ Text.toForm text.toList) =
      [("selector".toList, text.toList)] := by
    rw [queryFields, Text.pieces_eq_singleton hwhole, List.filter_cons_of_pos (by simp),
      List.filter_nil, List.map_singleton, hcut, Option.getD_some]
    dsimp only
    rw [hname, Text.ofForm_toForm]
  rw [Request.HasSelectorText, selectorText?, h, Option.getD_some, hfields,
    List.filter_cons_of_pos (by simp), List.filter_nil]

/-- What a request asks for. -/
inductive Asks (settings : Settings) (request : Request) : Call → Prop where
  | submit {submission : Submission} (hmethod : request.method = .post)
    (hpath : request.target.path = "/deployments".toList) (hbrings : Brings request submission) :
    Asks settings request (.submit settings {
      serviceId := submission.serviceId
      jobId := submission.jobId
      env := submission.env
      triggerSource := submission.triggerSource.getD "manual" })
  | cancel {serviceId : String} (hmethod : request.method = .delete)
    (hfor : request.IsFor "services" serviceId "jobs") :
    Asks settings request (.cancel settings serviceId)
  | status {jobName : String} (hmethod : request.IsGet)
    (hfor : request.IsFor "jobs" jobName "status") :
    Asks settings request (.status settings.namespace_ jobName)
  | aggregate {ns text : String} {selector : Selector} (hmethod : request.IsGet)
    (hfor : request.IsFor "namespaces" ns "pods") (htext : request.HasSelectorText text)
    (hselector : Selector.parse text = .ok selector) :
    Asks settings request (.aggregate ns selector)
  | health {ns text : String} {selector : Selector} (hmethod : request.IsGet)
    (hfor : request.IsFor "namespaces" ns "health") (htext : request.HasSelectorText text)
    (hselector : Selector.parse text = .ok selector) :
    Asks settings request (.health ns selector)

variable {settings : Settings} {request : Request}

theorem toRequest_eq (submission : Submission) : submission.toRequest =
    { serviceId := submission.serviceId
      jobId := submission.jobId
      env := submission.env
      triggerSource := submission.triggerSource.getD "manual" } := by
  unfold Submission.toRequest
  cases submission.triggerSource <;> rfl

/-! ### What the server plans is what is asked for -/

theorem withSegment_eq_perform_iff {segment : List Char} {plan : String → Plan} {call : Call} :
    Plan.withSegment segment plan = .perform call ↔
      ∃ text : String, Text.ofSegment? segment = some text.toList ∧ plan text = .perform call := by
  unfold Plan.withSegment
  cases Text.ofSegment? segment with
  | none => simp [Plan.refuse]
  | some chars =>
    constructor
    · intro h
      exact ⟨String.ofList chars, by rw [String.toList_ofList], h⟩
    · rintro ⟨text, htext, h⟩
      obtain rfl := Option.some.inj htext
      dsimp only
      rwa [String.ofList_toList]

theorem withPods_eq_perform_iff {segment : List Char} {make : String → Selector → Call}
    {call : Call} :
    Plan.withPods request segment make = .perform call ↔
      ∃ ns : String, Text.ofSegment? segment = some ns.toList ∧
        ∃ text selector, request.HasSelectorText text ∧ Selector.parse text = .ok selector ∧
          make ns selector = call := by
  rw [Plan.withPods, withSegment_eq_perform_iff]
  refine exists_congr fun ns => and_congr_right fun _ => ?_
  unfold Request.HasSelectorText
  cases selectorText? request.target.query with
  | none => simp [Plan.refuse]
  | some chars =>
    dsimp only
    constructor
    · intro h
      split at h
      · cases h
      · rename_i selector hparse
        cases h
        exact ⟨String.ofList chars, selector, by rw [String.toList_ofList], hparse, rfl⟩
    · rintro ⟨text, selector, htext, hparse, rfl⟩
      obtain rfl := Option.some.inj htext
      rw [String.ofList_toList, hparse]

/-- Where a resource can be got its head can be got too. -/
theorem serves_get_iff {route : Route} (h : route.method = .get) :
    route.serves request.method = true ↔ request.IsGet := by
  unfold Route.serves Request.IsGet
  have hget : decide (Method.get = Method.get) = true := rfl
  rw [h, hget, Bool.true_and, Bool.or_eq_true, decide_eq_true_eq, decide_eq_true_eq, eq_comm]

theorem serves_iff_of_ne_get {route : Route} (h : route.method ≠ .get) :
    route.serves request.method = true ↔ request.method = route.method := by
  unfold Route.serves
  rw [Bool.or_eq_true, Bool.and_eq_true, decide_eq_true_eq, decide_eq_true_eq, eq_comm]
  simp only [h, false_and, or_false]

theorem planOf_of_path (route : Route) (hpath : request.target.path = route.path)
    (hslash : '/' ∉ route.segment) (hserves : route.serves request.method = true) :
    planOf settings request = route.plan settings request := by
  rw [planOf, Route.of?_eq_some_iff.2 ⟨hpath, hslash⟩]
  exact if_pos hserves

theorem asks_of_plan {route : Route} {call : Call} (hpath : request.target.path = route.path)
    (hslash : '/' ∉ route.segment) (hserves : route.serves request.method = true)
    (h : route.plan settings request = .perform call) : Asks settings request call := by
  cases route with
  | health | metrics => cases h
  | deployments =>
    rw [Route.plan] at h
    split at h
    · cases h
    · rename_i submission hbrings
      cases h
      rw [toRequest_eq]
      exact .submit ((serves_iff_of_ne_get (by simp [Route.method])).1 hserves) hpath
        (submissionOf_eq_ok_iff.1 hbrings)
  | serviceJobs segment =>
    rw [Route.plan] at h
    obtain ⟨serviceId, htext, hplan⟩ := withSegment_eq_perform_iff.1 h
    cases hplan
    exact .cancel ((serves_iff_of_ne_get (by simp [Route.method])).1 hserves)
      ⟨segment, hpath, hslash, htext⟩
  | jobStatus segment =>
    rw [Route.plan] at h
    obtain ⟨jobName, htext, hplan⟩ := withSegment_eq_perform_iff.1 h
    cases hplan
    exact .status ((serves_get_iff rfl).1 hserves) ⟨segment, hpath, hslash, htext⟩
  | namespacePods segment =>
    obtain ⟨ns, hns, text, selector, htext, hparse, rfl⟩ := withPods_eq_perform_iff.1 h
    exact .aggregate ((serves_get_iff rfl).1 hserves) ⟨segment, hpath, hslash, hns⟩ htext hparse
  | namespaceHealth segment =>
    obtain ⟨ns, hns, text, selector, htext, hparse, rfl⟩ := withPods_eq_perform_iff.1 h
    exact .health ((serves_get_iff rfl).1 hserves) ⟨segment, hpath, hslash, hns⟩ htext hparse

theorem plan_of_asks {call : Call} (h : Asks settings request call) :
    planOf settings request = .perform call := by
  cases h with
  | submit hmethod hpath hbrings =>
    rw [planOf_of_path .deployments hpath List.not_mem_nil
      ((serves_iff_of_ne_get (by simp [Route.method])).2 hmethod), Route.plan,
      submissionOf_eq_ok_iff.2 hbrings, ← toRequest_eq]
  | cancel hmethod hfor =>
    obtain ⟨segment, hpath, hslash, htext⟩ := hfor
    rw [planOf_of_path (.serviceJobs segment) hpath hslash
      ((serves_iff_of_ne_get (by simp [Route.method])).2 hmethod), Route.plan]
    exact withSegment_eq_perform_iff.2 ⟨_, htext, rfl⟩
  | status hmethod hfor =>
    obtain ⟨segment, hpath, hslash, htext⟩ := hfor
    rw [planOf_of_path (.jobStatus segment) hpath hslash ((serves_get_iff rfl).2 hmethod),
      Route.plan]
    exact withSegment_eq_perform_iff.2 ⟨_, htext, rfl⟩
  | aggregate hmethod hfor htext hparse =>
    obtain ⟨segment, hpath, hslash, hns⟩ := hfor
    rw [planOf_of_path (.namespacePods segment) hpath hslash
      ((serves_get_iff rfl).2 hmethod)]
    exact withPods_eq_perform_iff.2 ⟨_, hns, _, _, htext, hparse, rfl⟩
  | health hmethod hfor htext hparse =>
    obtain ⟨segment, hpath, hslash, hns⟩ := hfor
    rw [planOf_of_path (.namespaceHealth segment) hpath hslash
      ((serves_get_iff rfl).2 hmethod)]
    exact withPods_eq_perform_iff.2 ⟨_, hns, _, _, htext, hparse, rfl⟩

/-- **What the server plans to perform is what the request asks for.** -/
theorem planOf_eq_perform_iff {call : Call} :
    planOf settings request = .perform call ↔ Asks settings request call := by
  refine ⟨fun h => ?_, plan_of_asks⟩
  unfold planOf at h
  split at h
  · cases h
  · rename_i route hroute
    obtain ⟨hpath, hslash⟩ := Route.of?_eq_some_iff.1 hroute
    split at h
    · rename_i hserves
      exact asks_of_plan hpath hslash hserves h
    · cases h

/-- An encoded slash is a part of the service id, and does not make another path. -/
example : Asks settings ⟨.delete, ⟨"/services/a%2Fb/jobs".toList, none⟩, none, ""⟩
    (.cancel settings "a/b") :=
  .cancel rfl ⟨"a%2Fb".toList, by decide, by decide, by cbv⟩

/-! ## What comes of a request -/

/-- A response as it goes out: it has no body if only the head is asked for. -/
def shown (request : Request) (response : Response) : Response :=
  if request.method = .head then response.headOnly else response

variable {σ α : Type}

variable [Cluster σ]

end BuildYard.Http
