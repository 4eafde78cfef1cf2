import Storefront.Api.Route
import Storefront.Proofs.Query.Compilation
import Storefront.Proofs.Search.Bodies
import Storefront.Proofs.Search.Calls

/-!
# What becomes of a search at the backend

A search that reaches the backend sends one request, and what becomes of that request decides the
answer. Four layers have a part in it: the reading of the response, the error of the call, the error
of the search, and the answer over HTTP. Taken together they leave no outcome out, and each has one
class: the backend is unavailable, it refuses the query, or the search is answered.

## Main definitions

* `Backend.Fares`: what becomes of a document at a backend
* `Search.AskedBy`, `Search.Reaches`: the search of a request, and a search that comes to a query
* `Search.IsClassified`: the law of outcomes

## Main results

* `ofOutcome_of_not_isSuccess`: what comes of a status that is no success
* `isRejection_of_request`: a request that cannot be made is not refused
* `isClassified_of_reaches`: every outcome has its class
* `run_eq_backendUnavailable_of_not_modified`: not every status that is no success is a refusal
-/

namespace Storefront

open Http Json

variable {World : Type}

/-! ## Outcomes -/

namespace Execution

variable {body : Json} {className : String}

/-- The execution that comes of an outcome of the request to a URL. -/
def ofOutcome (url : Url) (className : String) (outcome : Outcome) : Except SearchError Execution :=
  ((outcome.read url).mapError .ofBackend).bind fun body => ofBody body className

variable {url : Url} {status : Nat} {octets : List UInt8}

/-- **A status that is no success** refuses the query if it is one of 400 and above, but below 500;
with any other one the backend is unavailable. -/
theorem ofOutcome_of_not_isSuccess (h : ¬ (200 ≤ status ∧ status < 300)) :
    ofOutcome url className (.response status octets) = .error
      (if 400 ≤ status ∧ status < 500 then
        .backendQueryError (CallError.status status (Outcome.bodyText octets)).message
      else .backendUnavailable (CallError.status status (Outcome.bodyText octets)).message) := by
  rw [← SearchError.ofBackend_status, ofOutcome, Outcome.read, Outcome.isSuccess,
    decide_eq_false h]
  rfl

/-- With a success that is no JSON the backend is unavailable. -/
theorem ofOutcome_of_bodyJson?_none (hs : 200 ≤ status ∧ status < 300)
    (hb : Outcome.bodyJson? octets = none) : ofOutcome url className (.response status octets) =
      .error (.backendUnavailable TransportError.undecodable.message) := by
  rw [ofOutcome, Outcome.read, Outcome.isSuccess, decide_eq_true hs, hb]
  rfl

/-- A success that is JSON is read as a body. -/
theorem ofOutcome_of_bodyJson?_some (hs : 200 ≤ status ∧ status < 300)
    (hb : Outcome.bodyJson? octets = some body) :
    ofOutcome url className (.response status octets) = ofBody body className := by
  rw [ofOutcome, Outcome.read_response.2 ⟨decide_eq_true hs, hb⟩]
  rfl

end Execution

/-! ## Requests that cannot be made -/

namespace Http

variable {e : CallError}

/-- What fails in a fold fails in a step. -/
theorem exists_of_foldlM_eq_error {ε α β : Type} {f : β → α → Except ε β} {items : List α}
    {b : β} {error : ε} (h : items.foldlM f b = .error error) :
    ∃ b', ∃ a ∈ items, f b' a = .error error := by
  induction items generalizing b with
  | nil => cases h
  | cons a items ih =>
    rw [List.foldlM_cons] at h
    rcases Except.bind_eq_error_iff.1 h with ha | ⟨b', -, h⟩
    · exact ⟨b, a, List.mem_cons_self, ha⟩
    · obtain ⟨b'', a', hm, ha⟩ := ih h
      exact ⟨b'', a', List.mem_cons_of_mem _ hm, ha⟩

theorem isRejection_of_configuredHeader {entry : String × Json}
    (h : configuredHeader entry = .error e) : e.isRejection = false := by
  unfold configuredHeader at h
  split at h
  · split at h
    · obtain rfl := Except.error.inj h
      rfl
    · split at h
      · obtain rfl := Except.error.inj h
        rfl
      · cases h
  · obtain rfl := Except.error.inj h
    rfl

theorem isRejection_of_authHeaders {apiKey : Option String} {defaults : Table Json}
    (h : authHeaders apiKey defaults = .error e) : e.isRejection = false := by
  rcases Except.bind_eq_error_iff.1 h with hk | ⟨headers, -, h⟩
  · -- the key is no value of a header
    unfold bearer at hk
    split at hk
    · cases hk
    · split at hk
      · cases hk
      · obtain rfl := Except.error.inj hk
        rfl
  · -- a default header is none
    obtain ⟨_, entry, -, he⟩ := exists_of_foldlM_eq_error h
    exact isRejection_of_configuredHeader (Except.map_eq_error_iff.1 he)

/-- **What keeps a request from being made is no refusal.** -/
theorem isRejection_of_request {endpoint : Endpoint} {method : Method} {body : Option Json}
    (h : endpoint.request method body = .error e) : e.isRejection = false := by
  rcases Except.bind_eq_error_iff.1 h with hh | ⟨headers, -, h⟩
  · exact isRejection_of_authHeaders hh
  · rcases Except.bind_eq_error_iff.1 h with hu | ⟨url, -, h⟩
    · -- Without a usable URL the error is one of the transport.
      cases hx : endpoint.url with
      | ok url =>
        rw [hx] at hu
        cases hu
      | error error =>
        rw [hx] at hu
        obtain rfl := Except.error.inj hu
        rfl
    · cases h

end Http

/-! ## Queries at the backend -/

namespace Backend

variable {transport : Transport (StateM World)} {b : Backend} {query : CompiledQuery}
  {w : World}

/-- The request that runs a document. -/
def request (b : Backend) (document : String) : Except CallError Http.Request :=
  (b.endpoint "/v1/graphql").request .post (some (.object [("query", .text document)]))

/-- **What becomes of a document at a backend**, from one state of the world to another. -/
inductive Fares (transport : Transport (StateM World)) (b : Backend) (document : String) :
    World → Except CallError Outcome → World → Prop
  /-- No request can be made of it. -/
  | unsent {e : CallError} (h : b.request document = .error e) (w : World) :
      Fares transport b document w (.error e) w
  /-- The request is carried. -/
  | sent {request : Http.Request} {outcome : Outcome} {w after : World}
      (h : b.request document = .ok request) (ho : (transport request).run w = (outcome, after)) :
      Fares transport b document w (.ok outcome) after

/-- A query of which no request can be made finds the backend unavailable. -/
theorem execute_run_of_unsent (transport : Transport (StateM World)) {e : CallError}
    (h : b.request query.text = .error e) (w : World) :
    ((Collaborators.overHttp transport).execute b query).run w =
      (.error (.backendUnavailable e.message), w) := by
  have hr : (b.run transport query.text).run w = (.error e, w) := by
    unfold run Endpoint.call
    unfold request at h
    rw [h]
    rfl
  have he : SearchError.ofBackend e = .backendUnavailable e.message := by
    rw [SearchError.ofBackend, isRejection_of_request h]
    rfl
  simp only [Collaborators.overHttp, run_bind, hr, ← he]
  rfl

/-- The execution of a query whose request is carried is that of the outcome. -/
theorem execute_run_of_sent {request : Http.Request} {outcome : Outcome} {after : World}
    (h : b.request query.text = .ok request) (ho : (transport request).run w = (outcome, after)) :
    ((Collaborators.overHttp transport).execute b query).run w =
      (Execution.ofOutcome request.url query.className outcome, after) := by
  have hr : (b.run transport query.text).run w = (outcome.read request.url, after) := by
    unfold run Endpoint.call
    unfold Backend.request at h
    simp only [h, run_bind, ho]
    rfl
  simp only [Collaborators.overHttp, run_bind, hr]
  rfl

end Backend

/-! ## Searches that reach the backend -/

/-- The vector of a plan is found along its course. -/
theorem Service.Embeds.queryVector_run {s : Service} {c : Collaborators (StateM World)}
    {plan : Plan} {calls : List Call} {vector : Except SearchError (Option (List Single))}
    {w after : World} (h : s.Embeds c plan w calls vector after) :
    (s.queryVector c plan).run w = (vector, after) := by
  cases h with
  | skipped h =>
    simp only [queryVector, h]
    rfl
  | asked h ha =>
    simp only [queryVector, h, run_bind, ha]
    rfl

theorem SearchResponse.get?_errors (r : SearchResponse) :
    r.encode.get? "errors" = some (.array (r.errors.map .text)) := by
  unfold encode
  cases r.constraints <;> simp [Json.get?_object_cons]

namespace Search

variable {s : Service} {c : Collaborators (StateM World)} {transport : Transport (StateM World)}
  {q : Search} {r : Api.Request} {query : CompiledQuery} {w between after : World}

/-- **The search that a request over HTTP asks for.** -/
inductive AskedBy (r : Api.Request) : Search → Prop
  /-- One as a shopper asks for it. -/
  | shopper {q : SearchRequest} (hp : Api.Route.ofPath? r.path = some .search)
      (hm : r.method = "POST")
      (hb : Api.readBody SearchRequest.decode r.contentType r.body = .ok q) : AskedBy r (.shopper q)
  /-- One that names its mode and its filters. -/
  | raw {q : RawSearchRequest} (hp : Api.Route.ofPath? r.path = some .searchRaw)
      (hm : r.method = "POST")
      (hb : Api.readBody RawSearchRequest.decode r.contentType r.body = .ok q) : AskedBy r (.raw q)

/-- The answer to a request is the one to the search that it asks for. -/
theorem AskedBy.answer_run (h : q.AskedBy r) (s : Service) (c : Collaborators (StateM World))
    (w : World) : (Api.answer s c r).run w =
      (.ofResult SearchResponse.encode ((q.run s c).run w).1, ((q.run s c).run w).2) := by
  cases h with
  | shopper hp hm hb =>
    simp only [Api.answer, hp, hm, Api.Route.takes, Api.Route.serve, Api.withBody, hb]
    rfl
  | raw hp hm hb =>
    simp only [Api.answer, hp, hm, Api.Route.takes, Api.Route.serve, Api.withBody, hb]
    rfl

/-- **A search that reaches the backend** from a state of the world: it has a plan, and its vector,
if one is wanted, leads to a query and to the state in which the query is run. -/
inductive Reaches (s : Service) (c : Collaborators (StateM World)) (q : Search) (w : World) :
    CompiledQuery → World → Prop
  /-- The plan has a query. -/
  | intro {plan : Plan} {calls : List Call} {vector : Except SearchError (Option (List Single))}
      {query : CompiledQuery} {between : World} (hp : q.plan s = .ok plan)
      (hv : s.Embeds c plan w calls vector between)
      (hq : vector.bind (s.compilePlan plan q.limit) = .ok query) : Reaches s c q w query between

/-- The query of a search that reaches the backend is one for the configured class. -/
theorem Reaches.className_eq (h : q.Reaches s c w query between) :
    query.className = s.config.backend.className := by
  cases h with
  | intro hp hv hq =>
    rename_i vector
    cases vector with
    | error e => cases hq
    | ok vector =>
      obtain ⟨-, _, -, rfl⟩ := compile_eq_ok_iff.1 hq
      rfl

/-- **A search that reaches the backend** ends as its query does, and answers with what the query
has brought. -/
theorem Reaches.run_eq (h : q.Reaches s c w query between) : ∃ plan, (q.run s c).run w =
    (((c.execute s.config.backend query).run between).1.map
        (s.respond plan (q.constraints s) query),
      ((c.execute s.config.backend query).run between).2) := by
  cases h with
  | intro hp hv hq =>
    rename_i plan _ _
    refine ⟨plan, ?_⟩
    rw [Search.run_eq, hp]
    simp only [Service.carryOut, run_bind, hv.queryVector_run, hq]
    rfl

/-! ### The law of outcomes -/

/-- **The backend is unavailable.** -/
def IsUnavailable (result : Except SearchError SearchResponse) (answer : Api.Answer) : Prop :=
  ∃ detail, result = .error (.backendUnavailable detail) ∧
    answer = .failure 502 "backend_unavailable" ("Backend unavailable: " ++ detail)

/-- **The query is refused**, or what it has brought has the wrong form. -/
def IsRefused (result : Except SearchError SearchResponse) (answer : Api.Answer) : Prop :=
  ∃ detail, result = .error (.backendQueryError detail) ∧
    answer = .failure 502 "backend_query_error" ("Backend query error: " ++ detail)

/-- **The search is answered**, and its answer shows the errors that the body lists. -/
def IsAnswered (body : Json) (result : Except SearchError SearchResponse) (answer : Api.Answer) :
    Prop :=
  ∃ response, result = .ok response ∧ answer = { status := 200, body := some response.encode } ∧
    response.errors = queryErrors body ∧
    ∀ errors, body.get? "errors" = some (.array errors) →
      response.encode.get? "errors" = some (.array (errors.map fun e => .text (queryError e)))

/-- **Every outcome has its class.** -/
structure IsClassified (className : String) (fate : Except CallError Outcome)
    (result : Except SearchError SearchResponse) (answer : Api.Answer) : Prop where
  /-- Without a request the backend is unavailable. -/
  unsent : ∀ e, fate = .error e → IsUnavailable result answer
  /-- Likewise if nothing answers. -/
  unreachable : fate = .ok .unreachable → IsUnavailable result answer
  /-- A status of 400 and above, but below 500, refuses the query. -/
  refused : ∀ status octets, fate = .ok (.response status octets) → 400 ≤ status → status < 500 →
    IsRefused result answer
  /-- With every other status that is no success the backend is unavailable. -/
  unsuccessful : ∀ status octets, fate = .ok (.response status octets) →
    ¬ (200 ≤ status ∧ status < 300) → ¬ (400 ≤ status ∧ status < 500) →
    IsUnavailable result answer
  /-- Likewise with a success that is no JSON. -/
  undecodable : ∀ status octets, fate = .ok (.response status octets) → 200 ≤ status →
    status < 300 → Outcome.bodyJson? octets = none → IsUnavailable result answer
  /-- A success that is JSON and cannot be read is an error of the query. -/
  unreadable : ∀ status octets body, fate = .ok (.response status octets) → 200 ≤ status →
    status < 300 → Outcome.bodyJson? octets = some body →
    ¬ Execution.IsReadable body className → IsRefused result answer
  /-- Every other success is answered. -/
  answered : ∀ status octets body, fate = .ok (.response status octets) → 200 ≤ status →
    status < 300 → Outcome.bodyJson? octets = some body →
    Execution.IsReadable body className → IsAnswered body result answer

variable {className : String} {execution : Except SearchError Execution}
  {respond : Execution → SearchResponse}

theorem isUnavailable_of_execution {detail : String}
    (h : execution = .error (.backendUnavailable detail)) :
    IsUnavailable (execution.map respond)
      (.ofResult SearchResponse.encode (execution.map respond)) := by
  subst h
  exact ⟨detail, rfl, rfl⟩

theorem isRefused_of_execution {detail : String}
    (h : execution = .error (.backendQueryError detail)) :
    IsRefused (execution.map respond)
      (.ofResult SearchResponse.encode (execution.map respond)) := by
  subst h
  exact ⟨detail, rfl, rfl⟩

theorem isAnswered_of_execution {body : Json} {records : List RankedRecord}
    (hr : ∀ x, (respond x).errors = x.rawErrors)
    (h : execution = .ok { records, rawErrors := queryErrors body }) :
    IsAnswered body (execution.map respond)
      (.ofResult SearchResponse.encode (execution.map respond)) := by
  subst h
  refine ⟨_, rfl, rfl, hr _, ?_⟩
  intro errors he
  have hq : queryErrors body = errors.map queryError := by
    rw [queryErrors, he]
    rfl
  rw [SearchResponse.get?_errors, hr]
  show some (Json.array ((queryErrors body).map .text)) = _
  rw [hq, List.map_map]
  rfl

/-- A query of which no request can be made has its class. -/
theorem isClassified_unsent (e : CallError)
    (h : execution = .error (.backendUnavailable e.message)) :
    IsClassified className (.error e) (execution.map respond)
      (.ofResult SearchResponse.encode (execution.map respond)) where
  unsent _ _ := isUnavailable_of_execution h
  unreachable hf := by cases hf
  refused _ _ hf := by cases hf
  unsuccessful _ _ hf := by cases hf
  undecodable _ _ hf := by cases hf
  unreadable _ _ _ hf := by cases hf
  answered _ _ _ hf := by cases hf

/-- **Every outcome of a request has its class.** -/
theorem isClassified_ofOutcome (hr : ∀ x, (respond x).errors = x.rawErrors) {url : Url}
    {outcome : Outcome} (h : execution = Execution.ofOutcome url className outcome) :
    IsClassified className (.ok outcome) (execution.map respond)
      (.ofResult SearchResponse.encode (execution.map respond)) where
  -- In each case the outcome takes one way through the reading, at whose end stands its class.
  unsent e hf := by cases hf
  unreachable hf := by
    obtain rfl := Except.ok.inj hf
    exact isUnavailable_of_execution h
  refused status octets hf hl hu := by
    obtain rfl := Except.ok.inj hf
    rw [Execution.ofOutcome_of_not_isSuccess (by omega), if_pos ⟨hl, hu⟩] at h
    exact isRefused_of_execution h
  unsuccessful status octets hf hs hc := by
    obtain rfl := Except.ok.inj hf
    rw [Execution.ofOutcome_of_not_isSuccess hs, if_neg hc] at h
    exact isUnavailable_of_execution h
  undecodable status octets hf hl hu hb := by
    obtain rfl := Except.ok.inj hf
    rw [Execution.ofOutcome_of_bodyJson?_none ⟨hl, hu⟩ hb] at h
    exact isUnavailable_of_execution h
  unreadable status octets body hf hl hu hb hn := by
    obtain rfl := Except.ok.inj hf
    obtain ⟨detail, hd⟩ := Execution.exists_ofBody_of_not_isReadable hn
    rw [Execution.ofOutcome_of_bodyJson?_some ⟨hl, hu⟩ hb, hd] at h
    exact isRefused_of_execution h
  answered status octets body hf hl hu hb hn := by
    obtain rfl := Except.ok.inj hf
    obtain ⟨records, hd⟩ := Execution.exists_ofBody_of_isReadable hn
    rw [Execution.ofOutcome_of_bodyJson?_some ⟨hl, hu⟩ hb, hd] at h
    exact isAnswered_of_execution hr h

/-- **The outcome of every search that reaches the backend has its class**, whatever carries its
request and whatever comes of it. -/
theorem isClassified_of_reaches (ha : q.AskedBy r)
    (hr : q.Reaches s (.overHttp transport) w query between) :
    ∃ fate after, s.config.backend.Fares transport query.text between fate after ∧
      ∃ result answer, (q.run s (.overHttp transport)).run w = (result, after) ∧
        (Api.answer s (.overHttp transport) r).run w = (answer, after) ∧
        IsClassified s.config.backend.className fate result answer := by
  -- The search ends as its query does, and the answer is made of its result.
  obtain ⟨plan, hrun⟩ := hr.run_eq
  have hans := ha.answer_run s (.overHttp transport) w
  cases hreq : s.config.backend.request query.text with
  | error e =>
    have hx := Backend.execute_run_of_unsent transport hreq between
    rw [hx] at hrun
    rw [hrun] at hans
    exact ⟨.error e, between, .unsent hreq between, _, _, hrun, hans, isClassified_unsent e rfl⟩
  | ok request =>
    cases ho : (transport request).run between with
    | mk outcome after =>
      have hx := Backend.execute_run_of_sent hreq ho
      rw [hx] at hrun
      rw [hrun] at hans
      refine ⟨.ok outcome, after, .sent hreq ho, _, _, hrun, hans, ?_⟩
      rw [hr.className_eq]
      exact isClassified_ofOutcome (fun _ => rfl) rfl

/-- The errors that a success lists are shown, and the missing rows are no error. -/
theorem isClassified_of_listed_errors :
    let s : Service :=
      { config := { server := { httpBind := "" }, backend := { url := "http://b" } }
        extractor := .ofVocabulary .standard }
    let transport : Transport (StateM Nat) := fun _ n =>
      (.response 200 (r#"{"errors":["slow"]}"#.toList.map fun c => c.toNat.toUInt8), n + 1)
    let r : Api.Request :=
      { method := "POST"
        target := "/v1/search/raw"
        contentType := some "application/json"
        body := r#"{"query":"shoes","mode":"bm25"}"# }
    let q : Search := .raw { query := "shoes", mode := "bm25", filters := {}, limit := none }
    let query : CompiledQuery :=
      { className := "Product", mode := .lexical, search := .bm25 "shoes", filter := none,
        limit := 12 }
    q.AskedBy r ∧ q.Reaches s (.overHttp transport) 0 query 0 ∧
      ∃ fate after, s.config.backend.Fares transport query.text 0 fate after ∧
        ∃ result answer, (q.run s (.overHttp transport)).run 0 = (result, after) ∧
          (Api.answer s (.overHttp transport) r).run 0 = (answer, after) ∧
          IsClassified s.config.backend.className fate result answer := by
  intro s transport r q query
  have ha : q.AskedBy r := .raw (by decide +kernel) rfl (by decide +kernel)
  have hr : q.Reaches s (.overHttp transport) 0 query 0 := .intro rfl (.skipped rfl 0) rfl
  exact ⟨ha, hr, isClassified_of_reaches ha hr⟩

/-- **A status that is no success need not refuse the query**: one that says that nothing was
modified is below those that do. -/
theorem run_eq_backendUnavailable_of_not_modified :
    let s : Service :=
      { config := { server := { httpBind := "" }, backend := { url := "http://b" } }
        extractor := .ofVocabulary .standard }
    let transport : Transport (StateM Unit) := fun _ => pure (.response 304 [])
    let q : Search := .raw { query := "shoes", mode := "bm25", filters := {}, limit := none }
    let query : CompiledQuery :=
      { className := "Product", mode := .lexical, search := .bm25 "shoes", filter := none,
        limit := 12 }
    q.Reaches s (.overHttp transport) () query () ∧
      s.config.backend.Fares transport query.text () (.ok (.response 304 [])) () ∧
      Outcome.isSuccess 304 = false ∧
      ((q.run s (.overHttp transport)).run ()).1 =
        .error (.backendUnavailable "Upstream returned HTTP 304: ") ∧
      ∀ answer, ¬ IsRefused ((q.run s (.overHttp transport)).run ()).1 answer := by
  intro s transport q query
  have hr : q.Reaches s (.overHttp transport) () query () := .intro rfl (.skipped rfl ()) rfl
  have hs : (s.config.backend.request query.text).toBool = true := by decide +kernel
  cases hreq : s.config.backend.request query.text with
  | error e =>
    rw [hreq] at hs
    cases hs
  | ok request =>
    have he : ((q.run s (.overHttp transport)).run ()).1 =
        .error (.backendUnavailable "Upstream returned HTTP 304: ") := by
      have hm : (CallError.status 304 (Outcome.bodyText [])).message =
          "Upstream returned HTTP 304: " := by decide +kernel
      obtain ⟨plan, hrun⟩ := hr.run_eq
      -- The status is no success, and none of those that refuse.
      rw [hrun, Backend.execute_run_of_sent hreq rfl,
        Execution.ofOutcome_of_not_isSuccess (by decide), if_neg (by decide), hm]
      rfl
    refine ⟨hr, .sent hreq rfl, by decide, he, ?_⟩
    rintro answer ⟨detail, hd, -⟩
    cases he.symm.trans hd

end Search

end Storefront
