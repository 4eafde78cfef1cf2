import Mathlib.Data.List.Basic
import Storefront.Api.Body

/-!
# The calls of a search

A search calls what embeds texts at most once, and then what runs queries at most once. Which calls
it makes, in which order, and what becomes of their answers is seen from a record: the collaborators
are wrapped so that every call is written down with its answer. They may answer anything, and their
answers may depend on a state of the world, which they may change.

## Main definitions

* `Call`, `Collaborators.recorded`: a call with its answer, and collaborators that keep a record
* `Search`, `Search.run`, `Search.plan`: a search of either kind, its run, and its plan
* `Service.Embeds`, `Service.Course`: the calls of the two stages of a plan with what they lead to
* `Search.IsOrderly`: the law of the calls of a search

## Main results

* `exists_embeds`, `exists_course`: every run of a stage follows its course
* `Course.embeddings_eq`, `Course.executions_eq`: which calls a course has
* `Course.pairwise_order`, `Course.pairwise_failure`: in which order it has them
* `Course.eq_error_iff`: when it fails, and with what
* `isOrderly_run`: every search is orderly
-/

namespace Storefront

variable {m : Type → Type} {World : Type}

/-! ## Records -/

/-- **A call to a collaborator** with its answer. -/
inductive Call where
  /-- A text was embedded. -/
  | embedding (service : EmbeddingService) (text : String)
    (answer : Except SearchError (List Single))
  /-- A query was run. -/
  | execution (backend : Backend) (query : CompiledQuery) (answer : Except SearchError Execution)
  /-- A backend was asked about itself. -/
  | metadata (backend : Backend) (answer : Except SearchError Json)

namespace Call

/-- Who embedded which text. -/
def embedding? : Call → Option (EmbeddingService × String)
  | .embedding service text _ => some (service, text)
  | _ => none

/-- Who ran which query. -/
def execution? : Call → Option (Backend × CompiledQuery)
  | .execution backend query _ => some (backend, query)
  | _ => none

/-- The error of a call that failed. -/
def failure? : Call → Option SearchError
  | .embedding _ _ (.error e) | .execution _ _ (.error e) | .metadata _ (.error e) => some e
  | _ => none

/-- The vector that calls have led to: none if nothing was embedded. -/
def vector : List Call → Except SearchError (Option (List Single))
  | [] => .ok none
  | .embedding _ _ answer :: _ => answer.map some
  | _ :: calls => vector calls

/-- What runs queries adds nothing to the vector. -/
theorem vector_append_execution (calls : List Call) (backend : Backend) (query : CompiledQuery)
    (answer : Except SearchError Execution) :
    vector (calls ++ [.execution backend query answer]) = vector calls := by
  induction calls with
  | nil => rfl
  | cons call calls ih =>
    cases call with
    | embedding => rfl
    | execution => exact ih
    | metadata => exact ih

end Call

theorem Except.bind_eq_error_iff {ε α β : Type} {x : Except ε α} {f : α → Except ε β} {e : ε} :
    x.bind f = .error e ↔ x = .error e ∨ ∃ a, x = .ok a ∧ f a = .error e := by
  cases x <;> simp [Except.bind]

theorem Except.map_eq_error_iff {ε α β : Type} {x : Except ε α} {f : α → β} {e : ε} :
    x.map f = .error e ↔ x = .error e := by
  cases x <;> simp [Except.map]

/-- A call whose answer is put at the end of the record. -/
def record [Monad m] {α : Type} (call : m α) (entry : α → Call) : StateT (List Call) m α := do
  let answer ← call
  modify (· ++ [entry answer])
  return answer

/-- **Collaborators that keep a record** of every call. -/
def Collaborators.recorded [Monad m] (c : Collaborators m) :
    Collaborators (StateT (List Call) m) where
  embed service text := record (c.embed service text) (.embedding service text)
  execute backend query := record (c.execute backend query) (.execution backend query)
  metadata backend := record (c.metadata backend) (.metadata backend)

theorem run_bind {α β : Type} (x : StateM World α) (f : α → StateM World β) (w : World) :
    (x >>= f).run w = (f (x.run w).1).run (x.run w).2 :=
  rfl

theorem run_run_bind {α β : Type} (x : StateT (List Call) (StateM World) α)
    (f : α → StateT (List Call) (StateM World) β) (past : List Call) (w : World) :
    ((x >>= f).run past).run w =
      ((f ((x.run past).run w).1.1).run ((x.run past).run w).1.2).run ((x.run past).run w).2 :=
  rfl

theorem run_record {α : Type} (call : StateM World α) (entry : α → Call) (past : List Call)
    (w : World) :
    ((record call entry).run past).run w =
      (((call.run w).1, past ++ [entry (call.run w).1]), (call.run w).2) :=
  rfl

/-! ## Searches -/

/-- A search of either kind. -/
inductive Search where
  /-- One as a shopper asks for it. -/
  | shopper (r : SearchRequest)
  /-- One that names its mode and its filters. -/
  | raw (r : RawSearchRequest)

namespace Search

/-- **The run of a search.** -/
def run [Monad m] (s : Service) (c : Collaborators m) :
    Search → m (Except SearchError SearchResponse)
  | .shopper r => s.search c r
  | .raw r => s.searchRaw c r

/-- **The plan of a search**, unless it names a mode that is none. -/
def plan (s : Service) : Search → Except SearchError Plan
  | .shopper r => .ok (.make r.query (s.extractor.extract r.query) r.toggle)
  | .raw r => ((Mode.parse r.mode).mapError .ofUnknownMode).map fun mode =>
      { searchText := r.query, mode, filters := r.filters }

/-- How many records are wanted. -/
def limit : Search → Option Nat
  | .shopper r => r.limit
  | .raw r => r.limit

/-- What is extracted: nothing from a search that names its filters. -/
def constraints (s : Service) : Search → Option Constraints
  | .shopper r => some (s.extractor.extract r.query)
  | .raw _ => none

/-- A search carries out its plan, if it has one. -/
theorem run_eq [Monad m] (s : Service) (c : Collaborators m) (q : Search) :
    q.run s c = match q.plan s with
      | .error e => pure (.error e)
      | .ok plan => s.carryOut c plan q.limit (q.constraints s) := by
  cases q with
  | shopper r => rfl
  | raw r =>
    simp only [run, plan, Service.searchRaw]
    cases Mode.parse r.mode <;> rfl

end Search

/-! ## Courses -/

namespace Service

variable (s : Service) (c : Collaborators (StateM World)) (plan : Plan) (limit : Option Nat)
  (constraints : Option Constraints)

/-- **The calls that lead from one state of the world to the vector of a plan** and to another
state. -/
inductive Embeds : World → List Call → Except SearchError (Option (List Single)) → World → Prop
  /-- Nothing is embedded. -/
  | skipped (h : s.embedder? plan = none) (w : World) : Embeds w [] (.ok none) w
  /-- The search text is embedded. -/
  | asked {service : EmbeddingService} {answer : Except SearchError (List Single)} {w after : World}
      (h : s.embedder? plan = some service)
      (ha : (c.embed service plan.searchText).run w = (answer, after)) :
      Embeds w [.embedding service plan.searchText answer] (answer.map some) after

/-- **The calls that lead from one state of the world to the result of a plan** and to another
state. -/
inductive Course : World → List Call → Except SearchError SearchResponse → World → Prop
  /-- Without a query the search ends. -/
  | stopped {calls : List Call} {vector : Except SearchError (Option (List Single))}
      {e : SearchError} {w after : World} (hv : s.Embeds c plan w calls vector after)
      (hq : vector.bind (s.compilePlan plan limit) = .error e) : Course w calls (.error e) after
  /-- The query is run. -/
  | ran {calls : List Call} {vector : Except SearchError (Option (List Single))}
      {query : CompiledQuery} {answer : Except SearchError Execution} {w between after : World}
      (hv : s.Embeds c plan w calls vector between)
      (hq : vector.bind (s.compilePlan plan limit) = .ok query)
      (ha : (c.execute s.config.backend query).run between = (answer, after)) :
      Course w (calls ++ [.execution s.config.backend query answer])
        (answer.map (s.respond plan constraints query)) after

variable {s c plan limit constraints} {calls : List Call}
  {result : Except SearchError SearchResponse} {w after : World}

/-- **Finding the vector of a plan follows its course**, and keeping a record changes neither the
vector nor the world. -/
theorem exists_embeds (s : Service) (c : Collaborators (StateM World)) (plan : Plan)
    (past : List Call) (w : World) :
    ∃ calls vector after, s.Embeds c plan w calls vector after ∧
      (s.queryVector c plan).run w = (vector, after) ∧
      ((s.queryVector c.recorded plan).run past).run w = ((vector, past ++ calls), after) := by
  cases h : s.embedder? plan with
  | none =>
    refine ⟨[], .ok none, w, .skipped h w, ?_, ?_⟩
    · simp only [queryVector, h]
      rfl
    · simp only [queryVector, h, List.append_nil]
      rfl
  | some service =>
    cases ha : (c.embed service plan.searchText).run w with
    | mk answer after =>
      refine ⟨_, _, after, .asked h ha, ?_, ?_⟩
      · simp only [queryVector, h, run_bind, ha]
        rfl
      · simp only [queryVector, h, Collaborators.recorded, run_run_bind, run_record, ha]
        rfl

/-- **A plan is carried out along its course**, and keeping a record changes neither the result
nor the world. -/
theorem exists_course (s : Service) (c : Collaborators (StateM World)) (plan : Plan)
    (limit : Option Nat) (constraints : Option Constraints) (past : List Call) (w : World) :
    ∃ calls result after, s.Course c plan limit constraints w calls result after ∧
      (s.carryOut c plan limit constraints).run w = (result, after) ∧
      ((s.carryOut c.recorded plan limit constraints).run past).run w =
        ((result, past ++ calls), after) := by
  obtain ⟨calls, vector, between, hv, h, hr⟩ := exists_embeds s c plan past w
  -- Without a vector or a query nothing is run.
  cases hq : vector.bind (s.compilePlan plan limit) with
  | error e =>
    refine ⟨calls, .error e, between, .stopped hv hq, ?_, ?_⟩
    · simp only [carryOut, run_bind, h, hq]
      rfl
    · simp only [carryOut, run_run_bind, hr, hq]
      rfl
  | ok query =>
    cases ha : (c.execute s.config.backend query).run between with
    | mk answer after =>
      refine ⟨_, _, after, .ran hv hq ha, ?_, ?_⟩
      · simp only [carryOut, run_bind, h, hq, ha]
        rfl
      · rw [← List.append_assoc]
        simp only [carryOut, run_run_bind, hr, hq]
        simp only [Collaborators.recorded, run_record, ha]
        rfl

/-! ### What a course says -/

theorem embedder?_eq_some_iff {service : EmbeddingService} : s.embedder? plan = some service ↔
    plan.mode ≠ .lexical ∧ Text.isBlankText plan.searchText = false ∧
      s.config.embedding = some service := by
  unfold embedder?
  cases plan.mode <;> cases Text.isBlankText plan.searchText <;> simp [Mode.needsEmbedding]

theorem embedder?_eq_none_iff : s.embedder? plan = none ↔
    plan.mode = .lexical ∨ Text.isBlankText plan.searchText = true ∨
      s.config.embedding = none := by
  unfold embedder?
  cases plan.mode <;> cases Text.isBlankText plan.searchText <;> simp [Mode.needsEmbedding]

namespace Embeds

variable {vector : Except SearchError (Option (List Single))}

theorem vector_eq (h : s.Embeds c plan w calls vector after) : Call.vector calls = vector := by
  cases h with
  | skipped h => rfl
  | asked h ha => rfl

/-- The search text is embedded once if there is what embeds it. -/
theorem embeddings_eq (h : s.Embeds c plan w calls vector after) :
    calls.filterMap Call.embedding? =
      ((s.embedder? plan).map fun service => (service, plan.searchText)).toList := by
  cases h with
  | skipped h => simp [h]
  | asked h ha => simp [h, Call.embedding?]

/-- There is at most one call. -/
theorem pairwise (h : s.Embeds c plan w calls vector after) (R : Call → Call → Prop) :
    calls.Pairwise R := by
  cases h with
  | skipped h => exact .nil
  | asked h ha => exact List.pairwise_singleton _ _

theorem isSome_embedding?_of_mem (h : s.Embeds c plan w calls vector after) {call : Call}
    (hc : call ∈ calls) : call.embedding?.isSome := by
  cases h with
  | skipped h => cases hc
  | asked h ha =>
    obtain rfl := List.mem_singleton.1 hc
    rfl

theorem executions_eq_nil (h : s.Embeds c plan w calls vector after) :
    calls.filterMap Call.execution? = [] := by
  cases h with
  | skipped h => rfl
  | asked h ha => rfl

/-- The errors of the calls are the errors of the vector. -/
theorem exists_failure_iff (h : s.Embeds c plan w calls vector after) {e : SearchError} :
    (∃ call ∈ calls, call.failure? = some e) ↔ vector = .error e := by
  cases h with
  | skipped h => simp
  | asked h ha =>
    rename_i answer
    cases answer <;> simp [Call.failure?, Except.map]

/-- If there is a vector, or none is wanted, no call has failed. -/
theorem failure?_eq_none_of_mem (h : s.Embeds c plan w calls vector after)
    (hv : ∀ e, vector ≠ .error e) {call : Call} (hc : call ∈ calls) : call.failure? = none := by
  refine Option.eq_none_iff_forall_ne_some.2 fun e he => ?_
  exact hv e (h.exists_failure_iff.1 ⟨call, hc, he⟩)

end Embeds

namespace Course

/-- **The search text is embedded once if there is what embeds it.** -/
theorem embeddings_eq (h : s.Course c plan limit constraints w calls result after) :
    calls.filterMap Call.embedding? =
      ((s.embedder? plan).map fun service => (service, plan.searchText)).toList := by
  cases h with
  | stopped hv hq => exact hv.embeddings_eq
  | ran hv hq ha =>
    rw [List.filterMap_append, hv.embeddings_eq]
    exact List.append_nil _

/-- **The query is run once if there is one.** -/
theorem executions_eq (h : s.Course c plan limit constraints w calls result after) :
    calls.filterMap Call.execution? =
      (((Call.vector calls).bind (s.compilePlan plan limit)).toOption.map
        fun query => (s.config.backend, query)).toList := by
  cases h with
  | stopped hv hq =>
    rw [hv.vector_eq, hq]
    exact hv.executions_eq_nil
  | ran hv hq ha =>
    rw [Call.vector_append_execution, hv.vector_eq, hq, List.filterMap_append,
      hv.executions_eq_nil]
    rfl

/-- What runs queries is called after what embeds texts, and nothing is called again. -/
theorem pairwise_order (h : s.Course c plan limit constraints w calls result after) :
    calls.Pairwise fun a b => a.embedding?.isSome ∧ b.execution?.isSome := by
  cases h with
  | stopped hv hq => exact hv.pairwise _
  | ran hv hq ha =>
    refine List.pairwise_append.2 ⟨hv.pairwise _, List.pairwise_singleton _ _, ?_⟩
    intro a hm b hb
    obtain rfl := List.mem_singleton.1 hb
    exact ⟨hv.isSome_embedding?_of_mem hm, rfl⟩

/-- A call that fails is the last one. -/
theorem pairwise_failure (h : s.Course c plan limit constraints w calls result after) :
    calls.Pairwise fun a _ => a.failure? = none := by
  cases h with
  | stopped hv hq => exact hv.pairwise _
  | ran hv hq ha =>
    refine List.pairwise_append.2 ⟨hv.pairwise _, List.pairwise_singleton _ _, ?_⟩
    intro a hm b _
    refine hv.failure?_eq_none_of_mem ?_ hm
    -- A query was run, so the first stage did not fail.
    rintro e rfl
    cases hq

/-- Every call embeds a text or runs a query. -/
theorem isSome_of_mem (h : s.Course c plan limit constraints w calls result after) {call : Call}
    (hc : call ∈ calls) : call.embedding?.isSome ∨ call.execution?.isSome := by
  cases h with
  | stopped hv hq => exact .inl (hv.isSome_embedding?_of_mem hc)
  | ran hv hq ha =>
    rcases List.mem_append.1 hc with hc | hc
    · exact .inl (hv.isSome_embedding?_of_mem hc)
    · obtain rfl := List.mem_singleton.1 hc
      exact .inr rfl

/-- **A plan fails with the error of a call, or else with the one of its query.** -/
theorem eq_error_iff (h : s.Course c plan limit constraints w calls result after)
    {e : SearchError} : result = .error e ↔
      (∃ call ∈ calls, call.failure? = some e) ∨
        ∃ vector, Call.vector calls = .ok vector ∧ s.compilePlan plan limit vector = .error e := by
  cases h with
  | stopped hv hq =>
    -- The calls fail as the vector does, so either it or the query is to blame.
    rw [hv.exists_failure_iff, hv.vector_eq, ← Except.bind_eq_error_iff, hq]
    simp
  | ran hv hq ha =>
    -- Neither the vector nor the query failed, so only the last call is left.
    rename_i query answer _
    have hf : (∃ call ∈ [Call.execution s.config.backend query answer], call.failure? = some e) ↔
        answer = .error e := by
      cases answer <;> simp [Call.failure?]
    simp only [List.mem_append, or_and_right, exists_or]
    rw [Call.vector_append_execution, hv.exists_failure_iff, hf, hv.vector_eq, or_right_comm,
      ← Except.bind_eq_error_iff, hq, Except.map_eq_error_iff]
    simp

/-- A plan succeeds with the answer to the query that was run. -/
theorem exists_of_eq_ok (h : s.Course c plan limit constraints w calls result after)
    {response : SearchResponse} (hr : result = .ok response) :
    ∃ query execution, Call.execution s.config.backend query (.ok execution) ∈ calls ∧
      response = s.respond plan constraints query execution := by
  cases h with
  | stopped hv hq => cases hr
  | ran hv hq ha =>
    rename_i query answer _
    cases answer with
    | error e => cases hr
    | ok execution =>
      exact ⟨query, execution, by simp, (Except.ok.inj hr).symm⟩

end Course

end Service

/-! ## The law of calls -/

theorem SearchResponse.get?_hidden_count (r : SearchResponse) :
    r.encode.get? "hidden_count" = some (.ofNat r.records.hidden.length) := by
  unfold encode
  cases r.constraints <;> simp [Json.get?_object_cons]

namespace Search

/-- **The calls of a search are in order.** -/
structure IsOrderly (s : Service) (q : Search) (calls : List Call)
    (result : Except SearchError SearchResponse) : Prop where
  /-- A mode that is none is answered without a call. -/
  unknown : ∀ r e, q = .raw r → Mode.parse r.mode = .error e →
    calls = [] ∧ result = .error (.ofUnknownMode e)
  /-- The search text is embedded once if the mode wants that, there is a text, and there is what
  embeds it. -/
  embedded : ∀ plan service, q.plan s = .ok plan → plan.mode ≠ .lexical →
    Text.isBlankText plan.searchText = false → s.config.embedding = some service →
    calls.filterMap Call.embedding? = [(service, plan.searchText)]
  /-- Otherwise nothing is embedded. -/
  notEmbedded : ∀ plan, q.plan s = .ok plan → (plan.mode = .lexical ∨
    Text.isBlankText plan.searchText = true ∨ s.config.embedding = none) →
    calls.filterMap Call.embedding? = []
  /-- The query that comes of the vector is run once. -/
  executed : ∀ plan query, q.plan s = .ok plan →
    (Call.vector calls).bind (s.compilePlan plan q.limit) = .ok query →
    calls.filterMap Call.execution? = [(s.config.backend, query)]
  /-- If there is no vector where one is wanted, or no query, nothing is run. -/
  notExecuted : ∀ plan e, q.plan s = .ok plan →
    (Call.vector calls).bind (s.compilePlan plan q.limit) = .error e →
    calls.filterMap Call.execution? = []
  /-- Every call embeds a text or runs a query. -/
  served : ∀ call ∈ calls, call.embedding?.isSome ∨ call.execution?.isSome
  /-- Of two calls, the first embeds and the second runs. -/
  ordered : calls.Pairwise fun a b => a.embedding?.isSome ∧ b.execution?.isSome
  /-- No call follows one that failed. -/
  stops : calls.Pairwise fun a _ => a.failure? = none
  /-- The search fails if a step fails, and with its error. -/
  failure : ∀ e, result = .error e ↔ q.plan s = .error e ∨
    (∃ call ∈ calls, call.failure? = some e) ∨
    ∃ plan vector, q.plan s = .ok plan ∧ Call.vector calls = .ok vector ∧
      s.compilePlan plan q.limit vector = .error e
  /-- The answer shows the plan, the query that was run, and what came of it. -/
  success : ∀ response, result = .ok response → ∃ plan query execution, q.plan s = .ok plan ∧
    .execution s.config.backend query (.ok execution) ∈ calls ∧
    response = {
      mode := plan.mode
      searchText := plan.searchText
      constraints := q.constraints s
      filters := plan.filters
      query := query.text
      threshold := s.config.search.relevanceThreshold
      records := .cut execution.records plan.mode s.config.search.relevanceThreshold
      errors := execution.rawErrors } ∧
    response.encode.get? "hidden_count" = some (.ofNat response.records.hidden.length)

variable {s : Service} {q : Search} {plan : Plan} {calls : List Call}
  {result : Except SearchError SearchResponse}

/-- Only a mode that is none leaves a search without a plan. -/
theorem plan_eq_error_iff {e : SearchError} : q.plan s = .error e ↔
    ∃ r u, q = .raw r ∧ Mode.parse r.mode = .error u ∧ e = .ofUnknownMode u := by
  cases q with
  | shopper r => simp [plan]
  | raw r =>
    rw [plan, Except.map_eq_error_iff]
    cases h : Mode.parse r.mode with
    | ok mode => simp [Except.mapError, h]
    | error u => simp [Except.mapError, h, eq_comm]

/-- Without a plan there is no call. -/
theorem isOrderly_of_plan_eq_error {e : SearchError} (h : q.plan s = .error e) :
    q.IsOrderly s [] (.error e) where
  unknown := by
    rintro r u rfl hu
    obtain ⟨r', u', hr, hu', rfl⟩ := plan_eq_error_iff.1 h
    obtain rfl := Search.raw.inj hr
    rw [hu] at hu'
    obtain rfl := Except.error.inj hu'
    exact ⟨rfl, rfl⟩
  embedded plan service hp := by simp [h] at hp
  notEmbedded _ _ _ := rfl
  executed plan query hp := by simp [h] at hp
  notExecuted _ _ _ _ := rfl
  served _ hc := by cases hc
  ordered := .nil
  stops := .nil
  failure e' := by simp [h]
  success response hr := by cases hr

/-- The calls of a course are in order. -/
theorem isOrderly_of_course {c : Collaborators (StateM World)} {w after : World}
    (hp : q.plan s = .ok plan)
    (h : s.Course c plan q.limit (q.constraints s) w calls result after) :
    q.IsOrderly s calls result where
  unknown r e hq hu := by
    have : q.plan s = .error (.ofUnknownMode e) := plan_eq_error_iff.2 ⟨r, e, hq, hu, rfl⟩
    simp [hp] at this
  -- There is one plan only, so what is said of a plan is said of that of the course.
  embedded plan' service hp' hm hb hs := by
    obtain rfl := Except.ok.inj (hp.symm.trans hp')
    rw [h.embeddings_eq, Service.embedder?_eq_some_iff.2 ⟨hm, hb, hs⟩]
    rfl
  notEmbedded plan' hp' hn := by
    obtain rfl := Except.ok.inj (hp.symm.trans hp')
    rw [h.embeddings_eq, Service.embedder?_eq_none_iff.2 hn]
    rfl
  executed plan' query hp' hq := by
    obtain rfl := Except.ok.inj (hp.symm.trans hp')
    rw [h.executions_eq, hq]
    rfl
  notExecuted plan' e hp' hq := by
    obtain rfl := Except.ok.inj (hp.symm.trans hp')
    rw [h.executions_eq, hq]
    rfl
  served _ hc := h.isSome_of_mem hc
  ordered := h.pairwise_order
  stops := h.pairwise_failure
  failure e := by
    rw [h.eq_error_iff]
    simp [hp]
  success response hr := by
    obtain ⟨query, execution, hm, rfl⟩ := h.exists_of_eq_ok hr
    refine ⟨plan, query, execution, hp, hm, rfl, ?_⟩
    exact SearchResponse.get?_hidden_count _

/-- **Every search makes its calls in order**, whatever the collaborators answer and however the
world changes between the calls; and a record of the calls changes nothing. -/
theorem isOrderly_run (s : Service) (c : Collaborators (StateM World)) (q : Search)
    (past : List Call) (w : World) :
    ∃ calls, ((q.run s c.recorded).run past).run w =
        ((((q.run s c).run w).1, past ++ calls), ((q.run s c).run w).2) ∧
      q.IsOrderly s calls ((q.run s c).run w).1 := by
  rw [run_eq, run_eq]
  cases hp : q.plan s with
  | error e =>
    refine ⟨[], ?_, isOrderly_of_plan_eq_error hp⟩
    rw [List.append_nil]
    rfl
  | ok plan =>
    obtain ⟨calls, result, after, h, hrun, hrec⟩ :=
      s.exists_course c plan q.limit (q.constraints s) past w
    refine ⟨calls, ?_, ?_⟩
    · simp only [hrec, hrun]
    · simp only [hrun]
      exact isOrderly_of_course hp h

end Search

end Storefront
