import Storefront.Proofs.Query.Compilation
import Storefront.Proofs.Query.Writing
import Storefront.Proofs.Search.Bodies
import Storefront.Proofs.Search.Calls

/-!
# The vectors of searches over HTTP

Over HTTP a search text is embedded by a service whose answer may be anything. What is wrong with an
answer is found before there is a vector, after its numbers have become 32-bit values. So nothing is
left for the compiler to refuse: a vector that is there can be scored with in every mode, and the
only error that a query can still have is that it needs a vector where none was asked for.

## Main definitions

* `Embedding.IsUsable`: a vector that nothing is wrong with
* `EmbeddingService.embedded`: what the answer to a request gives
* `Search.TakesVectors`: no vector is refused after it was taken

## Main results

* `exists_compile_eq_ok`: a usable vector has a query in every mode
* `embedded_eq_ok_iff`: when a text is embedded, and as what
* `Search.error_cases`, `Search.eq_missingVector_iff`: the errors of a search over HTTP
* `Search.takesVectors_run`: every search over HTTP takes its vectors
-/

namespace Storefront

open Http

variable {World : Type}

/-! ## Usable vectors -/

namespace Embedding

/-- **A vector that nothing is wrong with**, of the configured dimension if there is one. -/
structure IsUsable (dimensions : Option Nat) (v : List Single) : Prop where
  /-- It has components. -/
  ne_nil : v ≠ []
  /-- It has as many as are configured. -/
  length_eq : ∀ d ∈ dimensions, v.length = d
  /-- None of them is infinite or not a number. -/
  isFinite : ∀ x ∈ v, x.isFinite = true

/-- The vectors of an answer are taken if they are as many as the texts, and all usable. -/
theorem checked_eq_ok_iff {expected : Nat} {dimensions : Option Nat} {answer : Json}
    {vectors : List (List Single)} : checked expected dimensions answer = .ok vectors ↔
      ofAnswer answer = .ok vectors ∧ vectors.length = expected ∧
        ∀ v ∈ vectors, IsUsable dimensions v := by
  have hu (v : List Single) : IsUsable dimensions v ↔
      v ≠ [] ∧ (∀ d ∈ dimensions, v.length = d) ∧ ∀ x ∈ v, x.isFinite = true :=
    ⟨fun h => ⟨h.ne_nil, h.length_eq, h.isFinite⟩, fun ⟨hn, hl, hf⟩ => ⟨hn, hl, hf⟩⟩
  simp only [hu, ← fault?_eq_none]
  unfold checked
  cases ofAnswer answer with
  | error e => simp [bind, Except.bind]
  | ok found =>
    simp only [bind, Except.bind]
    constructor
    · intro h
      cases hf : fault? expected dimensions found with
      | some fault =>
        rw [hf] at h
        cases h
      | none =>
        rw [hf] at h
        obtain rfl := Except.ok.inj h
        exact ⟨rfl, hf⟩
    · rintro ⟨hf, hn⟩
      obtain rfl := Except.ok.inj hf
      rw [hn]
      rfl

/-- A usable vector is one that can be scored with. -/
theorem IsUsable.not_lacksVector {dimensions : Option Nat} {v : List Single}
    (h : IsUsable dimensions v) : ¬LacksVector (some v) := by
  rintro (hv | hv)
  · cases hv
  · exact h.ne_nil (Option.some.inj hv)

theorem IsUsable.isFiniteVector {dimensions : Option Nat} {v : List Single}
    (h : IsUsable dimensions v) : IsFiniteVector (some v) := by
  intro v' hv
  obtain rfl := Option.some.inj hv
  exact h.isFinite

end Embedding

/-! ## Queries with a vector -/

section Compilation

variable {className searchText : String} {mode : Mode} {filters : Filters} {limit : Nat}
  {dimensions : Option Nat} {v : List Single}

/-- **With a usable vector there is a query in every mode.** -/
theorem exists_compile_eq_ok (h : Embedding.IsUsable dimensions v) (className searchText : String)
    (mode : Mode) (filters : Filters) (limit : Nat) :
    ∃ query, compile className searchText mode (some v) filters limit = .ok query :=
  exists_compile_eq_ok_iff.2 ⟨h.isFiniteVector, fun hl => h.not_lacksVector hl.2⟩

/-- Without a vector only scoring by vector alone has no query. -/
theorem compile_none_eq_error_iff {e : SearchError} :
    compile className searchText mode none filters limit = .error e ↔
      mode = .vector ∧ e = .missingVector := by
  rw [compile_eq_error_iff]
  simp [IsFiniteVector, LacksVector]

end Compilation

/-! ## What failed calls say -/

theorem append_ne_of_not_prefix {a b c : String} (h : ¬ a.toList <+: c.toList) : a ++ b ≠ c := by
  rintro rfl
  apply h
  rw [String.toList_append]
  exact List.prefix_append _ _

/-- Where one text has a number, another that goes on without digits differs. -/
theorem append_toString_ne {a b c : String} {n : Nat}
    (hc : c.toList.all (!Text.isAsciiDigit ·) = true) : a ++ toString n ++ b ≠ a ++ c := by
  intro h
  have hl := congrArg String.toList h
  simp only [String.toList_append, List.append_assoc, Nat.toString_eq_ofList_toDigits,
    String.toList_ofList] at hl
  have hd : Nat.toDigits 10 n ++ b.toList = c.toList := List.append_cancel_left hl
  obtain ⟨digit, hm⟩ := List.exists_mem_of_ne_nil _ (Nat.toDigits_ne_nil (b := 10) (n := n))
  have hmem : digit ∈ c.toList := hd ▸ List.mem_append_left _ hm
  have hno := List.all_eq_true.1 hc digit hmem
  rw [isAsciiDigit_of_mem_toDigits hm] at hno
  cases hno

/-- No call fails with the sentence for an answer that has no vector left. -/
theorem message_ne_no_vectors (e : CallError) :
    e.message ≠ "Embedding provider returned no vectors." := by
  -- Most messages begin otherwise; a wrong count has a digit where the sentence has a letter.
  cases e with
  | transport error =>
    cases error with
    | noUrl | undecodable => decide
    | unusableUrl url =>
      show "builder error for url (" ++ url ++ ")" ≠ _
      rw [String.append_assoc]
      exact append_ne_of_not_prefix (by decide)
    | unreachable url =>
      show "error sending request for url (" ++ url ++ ")" ≠ _
      rw [String.append_assoc]
      exact append_ne_of_not_prefix (by decide)
  | headerName | headerValue => decide
  | headerNotText key =>
    show "Default header " ++ key ++ " must be a string." ≠ _
    rw [String.append_assoc]
    exact append_ne_of_not_prefix (by decide)
  | response fault =>
    cases fault with
    | count returned expected =>
      rw [show "Embedding provider returned no vectors." =
        "Embedding provider returned " ++ "no vectors." by decide]
      show "Embedding provider returned " ++ toString returned ++ " vectors for " ++
        toString expected ++ " inputs." ≠ _
      rw [String.append_assoc, String.append_assoc]
      exact append_toString_ne (by decide)
    | noData | noEmbedding | noVector | noNumber | empty | dimension | nonFinite => decide
  | status code body =>
    show "Upstream returned HTTP " ++ toString code ++ ": " ++ body ≠ _
    rw [String.append_assoc, String.append_assoc]
    exact append_ne_of_not_prefix (by decide)

/-! ## Embeddings over HTTP -/

namespace EmbeddingService

variable {service : EmbeddingService} {answer : Except CallError Json}

/-- What the answer to the request for the embedding of one text gives. -/
def embedded (service : EmbeddingService) (answer : Except CallError Json) :
    Except SearchError (List Single) :=
  let vectors := answer.bind fun json =>
    (Embedding.checked 1 service.dimensions json).mapError .response
  (vectors.mapError .ofEmbedding).bind onlyVector

theorem embedded_of_checked_error {json : Json} {fault : EmbeddingFault}
    (h : Embedding.checked 1 service.dimensions json = .error fault) :
    service.embedded (.ok json) = .error (.ofEmbedding (.response fault)) := by
  simp [embedded, Except.bind, Except.mapError, h]

theorem embedded_of_checked_ok {json : Json} {v : List Single}
    (h : Embedding.checked 1 service.dimensions json = .ok [v]) :
    service.embedded (.ok json) = .ok v := by
  simp [embedded, Except.bind, Except.mapError, h, onlyVector]

/-- The vectors that are taken for one text are one. -/
theorem exists_of_checked_ok {json : Json} {vectors : List (List Single)}
    (h : Embedding.checked 1 service.dimensions json = .ok vectors) : ∃ v, vectors = [v] := by
  obtain ⟨-, hl, -⟩ := Embedding.checked_eq_ok_iff.1 h
  exact List.length_eq_one_iff.1 hl

/-- **A text is embedded if there is an answer with one vector, and that is usable.** -/
theorem embedded_eq_ok_iff {v : List Single} : service.embedded answer = .ok v ↔
    ∃ json, answer = .ok json ∧ Embedding.ofAnswer json = .ok [v] ∧
      Embedding.IsUsable service.dimensions v := by
  constructor
  · intro h
    cases answer with
    | error failure => cases h
    | ok json =>
      cases hc : Embedding.checked 1 service.dimensions json with
      | error fault =>
        rw [embedded_of_checked_error hc] at h
        cases h
      | ok vectors =>
        obtain ⟨v', rfl⟩ := exists_of_checked_ok hc
        obtain rfl := Except.ok.inj ((embedded_of_checked_ok hc).symm.trans h)
        obtain ⟨ho, -, hu⟩ := Embedding.checked_eq_ok_iff.1 hc
        exact ⟨json, rfl, ho, hu v' (List.mem_singleton_self v')⟩
  · rintro ⟨json, rfl, ho, hu⟩
    refine embedded_of_checked_ok (Embedding.checked_eq_ok_iff.2 ⟨ho, rfl, ?_⟩)
    intro v' hv
    obtain rfl := List.mem_singleton.1 hv
    exact hu

/-- A text that is not embedded has a call to blame. -/
theorem exists_of_embedded_eq_error {e : SearchError} (h : service.embedded answer = .error e) :
    ∃ failure, e = .ofEmbedding failure := by
  cases answer with
  | error failure => exact ⟨failure, (Except.error.inj h).symm⟩
  | ok json =>
    cases hc : Embedding.checked 1 service.dimensions json with
    | error fault =>
      exact ⟨.response fault, (Except.error.inj ((embedded_of_checked_error hc).symm.trans h)).symm⟩
    | ok vectors =>
      obtain ⟨v, rfl⟩ := exists_of_checked_ok hc
      rw [embedded_of_checked_ok hc] at h
      cases h

end EmbeddingService

/-! ## Collaborators over HTTP -/

namespace Collaborators

variable {transport : Transport (StateM World)} {service : EmbeddingService} {text : String}
  {backend : Backend} {query : CompiledQuery} {e : SearchError} {w after : World}

theorem overHttp_embed_run (transport : Transport (StateM World)) (service : EmbeddingService)
    (text : String) (w : World) :
    (((overHttp transport).embed service text).run w).1 = service.embedded
      ((service.endpoint.call transport .post (some (service.body [text]))).run w).1 :=
  rfl

-- The vector of a bare list of vectors reaches the search.
example :
    let service : EmbeddingService :=
      { providerId := "local", apiBase := "http://e", path := "/embed", model := "m",
        dimensions := some 1 }
    let transport : Transport (StateM Unit) :=
      fun _ => pure (.response 200 ("[[1]]".toList.map fun c => c.toNat.toUInt8))
    (((overHttp transport).embed service "shoes").run ()).1 = .ok [.ofInt .single 1] := by
  decide +kernel

/-- A query that does not run has the backend to blame. -/
theorem exists_of_overHttp_execute_eq_error
    (h : ((overHttp transport).execute backend query).run w = (.error e, after)) :
    ∃ detail, e = .backendQueryError detail ∨ e = .backendUnavailable detail := by
  have hx : ((((backend.run transport query.text).run w).1.mapError SearchError.ofBackend).bind
      fun body => Execution.ofBody body query.className) = .error e := congrArg Prod.fst h
  generalize ((backend.run transport query.text).run w).1 = answer at hx
  rcases answer with failure | body
  · obtain rfl : SearchError.ofBackend failure = e := Except.error.inj hx
    unfold SearchError.ofBackend
    split
    · exact ⟨_, .inl rfl⟩
    · exact ⟨_, .inr rfl⟩
  · -- Whatever is wrong with an answer is an error of the query.
    rcases Execution.blame_of_ofBody_eq_error hx with ⟨_, -, he⟩ | ⟨_, -, -, he⟩
    · exact ⟨_, .inl he⟩
    · exact ⟨_, .inl he⟩

end Collaborators

/-! ## Searches over HTTP -/

namespace Service.Course

variable {s : Service} {transport : Transport (StateM World)} {plan : Plan} {limit : Option Nat}
  {constraints : Option Constraints} {calls : List Call}
  {result : Except SearchError SearchResponse} {w after : World}

/-- **The errors of a plan over HTTP**: those of calls, and the lack of a vector that nothing was
asked for. -/
theorem error_cases
    (h : s.Course (.overHttp transport) plan limit constraints w calls result after)
    {e : SearchError} (he : result = .error e) :
    (∃ failure, e = .ofEmbedding failure) ∨
      (∃ detail, e = .backendQueryError detail ∨ e = .backendUnavailable detail) ∨
      e = .missingVector ∧ plan.mode = .vector ∧ s.embedder? plan = none := by
  cases h with
  | stopped hv hq =>
    obtain rfl := Except.error.inj he
    cases hv with
    | skipped hs =>
      obtain ⟨hm, rfl⟩ := compile_none_eq_error_iff.1 hq
      exact .inr (.inr ⟨rfl, hm, hs⟩)
    | asked hs ha =>
      rename_i service answer
      have hr := (Collaborators.overHttp_embed_run transport service plan.searchText w).symm.trans
        (congrArg Prod.fst ha)
      cases answer with
      | error e' =>
        obtain rfl := Except.error.inj hq
        exact .inl (EmbeddingService.exists_of_embedded_eq_error hr)
      | ok v =>
        -- With a vector that has passed there is a query, so the search did not stop here.
        obtain ⟨_, _, _, hu⟩ := EmbeddingService.embedded_eq_ok_iff.1 hr
        obtain ⟨query, hc⟩ := exists_compile_eq_ok hu s.config.backend.className plan.searchText
          plan.mode plan.filters (limit.getD s.config.search.defaultLimit)
        cases hc.symm.trans hq
  | ran hv hq ha =>
    rw [Except.map_eq_error_iff] at he
    subst he
    exact .inr (.inl (Collaborators.exists_of_overHttp_execute_eq_error ha))

/-- Scoring by vector alone fails if nothing is asked for the vector. -/
theorem eq_missingVector {c : Collaborators (StateM World)}
    (h : s.Course c plan limit constraints w calls result after) (hm : plan.mode = .vector)
    (hs : s.embedder? plan = none) : result = .error .missingVector := by
  have hc : s.compilePlan plan limit none = .error .missingVector :=
    compile_none_eq_error_iff.2 ⟨hm, rfl⟩
  cases h with
  | stopped hv hq =>
    cases hv with
    | skipped _ =>
      obtain rfl := Except.error.inj (hq.symm.trans hc)
      rfl
    | asked hs' ha => cases hs.symm.trans hs'
  | ran hv hq ha =>
    cases hv with
    | skipped _ => cases hc.symm.trans hq
    | asked hs' ha' => cases hs.symm.trans hs'

end Service.Course

namespace Search

variable {s : Service} {transport : Transport (StateM World)} {q : Search} {w : World}

/-- The run of a search with a plan follows a course. -/
theorem exists_course {plan : Plan} (hp : q.plan s = .ok plan) (c : Collaborators (StateM World))
    (w : World) : ∃ calls after,
      s.Course c plan q.limit (q.constraints s) w calls ((q.run s c).run w).1 after := by
  obtain ⟨calls, result, after, h, hrun, -⟩ :=
    s.exists_course c plan q.limit (q.constraints s) [] w
  refine ⟨calls, after, ?_⟩
  rw [run_eq, hp]
  simp only [hrun]
  exact h

/-- **The errors of a search over HTTP**: a mode that is none, a call that failed, or the lack of a
vector that nothing was asked for. -/
theorem error_cases {e : SearchError} (he : ((q.run s (.overHttp transport)).run w).1 = .error e) :
    (∃ unknown, e = .ofUnknownMode unknown) ∨ (∃ failure, e = .ofEmbedding failure) ∨
      (∃ detail, e = .backendQueryError detail ∨ e = .backendUnavailable detail) ∨
      e = .missingVector ∧
        ∃ plan, q.plan s = .ok plan ∧ plan.mode = .vector ∧ s.embedder? plan = none := by
  cases hp : q.plan s with
  | error e' =>
    obtain ⟨r, unknown, -, -, rfl⟩ := plan_eq_error_iff.1 hp
    rw [run_eq, hp] at he
    exact .inl ⟨unknown, (Except.error.inj he).symm⟩
  | ok plan =>
    obtain ⟨calls, after, h⟩ := exists_course hp (.overHttp transport) w
    obtain hf | hb | ⟨rfl, hm, hs⟩ := h.error_cases he
    · exact .inr (.inl hf)
    · exact .inr (.inr (.inl hb))
    · exact .inr (.inr (.inr ⟨rfl, plan, rfl, hm, hs⟩))

theorem eq_missingVector_iff :
    ((q.run s (.overHttp transport)).run w).1 = .error .missingVector ↔
      ∃ plan, q.plan s = .ok plan ∧ plan.mode = .vector ∧
        (s.config.embedding = none ∨ Text.isBlankText plan.searchText = true) := by
  constructor
  · intro he
    obtain ⟨_, h⟩ | ⟨_, h⟩ | ⟨_, h | h⟩ | ⟨-, plan, hp, hm, hs⟩ := error_cases he
    · cases h
    · cases h
    · cases h
    · cases h
    · refine ⟨plan, hp, hm, ?_⟩
      obtain hl | hb | hn := Service.embedder?_eq_none_iff.1 hs
      · rw [hm] at hl
        cases hl
      · exact .inr hb
      · exact .inl hn
  · rintro ⟨plan, hp, hm, hs⟩
    obtain ⟨calls, after, h⟩ := exists_course hp (.overHttp transport) w
    exact h.eq_missingVector hm (Service.embedder?_eq_none_iff.2 (.inr hs.symm))

/-- The plan of a search as a shopper asks for it does not score by vector alone. -/
theorem mode_ne_vector_of_shopper {r : SearchRequest} {plan : Plan}
    (hp : (Search.shopper r).plan s = .ok plan) : plan.mode ≠ .vector := by
  obtain rfl := Except.ok.inj hp
  intro hm
  cases ht : r.toggle <;> rw [ht] at hm <;> cases hm

/-- **No vector is refused after it was taken**, in the result of a search over HTTP. -/
structure TakesVectors (s : Service) (transport : Transport (StateM World)) (q : Search)
    (result : Except SearchError SearchResponse) : Prop where
  /-- The embedding of a text is the only vector of an answer. -/
  answered : ∀ service text v w after,
    ((Collaborators.overHttp transport).embed service text).run w = (.ok v, after) →
    ∃ json, ((service.endpoint.call transport .post (some (service.body [text]))).run w).1 =
      .ok json ∧ Embedding.ofAnswer json = .ok [v]
  /-- It has components, all of them finite, and as many as are configured. -/
  usable : ∀ service text v w after,
    ((Collaborators.overHttp transport).embed service text).run w = (.ok v, after) →
    v ≠ [] ∧ (∀ x ∈ v, x.isFinite = true) ∧ ∀ d ∈ service.dimensions, v.length = d
  /-- With it there is a query in every mode. -/
  compiles : ∀ service text v w after,
    ((Collaborators.overHttp transport).embed service text).run w = (.ok v, after) →
    ∀ className searchText mode filters limit,
      ∃ query, compile className searchText mode (some v) filters limit = .ok query
  /-- No search fails for a vector that cannot be used. -/
  notInvalid : ∀ detail, result ≠ .error (.invalidRequest detail)
  /-- No search fails for an answer that was taken and has no vector. -/
  notLacking : result ≠ .error (.embeddingUnavailable "Embedding provider returned no vectors.")
  /-- A search fails for the lack of a vector if it scores by vector alone and there is nothing to
  embed, or nothing that embeds. -/
  missing : result = .error .missingVector ↔ ∃ plan, q.plan s = .ok plan ∧ plan.mode = .vector ∧
    (s.config.embedding = none ∨ Text.isBlankText plan.searchText = true)
  /-- A search as a shopper asks for it does not. -/
  shopper : ∀ r, q = .shopper r → result ≠ .error .missingVector

/-- **Every search over HTTP takes its vectors**, whatever carries its requests and whatever the
answers are. -/
theorem takesVectors_run (s : Service) (transport : Transport (StateM World)) (q : Search)
    (w : World) : q.TakesVectors s transport ((q.run s (.overHttp transport)).run w).1 where
  answered service text v w after h := by
    obtain ⟨json, hj, ho, -⟩ := EmbeddingService.embedded_eq_ok_iff.1 (congrArg Prod.fst h)
    exact ⟨json, hj, ho⟩
  usable service text v w after h := by
    obtain ⟨_, _, _, hu⟩ := EmbeddingService.embedded_eq_ok_iff.1 (congrArg Prod.fst h)
    exact ⟨hu.ne_nil, hu.isFinite, hu.length_eq⟩
  compiles service text v w after h := by
    obtain ⟨_, _, _, hu⟩ := EmbeddingService.embedded_eq_ok_iff.1 (congrArg Prod.fst h)
    exact exists_compile_eq_ok hu
  notInvalid detail he := by
    -- Only the compiler speaks of an invalid request, and no kind of error comes from it.
    obtain ⟨_, h⟩ | ⟨_, h⟩ | ⟨_, h | h⟩ | ⟨h, -⟩ := error_cases he <;> cases h
  notLacking he := by
    obtain ⟨_, h⟩ | ⟨failure, h⟩ | ⟨_, h | h⟩ | ⟨h, -⟩ := error_cases he
    · cases h
    -- A failed call has a sentence too, and it is another one.
    · exact message_ne_no_vectors failure (SearchError.embeddingUnavailable.inj h).symm
    · cases h
    · cases h
    · cases h
  missing := eq_missingVector_iff
  shopper := by
    rintro r rfl he
    obtain ⟨plan, hp, hm, -⟩ := eq_missingVector_iff.1 he
    exact mode_ne_vector_of_shopper hp hm

end Search

end Storefront
