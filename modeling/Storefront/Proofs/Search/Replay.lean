import Storefront.Proofs.Extraction.Removal
import Storefront.Proofs.Json.Records
import Storefront.Proofs.Search.Calls

/-!
# Searches that are replayed

The answer to a search shows the text that was searched for, the mode and the filters. Sent back as
a search that names its mode and its filters, they make the same plan: the name of a mode is read as
that mode, and filters are read back from their JSON form. So the two kinds of search agree, and if
the collaborators answer alike, so does the whole answer, except that a search which names its
filters extracts nothing.

## Main definitions

* `Search.wanted`: how many records a search wants
* `Search.IsSized`: a search whose numbers have 32 bits
* `replay?`: the body that asks for what an answer shows

## Main results

* `carryOut_eq_map`, `carryOut_again`: a plan carried out again, with the number of records spelled
  out
* `isSized_raw_of_decode`, `isSized_shopper_of_decode`: a search that is read has numbers of 32 bits
* `IsSized.price_lt`: so has its plan
* `replay?_encode`: the body for an answer, read as a search
* `Search.run_replay`: a search that is replayed is answered alike
-/

namespace Storefront

open Extraction Json

variable {m : Type → Type}

/-! ## Plans carried out again -/

namespace Service

/-- The query of a plan with its execution. -/
def executePlan [Monad m] (s : Service) (c : Collaborators m) (plan : Plan) (limit : Option Nat) :
    m (Except SearchError (CompiledQuery × Execution)) := do
  match (← s.queryVector c plan).bind (s.compilePlan plan limit) with
  | .error e => return .error e
  | .ok query => return (← c.execute s.config.backend query).map fun execution => (query, execution)

/-- **A plan is carried out in two parts**: what is called knows nothing of the constraints, and
what is answered knows nothing of the calls. -/
theorem carryOut_eq_map [Monad m] [LawfulMonad m] (s : Service) (c : Collaborators m) (plan : Plan)
    (limit : Option Nat) (constraints : Option Constraints) :
    s.carryOut c plan limit constraints =
      Except.map (fun p => s.respond plan constraints p.1 p.2) <$> s.executePlan c plan limit := by
  simp only [carryOut, executePlan, map_bind]
  refine bind_congr fun vector => ?_
  cases vector.bind (s.compilePlan plan limit) with
  | error e =>
    simp only [map_pure]
    rfl
  | ok query =>
    simp only [map_bind, map_pure]
    refine bind_congr fun answer => ?_
    cases answer with
    | error e => rfl
    | ok execution => rfl

/-- **A plan carried out again** with the number of records that it was carried out with has the
same answer, except for the constraints. -/
theorem carryOut_again [Monad m] [LawfulMonad m] (s : Service) (c : Collaborators m) (plan : Plan)
    (limit : Option Nat) (constraints : Option Constraints) :
    s.carryOut c plan (some (limit.getD s.config.search.defaultLimit)) none =
      Except.map (fun response => { response with constraints := none }) <$>
        s.carryOut c plan limit constraints := by
  have hp : s.executePlan c plan (some (limit.getD s.config.search.defaultLimit)) =
      s.executePlan c plan limit := rfl
  -- The calls are the same, so only the two ways to answer are compared.
  rw [carryOut_eq_map, carryOut_eq_map, hp, Functor.map_map]
  congr 1
  funext result
  cases result with
  | error e => rfl
  | ok p => rfl

/-- The answer to a plan shows the plan. -/
theorem shows_of_carryOut_eq_ok {s : Service} {c : Collaborators Id} {plan : Plan}
    {limit : Option Nat} {constraints : Option Constraints} {response : SearchResponse}
    (h : s.carryOut c plan limit constraints = .ok response) :
    response.searchText = plan.searchText ∧ response.mode = plan.mode ∧
      response.filters = plan.filters := by
  rw [carryOut_eq_map] at h
  replace h : (s.executePlan c plan limit).run.map _ = .ok response := h
  cases hx : (s.executePlan c plan limit).run with
  | error e =>
    rw [hx] at h
    cases h
  | ok p =>
    rw [hx] at h
    obtain rfl := Except.ok.inj h
    exact ⟨rfl, rfl, rfl⟩

end Service

/-! ## Numbers of 32 bits -/

namespace Extraction

theorem ceiling_le_of_takePrice {phrases : List Entry} {s : List Char} {n : Nat}
    (h : (takePrice phrases s).2 = some n) : n ≤ maxCeiling := by
  unfold takePrice at h
  split at h
  · cases h
  · split at h
    · cases h
    · next hc =>
      obtain rfl := Option.some.inj h
      exact (ceiling?_eq_some hc).2.2

end Extraction

namespace Extractor

/-- A price ceiling that is extracted has 32 bits. -/
theorem priceCeiling_lt {x : Extractor} {text : String} {n : Nat}
    (h : (x.extract text).priceCeiling = some n) : n < Nat.pow 2 32 := by
  have hn : n ≤ maxCeiling := by
    rw [extract_priceCeiling] at h
    cases hp : takePrice x.phrases text.toList with
    | mk t price =>
      cases price with
      | some k =>
        rw [passes_of_some hp] at h
        obtain rfl := Option.some.inj h
        exact ceiling_le_of_takePrice (congrArg Prod.snd hp)
      | none =>
        rw [passes_of_none (congrArg Prod.snd hp)] at h
        exact ceiling_le_of_takePrice h
  exact Nat.lt_succ_of_le hn

end Extractor

/-- The search that names the mode and the filters of a plan. -/
def Plan.named (plan : Plan) (limit : Nat) : RawSearchRequest where
  query := plan.searchText
  mode := plan.mode.name
  filters := plan.filters
  limit := some limit

namespace Search

/-- How many records a search wants. -/
def wanted (s : Service) (q : Search) : Nat := q.limit.getD s.config.search.defaultLimit

/-- **A search whose numbers have 32 bits**, as all numbers have that are read. -/
structure IsSized (s : Service) (q : Search) : Prop where
  /-- The number of records that it wants. -/
  wanted : q.wanted s < Nat.pow 2 32
  /-- The price that it names. -/
  price : ∀ r, q = .raw r → ∀ n ∈ r.filters.price, n < Nat.pow 2 32

theorem getD_lt {o : Option Nat} {n bound : Nat} (hn : n < bound) (ho : ∀ k ∈ o, k < bound) :
    o.getD n < bound := by
  cases o with
  | none => exact hn
  | some k => exact ho k rfl

/-- A search that names its filters is sized if it is read. -/
theorem isSized_raw_of_decode {s : Service} (hs : s.config.search.defaultLimit < Nat.pow 2 32)
    {body : Reading} {r : RawSearchRequest} (h : RawSearchRequest.decode body = .ok r) :
    (Search.raw r).IsSized s := by
  obtain ⟨hl, hp⟩ := RawSearchRequest.lt_of_decode h
  refine ⟨getD_lt hs hl, ?_⟩
  intro r' hr
  obtain rfl := Search.raw.inj hr
  exact hp

/-- So is a search as a shopper asks for it. -/
theorem isSized_shopper_of_decode {s : Service}
    (hs : s.config.search.defaultLimit < Nat.pow 2 32) {body : Reading} {r : SearchRequest}
    (h : SearchRequest.decode body = .ok r) : (Search.shopper r).IsSized s := by
  have hl := SearchRequest.lt_of_decode h
  refine ⟨getD_lt hs hl, ?_⟩
  intro r' hr
  cases hr

variable {s : Service} {q : Search} {plan : Plan}

/-- The price of a plan has 32 bits. -/
theorem IsSized.price_lt (hs : q.IsSized s) (hp : q.plan s = .ok plan) :
    ∀ n ∈ plan.filters.price, n < Nat.pow 2 32 := by
  -- A shopper's price was extracted, where it has a bound; a raw one is that of the request.
  cases q with
  | shopper r =>
    obtain rfl := Except.ok.inj hp
    intro n hn
    cases ht : r.toggle with
    | standard =>
      rw [ht] at hn
      cases hn
    | smart =>
      rw [ht] at hn
      exact Extractor.priceCeiling_lt hn
  | raw r =>
    have hf : plan.filters = r.filters := by
      rw [Search.plan] at hp
      cases hm : Mode.parse r.mode with
      | error e =>
        rw [hm] at hp
        cases hp
      | ok mode =>
        rw [hm] at hp
        obtain rfl := Except.ok.inj hp
        rfl
    rw [hf]
    exact hs.price r rfl

/-- A search that names what is in the plan of another one is that other one, but for the
constraints. -/
theorem searchRaw_named [Monad m] [LawfulMonad m] (c : Collaborators m)
    (hp : q.plan s = .ok plan) : s.searchRaw c (plan.named (q.wanted s)) =
      Except.map (fun response => { response with constraints := none }) <$> q.run s c := by
  rw [run_eq, hp, Service.searchRaw, Plan.named, Mode.parse_name]
  exact s.carryOut_again c plan q.limit (q.constraints s)

end Search

/-! ## Replays -/

/-- **The body that asks for what an answer shows**, with so many records. -/
def replay? (answer : Json) (limit : Nat) : Option Json := do
  let query ← answer.get? "search_text"
  let mode ← answer.get? "mode"
  let filters ← answer.get? "filters"
  return .object (RawSearchRequest.members query mode filters limit)

/-- The answer shows the text, the mode and the filters. -/
theorem replay?_encode (r : SearchResponse) (limit : Nat) :
    replay? r.encode limit = some (.object (RawSearchRequest.members (.text r.searchText)
      (.text r.mode.name) r.filters.encode limit)) := by
  unfold replay? SearchResponse.encode
  cases r.constraints <;> simp [Json.get?_object_cons]

/-- Without constraints an answer lacks their member, and no other. -/
theorem SearchResponse.get?_encode_without (r : SearchResponse) (key : String) :
    { r with constraints := none }.encode.get? key =
      if key = "constraints" then none else r.encode.get? key := by
  unfold encode
  by_cases hk : key = "constraints"
  · subst hk
    simp [Json.get?_object_cons]
  · cases r.constraints with
    | none => simp [hk]
    | some c => simp [Json.get?_object_cons, hk]

namespace Search

variable {s : Service} {q : Search}

/-- **A search that is replayed is answered alike**: what its answer shows is read as a search that
names its mode and its filters, and that search has the same answer, except that it extracts
nothing. -/
theorem run_replay {c : Collaborators Id} {response : SearchResponse} (hs : q.IsSized s)
    (h : q.run s c = .ok response) :
    ∃ r, (replay? response.encode (q.wanted s)).bind (decode? RawSearchRequest.decode) = some r ∧
      s.searchRaw c r = .ok { response with constraints := none } ∧
      ∀ key, { response with constraints := none }.encode.get? key =
        if key = "constraints" then none else response.encode.get? key := by
  cases hp : q.plan s with
  | error e =>
    rw [run_eq, hp] at h
    cases h
  | ok plan =>
    have hr : s.carryOut c plan q.limit (q.constraints s) = .ok response := by
      rw [run_eq, hp] at h
      exact h
    obtain ⟨ht, hm, hf⟩ := Service.shows_of_carryOut_eq_ok hr
    refine ⟨plan.named (q.wanted s), ?_, ?_, response.get?_encode_without⟩
    · rw [replay?_encode, ht, hm, hf, Option.bind_some, decode?,
        RawSearchRequest.decode_members (hs.price_lt hp) hs.wanted]
      rfl
    · rw [searchRaw_named c hp, h]
      rfl

/-- The other name of a mode is replaced by its own, and a blank category is kept. -/
theorem run_replay_of_other_name :
    let s : Service :=
      { config := { server := { httpBind := "" }, backend := { url := "http://b" } }
        extractor := .ofVocabulary .standard }
    let c : Collaborators Id :=
      { embed := fun _ _ => .ok []
        execute := fun _ _ => .ok { records := [], rawErrors := ["slow"] }
        metadata := fun _ => .ok .null }
    let q : Search := .raw
      { query := "red  shoes"
        mode := " BM25"
        filters := { price := some 50, category := some "" }
        limit := none }
    ∃ response, q.run s c = .ok response ∧ q.IsSized s ∧
      ∃ r, (replay? response.encode (q.wanted s)).bind (decode? RawSearchRequest.decode) = some r ∧
        s.searchRaw c r = .ok { response with constraints := none } ∧
        ∀ key, { response with constraints := none }.encode.get? key =
          if key = "constraints" then none else response.encode.get? key := by
  intro s c q
  have hs : q.IsSized s := by
    refine ⟨by decide, fun r hr n hn => ?_⟩
    obtain rfl := Search.raw.inj hr
    obtain rfl := Option.some.inj hn
    decide
  exact ⟨_, rfl, hs, run_replay hs rfl⟩

end Search

end Storefront
