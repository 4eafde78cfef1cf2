import Storefront.Query.Compiled

/-!
# What a search compiles to

The query of a search is the way of scoring that its mode asks for, and the condition of its filters
if the mode has one. Whether there is a query at all is decided by the vector and the mode. So two
searches of one mode have the same query exactly if they agree in what the mode reads, and what it
does not read never shows in the query.

## Main definitions

* `IsFiniteVector`: a vector that may be given to a search, if one is given
* `LacksVector`, `SameVector`: an empty vector is the same as none
* `SearchClause.ofMode?`: the way of scoring of a mode
* `Mode.condition?`: the condition of a mode
* `IsSelective`: when there is no query, and what decides over it when there is one

## Main results

* `compile_eq_ok_iff`: when there is a query, and what it is
* `compile_eq_error_iff`: when there is none, and why
* `eq_iff_of_compile`: when two searches of one mode have the same query
* `isSelective_compile`: every mode reads its own inputs only
-/

namespace Storefront

variable {className searchText searchText' : String} {mode : Mode}
  {vector vector' : Option (List Single)} {filters filters' : Filters} {limit : Nat}
  {q q' : CompiledQuery} {e : SearchError}

/-- No component of the vector is infinite or not a number; an absent vector has none. -/
def IsFiniteVector (vector : Option (List Single)) : Prop :=
  ∀ v ∈ vector, ∀ x ∈ v, x.isFinite = true

/-- **The way of scoring of a mode**: by vector alone there is none without a vector. -/
def SearchClause.ofMode? (searchText : String) (vector : Option (List Single)) :
    Mode → Option SearchClause
  | .lexical => some (.bm25 searchText)
  | .vector => (usableVector? vector).map .nearVector
  | .hybrid | .hybridFiltered => some (.hybrid searchText (usableVector? vector))

/-- The vector of a way of scoring. -/
def SearchClause.vector? : SearchClause → Option (List Single)
  | .bm25 _ => none
  | .nearVector v => some v
  | .hybrid _ v => v

/-- **The condition of a mode**: only the filtered one has any. -/
def Mode.condition? (filters : Filters) : Mode → Option Predicate
  | .hybridFiltered => Predicate.ofFilters? filters
  | _ => none

theorem any_not_isFinite_eq_false_iff :
    (vector.any fun v => v.any fun x => !x.isFinite) = false ↔ IsFiniteVector vector := by
  cases vector <;> simp [IsFiniteVector]

theorem isFiniteVector_singleton {x : Single} (h : x.isFinite = true) :
    IsFiniteVector (some [x]) := by
  simpa [IsFiniteVector] using h

/-- A way of scoring has no other vector than the one that was given. -/
theorem SearchClause.isFiniteVector_vector? {s : SearchClause} (hv : IsFiniteVector vector)
    (hs : ofMode? searchText vector mode = some s) : IsFiniteVector s.vector? := by
  have hu : IsFiniteVector (usableVector? vector) := by
    intro v h
    refine hv v ?_
    unfold usableVector? at h
    split at h
    · simp at h
    · exact h
  cases mode with
  | lexical =>
    obtain rfl := Option.some.inj hs
    simp [vector?, IsFiniteVector]
  | vector =>
    obtain ⟨v, h, rfl⟩ := Option.map_eq_some_iff.1 hs
    rwa [h] at hu
  | hybrid | hybridFiltered =>
    obtain rfl := Option.some.inj hs
    exact hu

/-- **When there is a query, and what it is.** -/
theorem compile_eq_ok_iff : compile className searchText mode vector filters limit = .ok q ↔
    IsFiniteVector vector ∧ ∃ s, SearchClause.ofMode? searchText vector mode = some s ∧
      q = { className, mode, search := s, filter := mode.condition? filters, limit } := by
  rw [← any_not_isFinite_eq_false_iff]
  unfold compile
  split
  · next h => simp [h]
  · next h =>
    rw [Bool.not_eq_true] at h
    cases mode <;> simp [h, SearchClause.ofMode?, Mode.condition?, eq_comm]
    cases usableVector? vector <;> simp [eq_comm]

/-- The hybrid modes have a query for every vector that is finite throughout. -/
theorem compile_hybrid (hv : IsFiniteVector vector) (hm : mode.isHybrid = true) :
    compile className searchText mode vector filters limit =
      .ok { className, mode, search := .hybrid searchText (usableVector? vector),
            filter := mode.condition? filters, limit } := by
  refine compile_eq_ok_iff.2 ⟨hv, _, ?_, rfl⟩
  cases mode <;> simp_all [Mode.isHybrid, SearchClause.ofMode?]

/-! ## Searches without a query -/

/-- There is no vector, or one without components. -/
def LacksVector (vector : Option (List Single)) : Prop := vector = none ∨ vector = some []

/-- **Vectors that no search tells apart**: an empty one is the same as none. -/
def SameVector (vector vector' : Option (List Single)) : Prop :=
  vector = vector' ∨ LacksVector vector ∧ LacksVector vector'

theorem usableVector?_eq_none_iff : usableVector? vector = none ↔ LacksVector vector := by
  unfold LacksVector usableVector?
  split <;> simp_all

theorem usableVector?_eq_self (h : ¬LacksVector vector) : usableVector? vector = vector := by
  unfold usableVector?
  split
  · exact absurd (.inr rfl) h
  · rfl

theorem usableVector?_eq_iff :
    usableVector? vector = usableVector? vector' ↔ SameVector vector vector' := by
  constructor
  · intro h
    by_cases hv : LacksVector vector
    · rw [usableVector?_eq_none_iff.2 hv, eq_comm, usableVector?_eq_none_iff] at h
      exact .inr ⟨hv, h⟩
    · have hv' : ¬LacksVector vector' := by
        rwa [← usableVector?_eq_none_iff, ← h, usableVector?_eq_none_iff]
      rw [usableVector?_eq_self hv, usableVector?_eq_self hv'] at h
      exact .inl h
  · rintro (rfl | ⟨hv, hv'⟩)
    · rfl
    · rw [usableVector?_eq_none_iff.2 hv, usableVector?_eq_none_iff.2 hv']

theorem SearchClause.ofMode?_eq_none_iff :
    ofMode? searchText vector mode = none ↔ mode = .vector ∧ LacksVector vector := by
  cases mode <;> simp [ofMode?, usableVector?_eq_none_iff]

/-- **When there is no query, and why.** What is not finite is refused first. -/
theorem compile_eq_error_iff : compile className searchText mode vector filters limit = .error e ↔
    (¬IsFiniteVector vector ∧
      e = .invalidRequest "Query vector contains a non-finite value.") ∨
    (IsFiniteVector vector ∧ mode = .vector ∧ LacksVector vector ∧ e = .missingVector) := by
  -- in the terms in which it is decided
  rw [← any_not_isFinite_eq_false_iff, ← usableVector?_eq_none_iff]
  unfold compile
  split
  · next h => simp [h, eq_comm]
  · next h =>
    rw [Bool.not_eq_true] at h
    cases mode <;> simp [h]
    cases usableVector? vector <;> simp [eq_comm]

theorem exists_compile_eq_ok_iff :
    (∃ q, compile className searchText mode vector filters limit = .ok q) ↔
      IsFiniteVector vector ∧ ¬(mode = .vector ∧ LacksVector vector) := by
  rw [← @SearchClause.ofMode?_eq_none_iff searchText, ← Ne, Option.ne_none_iff_exists']
  constructor
  · rintro ⟨q, h⟩
    obtain ⟨hv, s, hs, -⟩ := compile_eq_ok_iff.1 h
    exact ⟨hv, s, hs⟩
  · rintro ⟨hv, s, hs⟩
    exact ⟨_, compile_eq_ok_iff.2 ⟨hv, s, hs, rfl⟩⟩

/-! ## What a query depends on -/

/-- **Two searches of one mode have the same query** exactly if they have the same way of scoring
and the same condition. -/
theorem eq_iff_of_compile
    (h : compile className searchText mode vector filters limit = .ok q)
    (h' : compile className searchText' mode vector' filters' limit = .ok q') :
    q = q' ↔ SearchClause.ofMode? searchText vector mode =
        SearchClause.ofMode? searchText' vector' mode ∧
      mode.condition? filters = mode.condition? filters' := by
  obtain ⟨-, s, hs, rfl⟩ := compile_eq_ok_iff.1 h
  obtain ⟨-, s', hs', rfl⟩ := compile_eq_ok_iff.1 h'
  simp [hs, hs']

/-- The document of a query does not say for which mode it was compiled. -/
theorem CompiledQuery.text_congr (hc : q.className = q'.className) (hs : q.search = q'.search)
    (hf : q.filter = q'.filter) (hl : q.limit = q'.limit) : q.text = q'.text := by
  unfold text render renderArguments
  rw [hc, hs, hf, hl]

/-- **What decides over the query of a search**, for one class and one limit. -/
structure IsSelective (className : String) (limit : Nat) : Prop where
  /-- A search is refused exactly if a component of its vector is not finite, in every mode. -/
  invalidRequest : ∀ text mode vector filters message,
    compile className text mode vector filters limit = .error (.invalidRequest message) ↔
      (∃ v ∈ vector, ∃ x ∈ v, x.isFinite = false) ∧
        message = "Query vector contains a non-finite value."
  /-- Otherwise a vector is missing exactly if the mode scores by vector alone and there is none. -/
  missingVector : ∀ text mode vector filters,
    compile className text mode vector filters limit = .error .missingVector ↔
      IsFiniteVector vector ∧ mode = .vector ∧ LacksVector vector
  /-- Otherwise there is a query. -/
  succeeds : ∀ text mode vector filters,
    (∃ q, compile className text mode vector filters limit = .ok q) ↔
      IsFiniteVector vector ∧ ¬(mode = .vector ∧ LacksVector vector)
  /-- The lexical mode reads the text only ... -/
  lexical : ∀ text text' vector vector' filters filters' q q',
    compile className text .lexical vector filters limit = .ok q →
    compile className text' .lexical vector' filters' limit = .ok q' → (q = q' ↔ text = text')
  /-- ... the vector mode the vector only ... -/
  vector : ∀ text text' vector vector' filters filters' q q',
    compile className text .vector vector filters limit = .ok q →
    compile className text' .vector vector' filters' limit = .ok q' → (q = q' ↔ vector = vector')
  /-- ... the hybrid mode the text and the vector ... -/
  hybrid : ∀ text text' vector vector' filters filters' q q',
    compile className text .hybrid vector filters limit = .ok q →
    compile className text' .hybrid vector' filters' limit = .ok q' →
      (q = q' ↔ text = text' ∧ SameVector vector vector')
  /-- ... and the filtered mode these two and the condition of the filters. -/
  hybridFiltered : ∀ text text' vector vector' filters filters' q q',
    compile className text .hybridFiltered vector filters limit = .ok q →
    compile className text' .hybridFiltered vector' filters' limit = .ok q' →
      (q = q' ↔ text = text' ∧ SameVector vector vector' ∧
        Predicate.ofFilters? filters = Predicate.ofFilters? filters')
  /-- Without a condition the two hybrid modes have the same document. -/
  unfiltered : ∀ text vector vector' filters filters' q q',
    compile className text .hybrid vector filters limit = .ok q →
    compile className text .hybridFiltered vector' filters' limit = .ok q' →
    SameVector vector vector' → Predicate.ofFilters? filters' = none → q.text = q'.text

/-- **Every mode reads its own inputs only**, and nothing but the vector and the mode decides
whether there is a query. -/
theorem isSelective_compile (className : String) (limit : Nat) : IsSelective className limit where
  invalidRequest text mode vector filters message := by
    rw [compile_eq_error_iff]
    simp [IsFiniteVector]
  missingVector text mode vector filters := by
    rw [compile_eq_error_iff]
    simp
  succeeds _ _ _ _ := exists_compile_eq_ok_iff
  lexical text text' vector vector' filters filters' q q' h h' := by
    rw [eq_iff_of_compile h h']
    simp [SearchClause.ofMode?, Mode.condition?]
  vector text text' vector vector' filters filters' q q' h h' := by
    -- there is a query, so both vectors can be scored with
    have hv : ¬LacksVector vector := fun hl => (exists_compile_eq_ok_iff.1 ⟨q, h⟩).2 ⟨rfl, hl⟩
    have hv' : ¬LacksVector vector' := fun hl => (exists_compile_eq_ok_iff.1 ⟨q', h'⟩).2 ⟨rfl, hl⟩
    rw [eq_iff_of_compile h h', SearchClause.ofMode?, SearchClause.ofMode?,
      usableVector?_eq_self hv, usableVector?_eq_self hv']
    simp [Mode.condition?, Option.map_inj_right]
  hybrid text text' vector vector' filters filters' q q' h h' := by
    rw [eq_iff_of_compile h h']
    simp [SearchClause.ofMode?, Mode.condition?, usableVector?_eq_iff]
  hybridFiltered text text' vector vector' filters filters' q q' h h' := by
    rw [eq_iff_of_compile h h']
    simp [SearchClause.ofMode?, Mode.condition?, usableVector?_eq_iff, and_assoc]
  unfiltered text vector vector' filters filters' q q' h h' hv hf := by
    rw [← usableVector?_eq_iff] at hv
    obtain ⟨-, s, hs, rfl⟩ := compile_eq_ok_iff.1 h
    obtain ⟨-, s', hs', rfl⟩ := compile_eq_ok_iff.1 h'
    refine CompiledQuery.text_congr rfl ?_ hf.symm rfl
    -- both modes score by the text and the vector
    rw [← Option.some.inj hs, ← Option.some.inj hs', hv]

end Storefront
