import Storefront.Execution
import Storefront.Proofs.Traversal

/-!
# What a body holds for a class

A body holds something for a class three members down: under its name, in what stands under "Get",
in what stands under "data". Where one of these is missing, or is looked for in what is no object,
the body holds nothing. This is said here of the members themselves, and the laws of what is read
of a body are stated by it.

## Main definitions

* `Json.HasMember`: a value has a member
* `Execution.Holds`: a body holds something for a class
* `Execution.IsReadable`: a body that holds nothing, null or a list of objects for a class

## Main results

* `get?_eq_some_iff`: which member is found
* `rows?_eq_some_iff`, `rows?_eq_none_iff`: what is found for a class
* `exists_ofBody_of_isReadable`, `exists_ofBody_of_not_isReadable`: which bodies are taken
* `blame_of_ofBody_eq_error`: what is wrong with the others
-/

namespace Storefront

open Json

/-! ## Members -/

namespace Json

variable {v found : Json} {key : String}

/-- **A value has a member**: it is an object, and the first of its members with that key has the
given value. -/
inductive HasMember : Json → String → Json → Prop
  /-- An object has what its list of members gives for the key. -/
  | object {members : List (String × Json)} {key : String} {found : Json}
      (h : members.lookup key = some found) : HasMember (.object members) key found

theorem lookup_eq_some_iff {members : List (String × Json)} :
    members.lookup key = some found ↔ HasMember (.object members) key found := by
  constructor
  · exact .object
  · rintro ⟨h⟩
    exact h

theorem get?_eq_some_iff : v.get? key = some found ↔ HasMember v key found := by
  constructor
  · intro h
    cases v with
    | object members => exact .object h
    | null | bool | number | text | array => cases h
  · rintro ⟨h⟩
    exact h

end Json

/-! ## Bodies -/

namespace Execution

variable {body found : Json} {className : String} {e : SearchError}

/-- **A body holds something for a class**: it has a member "data", that has a member "Get", and
that has what is held under the name of the class. -/
def Holds (body : Json) (className : String) (found : Json) : Prop :=
  ∃ data get, HasMember body "data" data ∧ HasMember data "Get" get ∧ HasMember get className found

theorem rows?_eq_some_iff : rows? body className = some found ↔ Holds body className found := by
  simp only [rows?, Option.bind_eq_some_iff, get?_eq_some_iff, Holds]
  constructor
  · rintro ⟨get, ⟨data, hd, hg⟩, hf⟩
    exact ⟨data, get, hd, hg, hf⟩
  · rintro ⟨data, get, hd, hg, hf⟩
    exact ⟨get, ⟨data, hd, hg⟩, hf⟩

theorem rows?_eq_none_iff : rows? body className = none ↔ ∀ found, ¬Holds body className found := by
  simp only [Option.eq_none_iff_forall_ne_some, ne_eq, rows?_eq_some_iff]

/-- A body holds at most one value for a class. -/
theorem Holds.unique {found' : Json} (h : Holds body className found)
    (h' : Holds body className found') : found = found' :=
  Option.some.inj ((rows?_eq_some_iff.2 h).symm.trans (rows?_eq_some_iff.2 h'))

/-- **A body that can be read for a class**: what it holds for the class, if it holds anything, is
null or a list of objects. -/
def IsReadable (body : Json) (className : String) : Prop :=
  ∀ found, Holds body className found → found = .null ∨
    ∃ rows, found = .array rows ∧ ∀ row ∈ rows, ∃ members, row = .object members

/-- Every row that is an object has its record. -/
theorem exists_mapM_ofRow? {rows : List Json} (h : ∀ row ∈ rows, ∃ members, row = .object members) :
    ∃ records, rows.mapM RankedRecord.ofRow? = some records := by
  have hr : ∀ row ∈ rows, ∃ r, RankedRecord.ofRow? row = some r := by
    intro row hm
    obtain ⟨members, rfl⟩ := h row hm
    exact ⟨_, rfl⟩
  obtain ⟨records, hrecords⟩ := exists_forall₂ hr
  exact ⟨records, mapM_eq_some_iff.2 hrecords⟩

/-- Only objects have records. -/
theorem isObject_of_mapM_ofRow? {rows : List Json} {records : List RankedRecord}
    (h : rows.mapM RankedRecord.ofRow? = some records) :
    ∀ row ∈ rows, ∃ members, row = .object members := by
  intro row hm
  obtain ⟨r, -, hr⟩ := exists_partner (mapM_eq_some_iff.1 h) hm
  cases row with
  | object members => exact ⟨members, rfl⟩
  | null | bool | number | text | array => cases hr

/-- **A body that can be read is taken**, with the errors that it lists. -/
theorem exists_ofBody_of_isReadable (h : IsReadable body className) :
    ∃ records, ofBody body className = .ok { records, rawErrors := queryErrors body } := by
  unfold ofBody
  cases hf : rows? body className with
  | none => exact ⟨[], rfl⟩
  | some found =>
    rcases h found (rows?_eq_some_iff.1 hf) with rfl | ⟨rows, rfl, hr⟩
    · exact ⟨[], rfl⟩
    · obtain ⟨records, hm⟩ := exists_mapM_ofRow? hr
      refine ⟨records, ?_⟩
      simp only [hm]

/-- **A body that cannot be read is an error of the query.** -/
theorem exists_ofBody_of_not_isReadable (h : ¬IsReadable body className) :
    ∃ detail, ofBody body className = .error (.backendQueryError detail) := by
  unfold ofBody
  split
  · -- Where nothing is held, nothing is wrong.
    next hf => exact absurd (fun found hh => absurd hh (rows?_eq_none_iff.1 hf found)) h
  · next hf => exact absurd (fun found hh => .inl (hh.unique (rows?_eq_some_iff.1 hf))) h
  · next rows hf =>
    split
    · -- If every row had a record, the body could be read.
      next hm =>
      refine absurd ?_ h
      intro found hh
      exact .inr ⟨rows, hh.unique (rows?_eq_some_iff.1 hf), isObject_of_mapM_ofRow? hm⟩
    · exact ⟨_, rfl⟩
  · exact ⟨_, rfl⟩

/-- **The error of a body that is not taken** depends on whether it holds a list. -/
theorem blame_of_ofBody_eq_error (h : ofBody body className = .error e) :
    (∃ rows, Holds body className (.array rows) ∧
      e = .backendQueryError "Result record is not an object.") ∨
    ∃ found, Holds body className found ∧ (∀ rows, found ≠ .array rows) ∧
      e = .backendQueryError ("Result for class " ++ className ++ " is not a list.") := by
  simp only [← rows?_eq_some_iff]
  unfold ofBody at h
  split at h
  · cases h
  · cases h
  · next rows hf =>
    split at h
    · cases h
    · exact .inl ⟨rows, hf, (Except.error.inj h).symm⟩
  · next found hn ha hf => exact .inr ⟨found, hf, ha, (Except.error.inj h).symm⟩

end Execution

end Storefront
