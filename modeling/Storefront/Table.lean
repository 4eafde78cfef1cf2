/-!
# Tables

Entries under text keys, kept sorted by key, with at most one entry a key.

## Main definitions

* `Table`: entries under keys
* `Table.insert`: puts an entry in its place
* `Table.ofList`: the table of entries, the last of a key winning

## Main results

* `Table.lookup_cons`, `Table.lookup_insert_self`, `Table.lookup_insert_of_ne`: what is found under
  a key
-/

namespace Storefront

variable {α : Type}

/-- Entries under keys. -/
abbrev Table (α : Type) := List (String × α)

namespace Table

/-- **Puts an entry in its place** by key; it replaces an earlier one of the same key. -/
def insert (key : String) (value : α) : Table α → Table α
  | [] => [(key, value)]
  | (k, v) :: rest =>
    if key = k then (key, value) :: rest
    else if key < k then (key, value) :: (k, v) :: rest
    else (k, v) :: insert key value rest

/-- The table of entries. The last of several entries with the same key counts. -/
def ofList (entries : List (String × α)) : Table α :=
  entries.foldl (fun table (k, v) => insert k v table) []

theorem lookup_cons (key k : String) (v : α) (rest : Table α) :
    List.lookup key ((k, v) :: rest) = if key = k then some v else List.lookup key rest := by
  by_cases h : key = k
  · simp [h]
  · simp [List.lookup_cons, h, beq_eq_false_iff_ne.2 h]

@[simp] theorem lookup_insert_self (key : String) (value : α) (table : Table α) :
    (insert key value table).lookup key = some value := by
  induction table with
  | nil => simp [insert]
  | cons entry rest ih =>
    obtain ⟨k, v⟩ := entry
    unfold insert
    split
    · simp
    · split
      · simp
      · simp [lookup_cons, *]

theorem lookup_insert_of_ne {key other : String} (value : α) (table : Table α)
    (h : other ≠ key) : (insert key value table).lookup other = table.lookup other := by
  induction table with
  | nil => simp [insert, lookup_cons, h]
  | cons entry rest ih =>
    obtain ⟨k, v⟩ := entry
    unfold insert
    split
    · next hk => subst hk; simp [lookup_cons, h]
    · split
      · simp [lookup_cons, h]
      · simp [lookup_cons, ih]

end Table

end Storefront
