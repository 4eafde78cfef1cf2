import Mathlib.Data.String.Basic
import Storefront.Table

/-!
# Sorted tables

Tables are kept in the order of their keys, character by character, and no key stands in them twice.
Then an entry stands in a table just if it is found under its key.

## Main definitions

* `Table.IsSorted`: the keys of a table ascend

## Main results

* `isSorted_insert`: what is put in its place leaves a table sorted
* `mem_iff_lookup`: the entries of a sorted table are what is found in it
-/

namespace Storefront.Table

variable {α : Type} {table rest : Table α} {key k : String} {value v : α}

/-- **The keys of a table ascend**, so that none stands in it twice. -/
def IsSorted (table : Table α) : Prop := table.Pairwise fun a b => a.1 < b.1

instance (table : Table α) : Decidable table.IsSorted :=
  inferInstanceAs (Decidable (table.Pairwise fun a b => a.1 < b.1))

theorem mem_insert {entry : String × α} (h : entry ∈ insert key value table) :
    entry = (key, value) ∨ entry ∈ table := by
  induction table with
  | nil => exact .inl (List.mem_singleton.1 h)
  | cons first rest ih =>
    obtain ⟨k, v⟩ := first
    unfold insert at h
    split at h
    · rcases List.mem_cons.1 h with h | h
      · exact .inl h
      · exact .inr (List.mem_cons_of_mem _ h)
    · split at h
      · exact List.mem_cons.1 h
      · rcases List.mem_cons.1 h with h | h
        · exact .inr (List.mem_cons.2 (.inl h))
        · exact (ih h).imp_right (List.mem_cons_of_mem _)

theorem isSorted_insert (h : table.IsSorted) (key : String) (value : α) :
    (insert key value table).IsSorted := by
  induction table with
  | nil => exact List.pairwise_singleton ..
  | cons first rest ih =>
    obtain ⟨k, v⟩ := first
    obtain ⟨hfirst, hrest⟩ := List.pairwise_cons.1 h
    unfold insert
    split
    · next he =>
      -- the key is there, and only its value changes
      subst he
      exact List.pairwise_cons.2 ⟨hfirst, hrest⟩
    · next hne =>
      split
      · next hlt =>
        apply List.Pairwise.cons _ h
        intro entry hm
        rcases List.mem_cons.1 hm with rfl | hm
        · exact hlt
        · exact hlt.trans (hfirst entry hm)
      · next hge =>
        apply List.Pairwise.cons _ (ih hrest)
        intro entry hm
        rcases mem_insert hm with rfl | hm
        · exact lt_of_le_of_ne (not_lt.1 hge) (Ne.symm hne)
        · exact hfirst entry hm

theorem nodup_keys (h : table.IsSorted) : (table.map Prod.fst).Nodup :=
  List.pairwise_map.2 (h.imp ne_of_lt)

/-- **The entries of a sorted table are what is found in it.** -/
theorem mem_iff_lookup (h : table.IsSorted) :
    (key, value) ∈ table ↔ table.lookup key = some value := by
  induction table with
  | nil => simp
  | cons first rest ih =>
    obtain ⟨k, v⟩ := first
    obtain ⟨hfirst, hrest⟩ := List.pairwise_cons.1 h
    rw [List.mem_cons, lookup_cons, Prod.mk.injEq, ih hrest]
    split
    · next he =>
      -- A key that stands in front is not found again.
      subst he
      have hno : rest.lookup key ≠ some value := by
        intro hl
        exact lt_irrefl key (hfirst _ ((ih hrest).2 hl))
      simp [hno, eq_comm]
    · next hne => simp [hne]

end Storefront.Table
