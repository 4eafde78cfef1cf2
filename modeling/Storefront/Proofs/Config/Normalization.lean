import Mathlib.Data.List.TakeWhile
import Storefront.Config.Normal
import Storefront.Proofs.Text.Layout

/-!
# What normal form changes

Slashes at the end of a URL and keys that are blank are all that a configuration loses when it is
brought into normal form. So configurations that differ in these alone have one normal form.

## Main definitions

* `IsVisible`: a text that is not blank
* `slashes`: a text of so many slashes
* `IsTrimOf`, `IsKeyOf`: a URL without its last slashes, and a key unless it is blank
* `Config.IsNormalOf`: a configuration of which nothing but URLs and keys has changed, and those so
* `Config.IsLoosening`: a configuration with more slashes behind a URL, or with a blank key

## Main results

* `Config.isNormalOf_normalize`: what normal form changes
* `Config.IsLoosening.normalize_eq`: loosening a configuration keeps its normal form
-/

namespace Storefront

open Text

/-- A text with a character that is not white space. -/
def IsVisible (s : String) : Prop := ∃ c ∈ s.toList, isBlank c = false

theorem isBlankText_eq_false_iff {s : String} : isBlankText s = false ↔ IsVisible s := by
  simp [isBlankText, IsVisible]

/-! ## URLs -/

/-- So many slashes. -/
def slashes (k : Nat) : String := String.ofList (List.replicate k '/')

/-- **A URL without the slashes at its end.** -/
structure IsTrimOf (url said : String) : Prop where
  exists_eq : ∃ k, said = url ++ slashes k
  getLast?_ne : url.toList.getLast? ≠ some '/'

/-- Nothing but slashes is taken away. -/
theorem exists_eq_trimSlashes_append (s : String) : ∃ k, s = trimSlashes s ++ slashes k := by
  let isSlash : Char → Bool := fun c => decide (c = '/')
  have hslashes : ∀ c ∈ s.toList.reverse.takeWhile isSlash, c = '/' := by
    intro c hc
    simpa [isSlash] using List.mem_takeWhile_imp hc
  refine ⟨(s.toList.reverse.takeWhile isSlash).length, String.toList_inj.1 ?_⟩
  calc s.toList
      = (s.toList.reverse.takeWhile isSlash ++ s.toList.reverse.dropWhile isSlash).reverse := by
        rw [List.takeWhile_append_dropWhile, List.reverse_reverse]
    _ = (s.toList.reverse.dropWhile isSlash).reverse ++
          List.replicate (s.toList.reverse.takeWhile isSlash).length '/' := by
        rw [List.reverse_append, List.eq_replicate_of_mem hslashes, List.reverse_replicate,
          List.length_replicate]
    _ = (trimSlashes s ++ slashes (s.toList.reverse.takeWhile isSlash).length).toList := by
        rw [String.toList_append, trimSlashes, slashes, String.toList_ofList, String.toList_ofList]

theorem isTrimOf_trimSlashes (s : String) : IsTrimOf (trimSlashes s) s := by
  refine ⟨exists_eq_trimSlashes_append s, ?_⟩
  rw [trimSlashes, String.toList_ofList, List.getLast?_reverse]
  intro h
  have hhead := List.head?_dropWhile_not (fun c => decide (c = '/')) s.toList.reverse
  rw [h] at hhead
  simp at hhead

theorem trimSlashes_append_slashes (s : String) (k : Nat) :
    trimSlashes (s ++ slashes k) = trimSlashes s := by
  have hdrop : (List.replicate k '/' ++ s.toList.reverse).dropWhile (· = '/') =
      s.toList.reverse.dropWhile (· = '/') := by
    induction k with
    | zero => rfl
    | succ k ih =>
      rw [List.replicate_succ, List.cons_append, List.dropWhile_cons_of_pos (by simp), ih]
  simp only [trimSlashes, slashes, String.toList_append, String.toList_ofList, List.reverse_append,
    List.reverse_replicate, hdrop]

/-! ## Keys -/

/-- **A key unless it is blank.** -/
inductive IsKeyOf : Option String → Option String → Prop
  | missing : IsKeyOf none none
  | blank {key : String} (h : isBlankText key = true) : IsKeyOf none (some key)
  | kept {key : String} (h : IsVisible key) : IsKeyOf (some key) (some key)

theorem isKeyOf_usableKey? (key : Option String) : IsKeyOf (usableKey? key) key := by
  cases key with
  | none => exact .missing
  | some key =>
    cases h : isBlankText key with
    | true =>
      rw [usableKey?, Option.filter_some_neg (by simp [h])]
      exact .blank h
    | false =>
      rw [usableKey?, Option.filter_some_pos (by simp [h])]
      exact .kept (isBlankText_eq_false_iff.1 h)

theorem IsKeyOf.isVisible {key said : Option String} (h : IsKeyOf key said) :
    ∀ k ∈ key, IsVisible k := by
  cases h with
  | missing => simp
  | blank h => simp
  | kept h => simpa using h

/-! ## Configurations -/

/-- **Nothing but the URL and the key of a backend has changed**, and those into their normal
form. -/
structure Backend.IsNormalOf (b said : Backend) : Prop where
  others : b = { said with url := b.url, apiKey := b.apiKey }
  url : IsTrimOf b.url said.url
  apiKey : IsKeyOf b.apiKey said.apiKey

/-- **Nothing but the URL and the key of a service has changed**, and those into their normal
form. -/
structure EmbeddingService.IsNormalOf (e said : EmbeddingService) : Prop where
  others : e = { said with apiBase := e.apiBase, apiKey := e.apiKey }
  apiBase : IsTrimOf e.apiBase said.apiBase
  apiKey : IsKeyOf e.apiKey said.apiKey

/-- The backend with slashes behind its URL, or with a blank key where it had none. -/
inductive Backend.IsLoosening (b : Backend) : Backend → Prop
  | slashes (k : Nat) : IsLoosening b { b with url := b.url ++ slashes k }
  | blankKey {key : String} (h : b.apiKey = none) (hb : isBlankText key = true) :
    IsLoosening b { b with apiKey := some key }

/-- The service with slashes behind its URL, or with a blank key where it had none. -/
inductive EmbeddingService.IsLoosening (e : EmbeddingService) : EmbeddingService → Prop
  | slashes (k : Nat) : IsLoosening e { e with apiBase := e.apiBase ++ slashes k }
  | blankKey {key : String} (h : e.apiKey = none) (hb : isBlankText key = true) :
    IsLoosening e { e with apiKey := some key }

namespace Config

/-- **Nothing but the URLs and the keys of a configuration has changed**, and those into their
normal form. -/
structure IsNormalOf (c said : Config) : Prop where
  others : c = { said with backend := c.backend, embedding := c.embedding }
  backend : c.backend.IsNormalOf said.backend
  embedding : Option.Rel EmbeddingService.IsNormalOf c.embedding said.embedding

/-- **A configuration is loosened**: slashes stand behind a URL, or a key is blank where there was
none. -/
inductive IsLoosening (c : Config) : Config → Prop
  | backend {b : Backend} (h : c.backend.IsLoosening b) : IsLoosening c { c with backend := b }
  | embedding {e e' : EmbeddingService} (he : c.embedding = some e) (h : e.IsLoosening e') :
    IsLoosening c { c with embedding := some e' }

end Config

theorem Backend.isNormalOf_normalize (b : Backend) : b.normalize.IsNormalOf b :=
  ⟨rfl, isTrimOf_trimSlashes _, isKeyOf_usableKey? _⟩

theorem EmbeddingService.isNormalOf_normalize (e : EmbeddingService) : e.normalize.IsNormalOf e :=
  ⟨rfl, isTrimOf_trimSlashes _, isKeyOf_usableKey? _⟩

/-- **What normal form changes.** -/
theorem Config.isNormalOf_normalize (c : Config) : c.normalize.IsNormalOf c := by
  refine ⟨rfl, c.backend.isNormalOf_normalize, ?_⟩
  cases h : c.embedding with
  | none => simp [normalize, h]
  | some e => simpa [normalize, h] using Option.Rel.some e.isNormalOf_normalize

theorem Backend.IsLoosening.normalize_eq {b b' : Backend} (h : b.IsLoosening b') :
    b'.normalize = b.normalize := by
  cases h with
  | slashes k => simp [normalize, trimSlashes_append_slashes]
  | blankKey h hb => simp [normalize, usableKey?, h, hb]

theorem EmbeddingService.IsLoosening.normalize_eq {e e' : EmbeddingService} (h : e.IsLoosening e') :
    e'.normalize = e.normalize := by
  cases h with
  | slashes k => simp [normalize, trimSlashes_append_slashes]
  | blankKey h hb => simp [normalize, usableKey?, h, hb]

/-- **Loosening a configuration keeps its normal form.** -/
theorem Config.IsLoosening.normalize_eq {c c' : Config} (h : c.IsLoosening c') :
    c'.normalize = c.normalize := by
  cases h with
  | backend h => simp [normalize, h.normalize_eq]
  | embedding he h => simp [normalize, he, h.normalize_eq]

end Storefront
