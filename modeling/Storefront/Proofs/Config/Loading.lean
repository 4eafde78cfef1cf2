import Storefront.Extraction.Extractor
import Storefront.Proofs.Config.Rewording
import Storefront.Proofs.Extraction.Preference
import Storefront.Proofs.Number.FixedPoint

/-!
# Loaded configurations

A configuration that a text gives is in normal form and has no fault, so what the rest of the
program relies on holds of it: URLs that paths can be put behind, keys that are not blank, a class
that a query can name, numbers that are not zero, a threshold between zero and one, and a vocabulary
in which there is something to match.

## Main definitions

* `Backend.IsSound`, `EmbeddingService.IsSound`, `SearchSettings.IsSound`, `Vocabulary.IsSound`,
  `Config.IsSound`: what can be relied on
* `Config.LoadsStably`: what a text gives is sound, and does not depend on how it is worded

## Main results

* `Config.isSound_of_fault?_eq_none`: a configuration in normal form without a fault is sound
* `Config.loadsStably`: every text is loaded so
-/

namespace Storefront

open Text Extraction

/-! ## What can be relied on -/

/-- A URL that paths can be put behind: it is not blank and does not end in a slash. -/
structure IsBase (url : String) : Prop where
  isVisible : IsVisible url
  getLast?_ne : url.toList.getLast? ≠ some '/'

/-- **The backend can be used**, and queries can name its class. -/
structure Backend.IsSound (b : Backend) : Prop where
  url : IsBase b.url
  apiKey : ∀ key ∈ b.apiKey, IsVisible key
  isClassName : isClassName b.className = true
  isName : Query.isName b.className.toList = true
  capital : ∃ c ∈ b.className.toList.head?, 'A' ≤ c ∧ c ≤ 'Z'
  timeout_pos : 0 < b.timeoutMs

/-- **The service can be used.** -/
structure EmbeddingService.IsSound (e : EmbeddingService) : Prop where
  apiBase : IsBase e.apiBase
  apiKey : ∀ key ∈ e.apiKey, IsVisible key
  dimensions_pos : ∀ n ∈ e.dimensions, 0 < n
  timeout_pos : 0 < e.timeoutMs

/-- **A search shows something**, and its threshold is a number between zero and one. -/
structure SearchSettings.IsSound (s : SearchSettings) : Prop where
  limit_pos : 0 < s.defaultLimit
  isFinite : s.relevanceThreshold.isFinite = true
  nonneg : 0 ≤ s.relevanceThreshold.toRat
  le_one : s.relevanceThreshold.toRat ≤ 1

/-- **No entry of a vocabulary is blank**, and both patterns have entries; one without any would not
exist. -/
structure Vocabulary.IsSound (v : Vocabulary) : Prop where
  isVisible : ∀ s ∈ v.pricePhrases ++ v.colors, IsVisible s
  phrases_ne_nil : (Extractor.ofVocabulary v).phrases ≠ []
  colors_ne_nil : (Extractor.ofVocabulary v).colors ≠ []

namespace Config

/-- **A configuration that can be relied on.** -/
structure IsSound (c : Config) : Prop where
  normalize_eq : c.normalize = c
  fault?_eq_none : c.fault? = none
  backend : c.backend.IsSound
  embedding : ∀ e ∈ c.embedding, e.IsSound
  search : c.search.IsSound
  vocabulary : ∀ v ∈ c.vocabulary, v.IsSound

/-- **What a text gives is sound, and does not depend on how it is worded.** -/
structure LoadsStably (text : String) : Prop where
  sound : ∀ c, load (some text) = .ok c → c.IsSound ∧
    ∃ said, ofToml? text = some said ∧ c.IsNormalOf said
  normalizes : ∀ said, ofToml? text = some said → said.normalize.IsNormalOf said
  loosened : ∀ other said said', ofToml? text = some said → ofToml? other = some said' →
    said.IsLoosening said' → load (some other) = load (some text)
  reworded : ∀ other d d', Toml.read? text = some d → Toml.read? other = some d' →
    Rewords d.reading d'.reading → load (some other) = load (some text)

end Config

/-! ## What the requirements say -/

theorem isVisible_of_notBlank {field value : String} (h : (Config.notBlank field value).1 = true) :
    IsVisible value := by
  rw [← isBlankText_eq_false_iff]
  simpa [Config.notBlank] using h

theorem pos_of_notZero {field : String} {value : Nat} (h : (Config.notZero field value).1 = true) :
    0 < value := by
  have hne : value ≠ 0 := by simpa [Config.notZero] using h
  omega

theorem exists_capital_of_isClassName {s : String} (h : isClassName s = true) :
    ∃ c ∈ s.toList.head?, 'A' ≤ c ∧ c ≤ 'Z' := by
  unfold isClassName at h
  split at h
  · next c rest hs =>
    rw [Bool.and_eq_true] at h
    rw [hs]
    exact ⟨c, rfl, by simpa [Char.isUpper, Char.le_def] using h.1⟩
  · cases h

theorem toRat_ofInt_zero : (Binary.ofInt .single 0).toRat = 0 := by
  simp [Binary.ofInt, Binary.ofSign, Binary.toRat, Binary.units]

theorem toRat_ofInt_one : (Binary.ofInt .single 1).toRat = 1 := by
  have hunits : (Binary.ofInt .single 1).units = Nat.pow 2 149 := by decide +kernel
  have hsign : (Binary.ofInt .single 1).isNegative = false := by decide +kernel
  rw [Binary.toRat, hunits, hsign]
  norm_num [Format.single]

theorem SearchSettings.isSound {s : SearchSettings}
    (h : ∀ r ∈ Config.searchRequirements s, r.1 = true) : s.IsSound := by
  simp only [Config.searchRequirements, List.forall_mem_cons, List.not_mem_nil, false_implies,
    implies_true, and_true, Bool.and_eq_true] at h
  obtain ⟨hlimit, hfinite, hzero, hone⟩ := h
  refine ⟨pos_of_notZero hlimit, hfinite, ?_, ?_⟩
  · rwa [Binary.atLeast_iff_toRat_le hfinite (by decide +kernel), toRat_ofInt_zero] at hzero
  · rwa [Binary.atLeast_iff_toRat_le (by decide +kernel) hfinite, toRat_ofInt_one] at hone

/-- An entry that is not blank spells one of the lexicon. -/
theorem lexicon_ne_nil {entries : List String} {s : String} (hs : s ∈ entries)
    (h : IsVisible s) : lexicon entries ≠ [] := by
  have hwords : words s.toList ≠ [] := by
    rw [words_ne_nil_iff, Ne, solid_eq_nil_iff]
    intro hall
    obtain ⟨c, hc, hblank⟩ := h
    rw [hall c hc] at hblank
    cases hblank
  exact List.ne_nil_of_mem (mem_lexicon.2 ⟨s, hs, ofText?_eq_some_iff.2 ⟨hwords, rfl⟩⟩)

theorem lexicon_of_entryRequirements {field : String} {entries : List String}
    (h : ∀ r ∈ Config.entryRequirements field entries, r.1 = true) :
    (∀ s ∈ entries, IsVisible s) ∧ lexicon entries ≠ [] := by
  simp only [Config.entryRequirements, List.forall_mem_cons, List.not_mem_nil, false_implies,
    implies_true, and_true, List.all_eq_true, Bool.not_eq_true', isBlankText_eq_false_iff] at h
  obtain ⟨hne, hvisible⟩ := h
  refine ⟨hvisible, ?_⟩
  cases entries with
  | nil => cases hne
  | cons s rest => exact lexicon_ne_nil List.mem_cons_self (hvisible s List.mem_cons_self)

theorem Vocabulary.isSound {v : Vocabulary}
    (h : ∀ r ∈ Config.vocabularyRequirements v, r.1 = true) : v.IsSound := by
  rw [Config.vocabularyRequirements, List.forall_mem_append] at h
  obtain ⟨hphrases, hphrases'⟩ := lexicon_of_entryRequirements h.1
  obtain ⟨hcolors, hcolors'⟩ := lexicon_of_entryRequirements h.2
  exact ⟨List.forall_mem_append.2 ⟨hphrases, hcolors⟩, hphrases', hcolors'⟩

theorem EmbeddingService.isSound {e said : EmbeddingService} (hn : e.IsNormalOf said)
    (h : ∀ r ∈ Config.embeddingRequirements e, r.1 = true) : e.IsSound := by
  simp only [Config.embeddingRequirements, List.forall_mem_cons] at h
  obtain ⟨hbase, -, hdimensions, htimeout, -⟩ := h
  refine ⟨⟨isVisible_of_notBlank hbase, hn.apiBase.getLast?_ne⟩, hn.apiKey.isVisible, ?_,
    pos_of_notZero htimeout⟩
  intro n hd
  rw [Option.mem_def] at hd
  simpa [hd] using pos_of_notZero hdimensions

namespace Config

/-- **A configuration in normal form without a fault is sound.** -/
theorem isSound_of_fault?_eq_none {c : Config} (hn : c.normalize = c) (h : c.fault? = none) :
    c.IsSound := by
  have hnormal : c.IsNormalOf c := by
    have := c.isNormalOf_normalize
    rwa [hn] at this
  have hall := fault?_eq_none_iff.1 h
  simp only [requirements, List.forall_mem_append, List.forall_mem_cons] at hall
  obtain ⟨⟨⟨⟨-, hurl, hclass, htimeout, -⟩, hsearch⟩, hembedding⟩, hvocabulary⟩ := hall
  refine ⟨hn, h, ?_, ?_, SearchSettings.isSound hsearch, ?_⟩
  · have hbase : IsBase c.backend.url :=
      ⟨isVisible_of_notBlank hurl, hnormal.backend.url.getLast?_ne⟩
    exact ⟨hbase, hnormal.backend.apiKey.isVisible, hclass, isName_of_isClassName hclass,
      exists_capital_of_isClassName hclass, pos_of_notZero htimeout⟩
  · intro e he
    rw [Option.mem_def] at he
    have hservice := hnormal.embedding
    rw [he] at hembedding hservice
    cases hservice with
    | some hservice => exact EmbeddingService.isSound hservice hembedding
  · intro v hv
    rw [Option.mem_def] at hv
    rw [hv] at hvocabulary
    exact Vocabulary.isSound hvocabulary

/-- **Every text is loaded stably.** -/
theorem loadsStably (text : String) : LoadsStably text := by
  constructor
  case sound =>
    intro c h
    obtain ⟨s, said, hs, hsaid, rfl, hfault⟩ := load_eq_ok_iff.1 h
    obtain rfl := Option.some.inj hs
    exact ⟨isSound_of_fault?_eq_none said.normalize_normalize hfault, said, hsaid,
      said.isNormalOf_normalize⟩
  case normalizes => exact fun said _ => said.isNormalOf_normalize
  case loosened => exact fun _ _ _ hs ht h => load_eq_of_isLoosening hs ht h
  case reworded => exact fun _ _ _ hs ht h => load_eq_of_rewords hs ht h

/-- The tokens of two lines that say where to listen and the URL of the backend. -/
def shortTokens (url : String) : List Toml.Token :=
  [.bare "service".toList, .mark '.', .bare "http_bind".toList, .mark '=', .text "a" false,
    .lineEnd, .bare "backend".toList, .mark '.', .bare "url".toList, .mark '=', .text url false,
    .lineEnd]

theorem reading_of_shortTokens {text url : String} (h : Toml.tokens text.toList = shortTokens url) :
    ∃ d, Toml.read? text = some d ∧ d.reading = .object
      [(some "service", .object [(some "http_bind", .text (some "a"))]),
        (some "backend", .object [(some "url", .text (some url))])] := by
  refine ⟨((shortTokens url).foldl Toml.Reader.step {}).document, ?_, rfl⟩
  rw [Toml.read?, h]
  exact if_pos rfl

/-- Two more slashes behind the URL of the backend are taken away, too. -/
theorem load_of_more_slashes :
    ∃ c, load (some "service.http_bind='a'\nbackend.url='b/'") = .ok c ∧ c.IsSound ∧
      load (some "service.http_bind='a'\nbackend.url='b///'") = .ok c := by
  have hstable := loadsStably "service.http_bind='a'\nbackend.url='b/'"
  have hloaded : (load (some "service.http_bind='a'\nbackend.url='b/'")).toBool = true := by
    decide +kernel
  obtain ⟨d, hd, hreading⟩ := reading_of_shortTokens
    (show Toml.tokens "service.http_bind='a'\nbackend.url='b/'".toList = shortTokens "b/" by
      decide +kernel)
  obtain ⟨d', hd', hreading'⟩ := reading_of_shortTokens
    (show Toml.tokens "service.http_bind='a'\nbackend.url='b///'".toList = shortTokens "b///" by
      decide +kernel)
  have hrewords : Rewords d.reading d'.reading := by
    rw [hreading, hreading']
    exact .backend (.slashes 2 "b/" (.member [] [] _ _)) (.member [_] [] _ _)
  cases h : load (some "service.http_bind='a'\nbackend.url='b/'") with
  | error e =>
    rw [h] at hloaded
    cases hloaded
  | ok c => exact ⟨c, rfl, (hstable.sound c h).1, (hstable.reworded _ d d' hd hd' hrewords).trans h⟩

end Config

end Storefront
