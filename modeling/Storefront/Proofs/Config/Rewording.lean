import Storefront.Config.Load
import Storefront.Proofs.Config.Normalization
import Storefront.Proofs.Json.Variation

/-!
# Texts that say the same configuration

A text that has more slashes behind a URL, or a blank key where there was none, says a configuration
that is loosened, if it says one. This is followed from the document of the text through the
decoding of its records, in which all other fields are decoded as before. As a configuration is
brought into normal form before it is checked, both texts give the same configuration, or the same
problem is found in both.

## Main definitions

* `Config.Loosens`: a part with slashes behind its URL, or with a blank key where there was none
* `Config.Rewords`: a document in which the backend or the embedding service is loosened

## Main results

* `alike_decode_backend`, `alike_decode_embeddingService`, `alike_decode_of_rewords`: what is
  decoded is loosened
* `load_eq_of_isLoosening`, `load_eq_of_rewords`: the text gives the same result
-/

namespace Storefront

open Json Text

namespace Config

/-! ## Parts with a URL and a key -/

/-- **A part of a document is loosened**: slashes stand behind its URL, or its key is blank where
there was none. The places are those of the two fields. -/
inductive Loosens (url : String) (urlPlace keyPlace : Nat) : Reading → Reading → Prop
  | slashes {r r' : Reading} (k : Nat) (u : String)
    (h : Vary url urlPlace (some (.text (some u))) (some (.text (some (u ++ slashes k)))) r r') :
    Loosens url urlPlace keyPlace r r'
  | blankKey {r r' : Reading} (key : String) (hb : isBlankText key = true)
    (h : Vary "api_key" keyPlace none (some (.text (some key))) r r') :
    Loosens url urlPlace keyPlace r r'

/-- **A document is reworded**: its backend is loosened, or its embedding service. -/
inductive Rewords : Reading → Reading → Prop
  | backend {r r' b b' : Reading} (h : Loosens "url" 0 1 b b')
    (hr : Vary "backend" 1 (some b) (some b') r r') : Rewords r r'
  | embedding {r r' p p' e e' : Reading} (h : Loosens "api_base" 1 2 e e')
    (hp : Vary "embedding" 0 (some e) (some e') p p')
    (hr : Vary "providers" 2 (some p) (some p') r r') : Rewords r r'

end Config

open Config

/-- **A loosened backend is decoded alike.** -/
theorem alike_decode_backend {r r' : Reading} (h : Loosens "url" 0 1 r r') :
    Alike Backend.IsLoosening (Backend.decode r) (Backend.decode r') := by
  unfold Backend.decode
  cases h with
  | slashes k u h =>
    refine (alike_fields ?_ h).bind fun found found' hf => ?_
    · exact .replaced (by decide) rfl rfl (.ok trivial)
    simp (disch := decide) only [hf.required_old, hf.required_new, hf.optional, hf.defaulted]
    exact .bind_self _ fun key => .bind_self _ fun className => .bind_self _ fun timeout =>
      .bind_self _ fun headers => .ok (.slashes k)
  | blankKey key hb h =>
    refine (alike_fields ?_ h).bind fun found found' hf => ?_
    · exact .added (by decide) rfl rfl (by decide) rfl
    simp (disch := decide) only [hf.optional_old, hf.optional_new, hf.required, hf.defaulted]
    exact .bind_self _ fun url => .bind_self _ fun className => .bind_self _ fun timeout =>
      .bind_self _ fun headers => .ok (.blankKey rfl hb)

/-- **A loosened embedding service is decoded alike.** -/
theorem alike_decode_embeddingService {r r' : Reading} (h : Loosens "api_base" 1 2 r r') :
    Alike EmbeddingService.IsLoosening (EmbeddingService.decode r)
      (EmbeddingService.decode r') := by
  unfold EmbeddingService.decode
  cases h with
  | slashes k u h =>
    refine (alike_fields ?_ h).bind fun found found' hf => ?_
    · exact .replaced (by decide) rfl rfl (.ok trivial)
    simp (disch := decide) only [hf.required_old, hf.required_new, hf.required, hf.optional,
      hf.defaulted]
    exact .bind_self _ fun provider => .bind_self _ fun key => .bind_self _ fun path =>
      .bind_self _ fun model => .bind_self _ fun dimensions => .bind_self _ fun timeout =>
      .bind_self _ fun headers => .ok (.slashes k)
  | blankKey key hb h =>
    refine (alike_fields ?_ h).bind fun found found' hf => ?_
    · exact .added (by decide) rfl rfl (by decide) rfl
    simp (disch := decide) only [hf.optional_old, hf.optional_new, hf.required, hf.optional,
      hf.defaulted]
    exact .bind_self _ fun provider => .bind_self _ fun base => .bind_self _ fun path =>
      .bind_self _ fun model => .bind_self _ fun dimensions => .bind_self _ fun timeout =>
      .bind_self _ fun headers => .ok (.blankKey rfl hb)

namespace Config

/-! ## Whole documents -/

/-- What varies in a field is no null. -/
theorem nullable_of_vary {α : Type} (d : Decoder α) {name : String} {place : Nat}
    {old new : Option Reading} {r r' : Reading} (h : Vary name place old new r r') :
    d.nullable r = (d r).map some ∧ d.nullable r' = (d r').map some := by
  cases h <;> exact ⟨rfl, rfl⟩

theorem nullable_of_loosens {α : Type} (d : Decoder α) {url : String} {urlPlace keyPlace : Nat}
    {r r' : Reading} (h : Loosens url urlPlace keyPlace r r') :
    d.nullable r = (d r).map some ∧ d.nullable r' = (d r').map some := by
  cases h with
  | slashes k u h => exact nullable_of_vary d h
  | blankKey key hb h => exact nullable_of_vary d h

theorem alike_decodeProviders {p p' e e' : Reading} (h : Loosens "api_base" 1 2 e e')
    (hp : Vary "embedding" 0 (some e) (some e') p p') :
    Alike (fun s s' => ∃ a b, s = some a ∧ s' = some b ∧ a.IsLoosening b) (decodeProviders p)
      (decodeProviders p') := by
  obtain ⟨hold, hnew⟩ := nullable_of_loosens EmbeddingService.decode h
  have hservice : Alike (fun s s' => ∃ a b, s = some a ∧ s' = some b ∧ a.IsLoosening b)
      (EmbeddingService.decode.nullable e) (EmbeddingService.decode.nullable e') := by
    rw [hold, hnew]
    apply (alike_decode_embeddingService h).map
    intro a b hab
    exact ⟨a, b, rfl, rfl, hab⟩
  refine (alike_fields ?_ hp).bind fun found found' hf => ?_
  · exact .replaced (by decide) rfl rfl (hservice.map fun _ _ _ => trivial)
  rw [hf.optional_new, Fields.optional, hf.old]
  exact hservice

/-- **A reworded document is decoded alike**, to a configuration that is loosened. -/
theorem alike_decode_of_rewords {r r' : Reading} (h : Rewords r r') :
    Alike IsLoosening (decode r) (decode r') := by
  unfold decode
  cases h with
  | backend h hr =>
    have hbackend := alike_decode_backend h
    refine (alike_fields ?_ hr).bind fun found found' hf => ?_
    · exact .replaced (by decide) rfl rfl (hbackend.map fun _ _ _ => trivial)
    simp (disch := decide) only [hf.required_old, hf.required_new, hf.required, hf.defaulted,
      hf.optional]
    exact .bind_self _ fun server => hbackend.bind fun b b' hb => .bind_self _ fun embedding =>
      .bind_self _ fun search => .bind_self _ fun vocabulary => .ok (.backend hb)
  | embedding h hp hr =>
    have hproviders := alike_decodeProviders h hp
    refine (alike_fields ?_ hr).bind fun found found' hf => ?_
    · exact .replaced (by decide) rfl rfl (hproviders.map fun _ _ _ => trivial)
    simp (disch := decide) only [hf.required, hf.defaulted_old, hf.defaulted_new, hf.defaulted,
      hf.optional]
    refine .bind_self _ fun server => .bind_self _ fun backend => hproviders.bind fun s s' hs =>
      .bind_self _ fun search => .bind_self _ fun vocabulary => ?_
    obtain ⟨e, e', rfl, rfl, he⟩ := hs
    exact .ok (.embedding rfl he)

/-! ## Texts -/

/-- **What a text gives depends on the normal form** of what it says. -/
theorem load_eq_of_map_normalize {s t : String}
    (h : (ofToml? t).map normalize = (ofToml? s).map normalize) :
    load (some t) = load (some s) := by
  cases hs : ofToml? s with
  | none =>
    rw [hs, Option.map_none, Option.map_eq_none_iff] at h
    simp [load, hs, h]
  | some c =>
    rw [hs, Option.map_some, Option.map_eq_some_iff] at h
    obtain ⟨c', ht, hc⟩ := h
    simp [load, hs, ht, hc]

/-- **A text that says a loosened configuration gives the same result.** -/
theorem load_eq_of_isLoosening {s t : String} {c c' : Config} (hs : ofToml? s = some c)
    (ht : ofToml? t = some c') (h : c.IsLoosening c') : load (some t) = load (some s) := by
  apply load_eq_of_map_normalize
  rw [hs, ht, Option.map_some, Option.map_some, h.normalize_eq]

/-- **A reworded text gives the same result**: the same configuration, or the same problem. -/
theorem load_eq_of_rewords {s t : String} {d e : Toml.Document} (hs : Toml.read? s = some d)
    (ht : Toml.read? t = some e) (h : Rewords d.reading e.reading) :
    load (some t) = load (some s) := by
  apply load_eq_of_map_normalize
  have hdecode := (alike_decode_of_rewords h).toOption_map fun _ _ hc => hc.normalize_eq
  simpa [ofToml?, hs, ht] using hdecode

end Config

end Storefront
