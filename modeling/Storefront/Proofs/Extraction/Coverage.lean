import Storefront.Proofs.Extraction.FirstColor

/-!
# How much of the text a color covers

Where several colors stand at one place, the preferred one has the most characters. These are the
characters that its name is written with, white space between its words included, and white space of
the name counts for nothing in the text: it may be wider there, or narrower. So the color that is
taken covers the most of the text, unless its own name is written with more white space between its
words than a space for each gap.

## Main definitions

* `spacedLength`: the length of a name with single spaces between its words
* `innerExcess`: the white space of a name that single spaces would save
* `CoversAt`: a name and the block that it covers at a place
* `IsWidest`: what is known of the other names that stand where one is taken

## Main results

* `dropWords?_eq_of_length_eq`: words of one length take the same from a text
* `StandsAt.length_lt_iff`: of two names at a place, the one with more characters covers more
* `isWidest_of_isFirstColor`: what covers more than the first color is written with less white space
* `extract_color_isWidest`: so it is with a reported color
-/

namespace Storefront

open Extraction Text

namespace Extraction

variable {colors : List String} {name other : String}
  {s t before before' block block' after after' : List Char}

/-! ## Lengths -/

/-- The length of a name with single spaces between its words. -/
def spacedLength (name : String) : Nat := (collapse name.toList).length

/-- **How much white space** between its words a name could do without. -/
def innerExcess (name : String) : Nat := trimmedLength name - spacedLength name

theorem spacedLength_add_innerExcess (name : String) :
    spacedLength name + innerExcess name = trimmedLength name := by
  have hle : spacedLength name ≤ trimmedLength name := by
    unfold spacedLength trimmedLength
    rw [collapse, ← words_trim, ← collapse]
    exact length_collapse_le _
  unfold innerExcess
  omega

/-- Texts with the same words, up to letter case, have the same length when they are collapsed. -/
theorem length_collapse_of_foldedWords_eq (h : foldedWords s = foldedWords t) :
    (collapse s).length = (collapse t).length := by
  have hw := congrArg List.length h
  have hs := congrArg (fun ws => ws.flatten.length) h
  simp only [foldedWords, List.length_map, ← List.map_flatten, flatten_words] at hw hs
  rw [length_collapse, length_collapse, hw, hs]

/-- More words make a longer text. -/
theorem length_collapse_lt_of_foldedWords (hs : words s ≠ []) (h : foldedWords s <+: foldedWords t)
    (hne : foldedWords s ≠ foldedWords t) : (collapse s).length < (collapse t).length := by
  obtain ⟨more, hm⟩ := h
  have hmore : more ≠ [] := by
    rintro rfl
    exact hne (by rw [← hm, List.append_nil])
  have hw := congrArg List.length hm
  have hl := congrArg (fun ws => ws.flatten.length) hm
  simp only [foldedWords, List.length_append, List.length_map, List.flatten_append,
    ← List.map_flatten, flatten_words] at hw hl
  have hpos := List.length_pos_iff.2 hs
  have hpos' := List.length_pos_iff.2 hmore
  rw [length_collapse, length_collapse]
  omega

/-! ## Blocks that spell words -/

section Spells

variable {ws vs : List (List Char)} {rest rest' : List Char}

theorem Spells.words_ne_nil (h : Spells ws block) (hws : ∀ w ∈ ws, IsWord w) (hne : ws ≠ []) :
    words block ≠ [] := by
  intro hn
  have := h.foldedWords hws
  rw [Extraction.foldedWords, hn, List.map_nil] at this
  exact hne (List.map_eq_nil_iff.1 this.symm)

/-- A collapsed block has the length of the words that it spells with single spaces. -/
theorem Spells.length_collapse (h : Spells ws block) (hws : ∀ w ∈ ws, IsWord w) :
    (collapse block).length = (joinSpaced ws).length := by
  have hf : Extraction.foldedWords block = Extraction.foldedWords (joinSpaced ws) := by
    rw [h.foldedWords hws, Extraction.foldedWords, words_joinSpaced hws]
  rw [length_collapse_of_foldedWords_eq hf, collapse, words_joinSpaced hws]

/-- **Of two blocks at one place that spell words**, the longer one spells more. -/
theorem Spells.length_joinSpaced_lt (h : Spells ws block) (h' : Spells vs block')
    (hws : ws ≠ [] ∧ ∀ w ∈ ws, IsWord w) (hvs : vs ≠ [] ∧ ∀ w ∈ vs, IsWord w)
    (ht : block ++ rest = block' ++ rest') (hlt : block.length < block'.length) :
    (joinSpaced ws).length < (joinSpaced vs).length := by
  obtain ⟨more, rfl⟩ : block <+: block' :=
    List.prefix_of_prefix_length_le ⟨rest, ht⟩ ⟨rest', rfl⟩ (Nat.le_of_lt hlt)
  -- The block ends with a letter, so that there is more than white space behind the shorter one.
  obtain ⟨c, hl, hc⟩ := h'.getLast? hvs.1 hvs.2
  have hmore : solid more ≠ [] := by
    have hne : more ≠ [] := by
      rintro rfl
      simp at hlt
    rw [List.getLast?_append_of_ne_nil _ hne] at hl
    intro hn
    rw [solid_eq_nil_iff.1 hn c (List.mem_of_getLast? hl)] at hc
    simp at hc
  rw [← h.length_collapse hws.2, ← h'.length_collapse hvs.2]
  exact length_collapse_lt_append (h.words_ne_nil hws.2 hws.1) hmore

/-- **Words of one length take the same** from the front of a text, if they take anything. -/
theorem dropWords?_eq_of_length_eq (hws : ws ≠ [] ∧ ∀ w ∈ ws, IsWord w)
    (hvs : vs ≠ [] ∧ ∀ w ∈ vs, IsWord w) (hl : (joinSpaced ws).length = (joinSpaced vs).length)
    (h : dropWords? ws s = some rest) (h' : dropWords? vs s = some rest') : rest = rest' := by
  obtain ⟨block, rfl, hs⟩ := dropWords?_eq_some h
  obtain ⟨block', ht, hs'⟩ := dropWords?_eq_some h'
  rcases Nat.lt_trichotomy block.length block'.length with hlt | heq | hgt
  · have := hs.length_joinSpaced_lt hs' hws hvs ht hlt
    omega
  · exact List.append_inj_right ht heq
  · have := hs'.length_joinSpaced_lt hs hvs hws ht.symm hgt
    omega

end Spells

/-! ## Names at one place -/

theorem StandsAt.length_collapse (h : StandsAt name before block after) :
    (collapse block).length = spacedLength name :=
  h.spells.length_collapse fun _ => isWord_of_mem_words

/-- A name that covers more of the text has more characters. -/
theorem StandsAt.spacedLength_lt (h : StandsAt name before block after)
    (h' : StandsAt other before' block' after') (ht : block ++ after = block' ++ after')
    (hlt : block.length < block'.length) : spacedLength name < spacedLength other :=
  h.spells.length_joinSpaced_lt h'.spells ⟨h.words_ne_nil, fun _ => isWord_of_mem_words⟩
    ⟨h'.words_ne_nil, fun _ => isWord_of_mem_words⟩ ht hlt

/-- **Of two names that stand at one place**, the one with more characters covers more of the text,
whatever white space either is written with. -/
theorem StandsAt.length_lt_iff (h : StandsAt name before block after)
    (h' : StandsAt other before' block' after') (ht : block ++ after = block' ++ after') :
    block.length < block'.length ↔ spacedLength name < spacedLength other := by
  refine ⟨h.spacedLength_lt h' ht, fun hlt => ?_⟩
  by_contra hge
  rcases Nat.lt_or_eq_of_le (Nat.le_of_not_lt hge) with hgt | heq
  · have := h'.spacedLength_lt h ht.symm hgt
    omega
  · -- Blocks of the same length are the same.
    obtain ⟨rfl, -⟩ := List.append_inj ht heq.symm
    rw [← h.length_collapse, ← h'.length_collapse] at hlt
    omega

/-! ## The first color -/

/-- A name of the list stands at a place, where it covers a block of the text. -/
def CoversAt (colors : List String) (before rest : List Char) (name : String) (block : List Char) :
    Prop :=
  name ∈ colors ∧ ∃ after, rest = block ++ after ∧ StandsAt name before block after

/-- **The name that is taken** at a place, among the names that stand there. -/
structure IsWidest (colors : List String) (before block after : List Char) (name : String) :
    Prop where
  /-- The name is one of those that stand there. -/
  covers : CoversAt colors before (block ++ after) name block
  /-- None is written with more characters, but for white space at its ends. -/
  written : ∀ other block', CoversAt colors before (block ++ after) other block' →
    trimmedLength other ≤ trimmedLength name
  /-- What covers more of the text is written with less white space between its words. -/
  passedOver : ∀ other block', CoversAt colors before (block ++ after) other block' →
    block.length < block'.length → innerExcess other < innerExcess name
  /-- Nothing covers more of the text, if the name is written with single spaces. -/
  widest : innerExcess name = 0 → ∀ other block',
    CoversAt colors before (block ++ after) other block' → block'.length ≤ block.length
  /-- A name with more words that begins with those of the name covers more of the text, and is
  written with less white space between its words. -/
  extended : ∀ other block', CoversAt colors before (block ++ after) other block' →
    foldedWords name.toList <+: foldedWords other.toList →
    foldedWords name.toList ≠ foldedWords other.toList →
    block.length < block'.length ∧ innerExcess other < innerExcess name

/-- **What covers more of the text than the first color** is written with less white space between
its words. -/
theorem isWidest_of_isFirstColor (h : IsFirstColor colors s before block after name) :
    IsWidest colors before block after name := by
  have hwritten : ∀ other block', CoversAt colors before (block ++ after) other block' →
      trimmedLength other ≤ trimmedLength name := by
    rintro other block' ⟨hm, after', ht, ho⟩
    exact h.preferred.trimmedLength_le hm ⟨block', after', ht, ho⟩
  have hpassed : ∀ other block', CoversAt colors before (block ++ after) other block' →
      block.length < block'.length → innerExcess other < innerExcess name := by
    intro other block' hc hlt
    have hle := hwritten other block' hc
    obtain ⟨-, after', ht, ho⟩ := hc
    -- With single spaces the other name is the longer one, as it is written it is not.
    have hspaced := (h.stands.length_lt_iff ho ht).1 hlt
    have hname := spacedLength_add_innerExcess name
    have hother := spacedLength_add_innerExcess other
    omega
  refine ⟨⟨h.mem, after, rfl, h.stands⟩, hwritten, hpassed, ?_, ?_⟩
  · intro hzero other block' hc
    by_contra hgt
    have := hpassed other block' hc (Nat.lt_of_not_le hgt)
    omega
  · intro other block' hc hpre hne
    have hlt : block.length < block'.length := by
      obtain ⟨-, after', ht, ho⟩ := hc
      rw [h.stands.length_lt_iff ho ht]
      exact length_collapse_lt_of_foldedWords h.stands.words_ne_nil hpre hne
    exact ⟨hlt, hpassed other block' hc hlt⟩

end Extraction

/-! ## Extraction -/

namespace Extractor

variable {v : Vocabulary} {x : Extractor}

/-- **A reported color is that of a name which covers the most of the text**, among those that stand
at the leftmost place where any does, unless that name is written with more white space between its
words than the others. -/
theorem extract_color_isWidest (v : Vocabulary) (text : String) :
    let x := ofVocabulary v
    (∀ color, (x.extract text).color = some color ↔ ∃ before block after name,
      IsFirstColor v.colors (x.afterPrice text) before block after name ∧
        IsTitleCaseOf color.toList block) ∧
      ∀ before block after name,
        IsFirstColor v.colors (x.afterPrice text) before block after name →
          IsWidest v.colors before block after name :=
  ⟨fun _ => extract_color_eq_some_iff_first, fun _ _ _ _ => isWidest_of_isFirstColor⟩

/-- A name of two words is taken though its words are names of their own, and listed first. -/
theorem extract_color_isWidest_of_words :
    let v : Vocabulary := { pricePhrases := ["under"], colors := ["blue", "sky", "sky blue"] }
    let x := ofVocabulary v
    x.extract "case SKY  blue under 20" =
        { cleanText := "case", priceCeiling := some 20, color := some "Sky Blue" } ∧
      IsFirstColor v.colors (x.afterPrice "case SKY  blue under 20") "case ".toList
        "SKY  blue".toList " ".toList "sky blue" ∧
      IsWidest v.colors "case ".toList "SKY  blue".toList " ".toList "sky blue" ∧
      ∀ other block', CoversAt v.colors "case ".toList ("SKY  blue".toList ++ " ".toList) other
        block' → block'.length ≤ "SKY  blue".toList.length := by
  intro v x
  have hx : x = { phrases := [⟨["under".toList], 5⟩], colors := [⟨["sky".toList, "blue".toList], 8⟩,
      ⟨["blue".toList], 4⟩, ⟨["sky".toList], 3⟩] } := by
    change ofVocabulary v = _
    cbv
  have hfound : locate (colorAt? x.colors) none (x.afterPrice "case SKY  blue under 20") =
      some ("case ".toList, "SKY  blue".toList, " ".toList) := by
    rw [hx]
    decide +kernel
  have hf : IsFirstColor v.colors (x.afterPrice "case SKY  blue under 20") "case ".toList
      "SKY  blue".toList " ".toList "sky blue" :=
    isFirstColor_of_locate hfound (by decide +kernel)
  have hw := (extract_color_isWidest v "case SKY  blue under 20").2 _ _ _ _ hf
  refine ⟨?_, hf, hw, hw.widest (by decide +kernel)⟩
  rw [hx]
  decide +kernel

/-- **A name that is written with wide white space** is taken instead of a name that has the same
words and one more, and stands there as well. -/
theorem extract_color_of_wide_name :
    let v : Vocabulary :=
      { pricePhrases := [], colors := ["sky blue light", "sky        blue"] }
    let x := ofVocabulary v
    x.extract "sky blue light" =
        { cleanText := "light", priceCeiling := none, color := some "Sky Blue" } ∧
      IsFirstColor v.colors (x.afterPrice "sky blue light") [] "sky blue".toList " light".toList
        "sky        blue" ∧
      CoversAt v.colors [] "sky blue light".toList "sky blue light" "sky blue light".toList ∧
      words "sky blue light".toList = words "sky        blue".toList ++ ["light".toList] ∧
      "sky blue".toList.length < "sky blue light".toList.length := by
  intro v x
  have hx : x = { phrases := [], colors := [⟨["sky".toList, "blue".toList], 15⟩,
      ⟨["sky".toList, "blue".toList, "light".toList], 14⟩] } := by
    change ofVocabulary v = _
    cbv
  have hlight : StandsAt "sky blue light" [] "sky blue light".toList [] :=
    ((standsAt_iff (s := "sky blue light".toList) rfl).2 ⟨by decide +kernel, by decide +kernel⟩).2
  have hblue : StandsAt "sky        blue" [] "sky blue".toList " light".toList :=
    ((standsAt_iff (s := "sky blue light".toList) rfl).2 ⟨by decide +kernel, by decide +kernel⟩).2
  have hafter : x.afterPrice "sky blue light" = "sky blue light".toList := by
    rw [hx]
    decide +kernel
  refine ⟨?_, ?_, ⟨List.mem_cons_self .., [], rfl, hlight⟩, ?_, ?_⟩
  · rw [hx]
    decide +kernel
  · rw [hafter]
    refine ⟨rfl, hblue, fun _ _ _ hlt => absurd hlt (Nat.not_lt_zero _), ?_⟩
    -- both stand there, and the wide one is written with more characters
    refine ⟨⟨_, _, rfl, hblue⟩, ["sky blue light"], [], rfl, ?_, fun _ hm => by simp at hm⟩
    intro other hm _
    obtain rfl := List.mem_singleton.1 hm
    decide +kernel
  · decide +kernel
  · decide +kernel

end Extractor

end Storefront
