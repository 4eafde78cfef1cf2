import Storefront.Proofs.Extraction.Coverage

/-!
# The order of a vocabulary

The first entry that matches decides what is taken, and the entries are tried by their length. So
entries of one length are tried in the order in which they are listed; but if several of them match
at one place of a text, they cover the same block of it, and it does not matter which one is taken.
What must not differ is how an entry is written: with wide white space between its words it counts
as longer than what it matches.

## Main definitions

* `Rearranged`, `Vocabulary.Rearranged`: entries in another order, repeated, among blank ones and
  with white space around them
* `IsSingleSpaced`, `Vocabulary.IsSingleSpaced`: entries that are written with single spaces

## Main results

* `Rearranged.mem_lexicon_iff`: the lexicon of rearranged entries has the same entries
* `Rearranged.findSome?_lexicon`: what is found first in it is the same
* `extract_eq_of_rearranged`: extraction does not depend on how a vocabulary is arranged
-/

namespace Storefront

open Extraction Text

namespace Extraction

/-! ## Rearranged entries -/

/-- **Entries rearranged**: the second list has the entries of the first one in another order, some
of them more often, some with white space around them, and blank ones besides. -/
inductive Rearranged : List String → List String → Prop
  /-- The entries stand in another order. -/
  | reordered {l l' : List String} (h : l.Perm l') : Rearranged l l'
  /-- An entry is repeated. -/
  | repeated {l : List String} {name : String} (h : name ∈ l) : Rearranged l (name :: l)
  /-- A blank entry is added. -/
  | blank {l : List String} {name : String} (h : isBlankText name = true) :
      Rearranged l (name :: l)
  /-- White space is added around an entry. -/
  | padded {l : List String} {name front back : String} (hf : isBlankText front = true)
      (hb : isBlankText back = true) : Rearranged (name :: l) ((front ++ name ++ back) :: l)
  /-- One change follows another. -/
  | trans {l m n : List String} (h : Rearranged l m) (h' : Rearranged m n) : Rearranged l n

/-- **A name is written with single spaces** if collapsing does no more to it than trimming. -/
def IsSingleSpaced (name : String) : Prop := collapse name.toList = trim name.toList

instance : DecidablePred IsSingleSpaced := fun name =>
  inferInstanceAs (Decidable (collapse name.toList = trim name.toList))

variable {l l' : List String} {name front back : String} {e : Entry} {β : Type}

theorem ofText?_of_isBlankText (h : isBlankText name = true) : Entry.ofText? name = none := by
  rw [Entry.ofText?, words_eq_nil_of_blanks (isBlankText_iff.1 h)]

/-- White space around a name does not change its entry. -/
theorem ofText?_append_append (hf : isBlankText front = true) (hb : isBlankText back = true)
    (name : String) : Entry.ofText? (front ++ name ++ back) = Entry.ofText? name := by
  rw [isBlankText_iff] at hf hb
  rw [Entry.ofText?, Entry.ofText?, String.toList_append, String.toList_append,
    words_append_blanks hb, words_blanks_append hf, trim_append_blanks hb, trim_blanks_append hf]

/-- **The lexicon of rearranged names has the same entries.** -/
theorem Rearranged.mem_lexicon_iff (h : Rearranged l l') : e ∈ lexicon l ↔ e ∈ lexicon l' := by
  induction h with
  | reordered h => simp only [mem_lexicon, h.mem_iff]
  | repeated h =>
    -- Only the entry of the repeated name could be new, and its name is in the list already.
    rw [mem_lexicon, mem_lexicon]
    constructor
    · rintro ⟨s, hs, he⟩
      exact ⟨s, List.mem_cons_of_mem _ hs, he⟩
    · rintro ⟨s, hs, he⟩
      rcases List.mem_cons.1 hs with rfl | hs
      · exact ⟨s, h, he⟩
      · exact ⟨s, hs, he⟩
  | blank h => simp [mem_lexicon, ofText?_of_isBlankText h]
  | padded hf hb => simp [mem_lexicon, ofText?_append_append hf hb]
  | trans _ _ ih ih' => rw [ih, ih']

/-! ## What is found -/

/-- An entry that is written with single spaces is as wide as its words with single spaces. -/
theorem width_of_mem_lexicon (hs : ∀ name ∈ l, IsSingleSpaced name) (he : e ∈ lexicon l) :
    e.width = (joinSpaced e.words).length := by
  obtain ⟨name, hm, hn⟩ := mem_lexicon.1 he
  obtain ⟨-, rfl⟩ := ofText?_eq_some_iff.1 hn
  exact congrArg List.length (hs name hm).symm

/-- **What is found first in the lexicon of rearranged names** is the same, whatever is looked for
behind the words of an entry. -/
theorem Rearranged.findSome?_lexicon (h : Rearranged l l') (hs : ∀ name ∈ l, IsSingleSpaced name)
    (s : List Char) (behind : List Char → Option β) :
    ((lexicon l).findSome? fun e => (dropWords? e.words s).bind behind) =
      (lexicon l').findSome? fun e => (dropWords? e.words s).bind behind := by
  -- Both lexicons are sorted by width and have the same entries, so only the order of entries of
  -- one width can differ.
  refine findSome?_eq_of_sorted (lexicon_sorted l) (lexicon_sorted l')
    (fun _ => h.mem_lexicon_iff) ?_
  intro a ha b hb hw hfa hfb
  rw [width_of_mem_lexicon hs ha, width_of_mem_lexicon hs hb] at hw
  -- Two entries of one width that are both found leave the same text behind.
  cases hra : dropWords? a.words s with
  | none => simp [hra] at hfa
  | some rest =>
    cases hrb : dropWords? b.words s with
    | none => simp [hrb] at hfb
    | some rest' =>
      obtain rfl := dropWords?_eq_of_length_eq (isProper_lexicon l a ha) (isProper_lexicon l b hb)
        hw hra hrb
      rfl

theorem Rearranged.takePrice_eq (h : Rearranged l l') (hs : ∀ name ∈ l, IsSingleSpaced name)
    (s : List Char) : takePrice (lexicon l) s = takePrice (lexicon l') s := by
  have hp : priceAt? (lexicon l) = priceAt? (lexicon l') :=
    funext fun t => h.findSome?_lexicon hs (dropBlanks t) amount?
  rw [takePrice, hp, ← takePrice]

theorem Rearranged.takeColor_eq (h : Rearranged l l') (hs : ∀ name ∈ l, IsSingleSpaced name)
    (s : List Char) : takeColor (lexicon l) s = takeColor (lexicon l') s := by
  have hc : colorAt? (lexicon l) = colorAt? (lexicon l') := by
    funext before t
    rw [colorAt?, colorAt?, h.findSome?_lexicon hs]
  rw [takeColor, hc, ← takeColor]

end Extraction

/-! ## Vocabularies -/

/-- **A vocabulary rearranged**: its phrases are, and its colors are. -/
structure Vocabulary.Rearranged (v w : Vocabulary) : Prop where
  pricePhrases : Extraction.Rearranged v.pricePhrases w.pricePhrases
  colors : Extraction.Rearranged v.colors w.colors

/-- **A vocabulary is written with single spaces** if all of its entries are. -/
structure Vocabulary.IsSingleSpaced (v : Vocabulary) : Prop where
  pricePhrases : ∀ name ∈ v.pricePhrases, Extraction.IsSingleSpaced name
  colors : ∀ name ∈ v.colors, Extraction.IsSingleSpaced name

namespace Extractor

variable {v w : Vocabulary}

/-- **Extraction does not depend on how a vocabulary is arranged**, if it is written with single
spaces: neither on the order of its entries nor on how often they are listed, nor on blank entries
or the white space around the others. -/
theorem extract_eq_of_rearranged (hs : v.IsSingleSpaced) (h : v.Rearranged w) (text : String) :
    (ofVocabulary v).extract text = (ofVocabulary w).extract text := by
  -- The passes read the vocabulary through these two functions only.
  have hp : takePrice (lexicon v.pricePhrases) = takePrice (lexicon w.pricePhrases) :=
    funext (h.pricePhrases.takePrice_eq hs.pricePhrases)
  have hc : takeColor (lexicon v.colors) = takeColor (lexicon w.colors) :=
    funext (h.colors.takeColor_eq hs.colors)
  simp only [extract, passes, ofVocabulary, hp, hc]

/-- Two colors have one length and match the same text, with a long s or without. Whichever is
listed first, the text is taken for the same color. -/
theorem extract_eq_of_rearranged_long_s :
    let v : Vocabulary :=
      { pricePhrases := ["less", "less than"], colors := ["blue", "sky blue", "ſky blue"] }
    let w : Vocabulary :=
      { pricePhrases := ["less", "", "\t" ++ "less than" ++ " ", "less"]
        colors := ["\u3000", "ſky blue", "sky blue", "" ++ "blue" ++ "\u00a0"] }
    v.IsSingleSpaced ∧ v.Rearranged w ∧
      (ofVocabulary v).extract "case SKY \n blue less than $50" =
        (ofVocabulary w).extract "case SKY \n blue less than $50" ∧
      (ofVocabulary v).extract "case SKY \n blue less than $50" =
        { cleanText := "case", priceCeiling := some 50, color := some "Sky Blue" } := by
  intro v w
  have hs : v.IsSingleSpaced := ⟨by decide +kernel, by decide +kernel⟩
  have hp : Rearranged v.pricePhrases w.pricePhrases := by
    have hordered : Rearranged v.pricePhrases ["less than", "less"] := .reordered (by decide)
    have hpadded : Rearranged ["less than", "less"] ["\t" ++ "less than" ++ " ", "less"] :=
      .padded (by decide +kernel) (by decide +kernel)
    have hblank : Rearranged ["\t" ++ "less than" ++ " ", "less"]
        ["", "\t" ++ "less than" ++ " ", "less"] := .blank (by decide +kernel)
    exact ((hordered.trans hpadded).trans hblank).trans (.repeated (by simp))
  have hc : Rearranged v.colors w.colors := by
    have hpadded : Rearranged v.colors ["" ++ "blue" ++ "\u00a0", "sky blue", "ſky blue"] :=
      .padded (by decide +kernel) (by decide +kernel)
    have hblank : Rearranged ["" ++ "blue" ++ "\u00a0", "sky blue", "ſky blue"]
        ["\u3000", "" ++ "blue" ++ "\u00a0", "sky blue", "ſky blue"] := .blank (by decide +kernel)
    exact (hpadded.trans hblank).trans (.reordered (by decide))
  have he := extract_eq_of_rearranged hs ⟨hp, hc⟩ "case SKY \n blue less than $50"
  refine ⟨hs, ⟨hp, hc⟩, he, ?_⟩
  have hx : ofVocabulary v =
      { phrases := [⟨["less".toList, "than".toList], 9⟩, ⟨["less".toList], 4⟩]
        colors := [⟨["sky".toList, "blue".toList], 8⟩, ⟨["ſky".toList, "blue".toList], 8⟩,
          ⟨["blue".toList], 4⟩] } := by
    cbv
  rw [hx]
  decide +kernel

end Extractor

end Storefront
