import Mathlib.Data.List.Chain
import Storefront.Text.Blank

/-!
# White space and words

A text is its words with white space between them. The words are cut at any white space character,
so they do not change when white space is replaced by other white space, and collapsing keeps them.

## Main definitions

* `IsWord`: a text without white space that is not empty
* `solid`: a text without its white space
* `IsTidy`: no white space at the ends, and no two white space characters side by side

## Main results

* `words_append_blank`: the words of a text are those before and after a white space character
* `flatten_words`: the words of a text hold all that is not white space
* `words_joinSpaced`: words are found again after they are joined
* `words_trim`: trimming keeps the words
* `trim_blanks_append`, `trim_append_blanks`: white space at the ends of a text is trimmed
* `isTidy_collapse`, `collapse_collapse`: what collapsing leaves, and that it leaves it alone
* `length_collapse_le`, `length_collapse_lt_append`: collapsed texts are no longer, and shorter than
  those that go on with a word
-/

namespace Storefront.Text

variable {s t w : List Char} {ws : List (List Char)} {b c : Char}

/-- **A word**: a text without white space that is not empty. -/
def IsWord (w : List Char) : Prop := w ≠ [] ∧ ∀ c ∈ w, isBlank c = false

/-- **The text without its white space.** -/
def solid (s : List Char) : List Char := s.filter fun c => !isBlank c

/-- **No white space stands at the ends** of a text, and none beside other white space. -/
structure IsTidy (s : List Char) : Prop where
  /-- The text does not begin with white space. -/
  head : ∀ c ∈ s.head?, isBlank c = false
  /-- The text does not end with white space. -/
  last : ∀ c ∈ s.getLast?, isBlank c = false
  /-- Of two neighbours one is not white space. -/
  chain : s.IsChain fun b c => isBlank b = false ∨ isBlank c = false

/-! ## Solid text -/

@[simp] theorem solid_append (s t : List Char) : solid (s ++ t) = solid s ++ solid t :=
  List.filter_append ..

theorem solid_cons_of_blank (h : isBlank b = true) (s : List Char) : solid (b :: s) = solid s := by
  simp [solid, h]

theorem solid_eq_self (h : ∀ c ∈ s, isBlank c = false) : solid s = s :=
  List.filter_eq_self.2 fun c hc => by simp [h c hc]

theorem solid_eq_nil_iff : solid s = [] ↔ ∀ c ∈ s, isBlank c = true := by
  simp [solid]

/-! ## Words -/

theorem isWord_of_mem_words (h : w ∈ words s) : IsWord w := mem_words h

/-- Splitting from the end adds words in front of those that were found before. -/
theorem foldr_splitStep (s : List Char) (done : List (List Char)) :
    s.foldr splitStep ([], done) =
      ((s.foldr splitStep ([], [])).1, (s.foldr splitStep ([], [])).2 ++ done) := by
  induction s with
  | nil => rfl
  | cons c s ih =>
    rw [List.foldr_cons, List.foldr_cons, ih]
    obtain ⟨word, before⟩ := s.foldr splitStep ([], [])
    by_cases hc : isBlank c = true
    · -- White space closes a word, unless there is none to close.
      by_cases hw : word = []
      · simp [splitStep, hc, hw]
      · simp [splitStep, hc, hw]
    · simp [splitStep, hc]

/-- A white space character closes the words behind it. -/
theorem splitStep_blank (h : isBlank b = true) (s : List Char) :
    splitStep b (s.foldr splitStep ([], [])) = ([], words s) := by
  simp [splitStep, h, words]

/-- **The words of a text** are those before and those after a white space character. -/
theorem words_append_blank (h : isBlank b = true) (s t : List Char) :
    words (s ++ b :: t) = words s ++ words t := by
  have hs : (s ++ b :: t).foldr splitStep ([], []) =
      ((s.foldr splitStep ([], [])).1, (s.foldr splitStep ([], [])).2 ++ words t) := by
    rw [List.foldr_append, List.foldr_cons, splitStep_blank h, foldr_splitStep]
  unfold words
  rw [hs]
  -- The first word of the text in front may be empty; either way it is added in front.
  by_cases hw : (s.foldr splitStep ([], [])).1.isEmpty = true
  · simp only [hw, if_true]
    rfl
  · simp only [hw]
    rfl

theorem words_blank_cons (h : isBlank b = true) (s : List Char) : words (b :: s) = words s := by
  simpa using words_append_blank h [] s

/-- Characters in front of a text extend its first word. -/
theorem foldr_splitStep_of_not_blank (h : ∀ c ∈ w, isBlank c = false) :
    w.foldr splitStep ([], []) = (w, []) := by
  induction w with
  | nil => rfl
  | cons c w ih =>
    have hc := h c (List.mem_cons_self ..)
    rw [List.foldr_cons, ih fun d hd => h d (List.mem_cons_of_mem _ hd)]
    simp [splitStep, hc]

theorem words_of_isWord (h : IsWord w) : words w = [w] := by
  unfold words
  rw [foldr_splitStep_of_not_blank h.2]
  simp [h.1]

theorem words_eq_nil_of_blanks (h : ∀ c ∈ s, isBlank c = true) : words s = [] := by
  induction s with
  | nil => rfl
  | cons c s ih =>
    rw [words_blank_cons (h c (List.mem_cons_self ..))]
    exact ih fun d hd => h d (List.mem_cons_of_mem _ hd)

/-- White space in front of a text adds no words. -/
theorem words_blanks_append (h : ∀ c ∈ s, isBlank c = true) (t : List Char) :
    words (s ++ t) = words t := by
  induction s with
  | nil => rfl
  | cons c s ih =>
    rw [List.cons_append, words_blank_cons (h c (List.mem_cons_self ..))]
    exact ih fun d hd => h d (List.mem_cons_of_mem _ hd)

/-- White space behind a text adds no words. -/
theorem words_append_blanks (h : ∀ c ∈ t, isBlank c = true) : words (s ++ t) = words s := by
  cases t with
  | nil => rw [List.append_nil]
  | cons b t =>
    rw [words_append_blank (h b (List.mem_cons_self ..)),
      words_eq_nil_of_blanks fun c hc => h c (List.mem_cons_of_mem _ hc), List.append_nil]

/-- Every text is its first word, if it begins with one, and what follows it. -/
theorem exists_word_append (h : isBlank c = false) (s : List Char) :
    ∃ w t, c :: s = w ++ t ∧ IsWord w ∧ ∀ b ∈ t.head?, isBlank b = true := by
  refine ⟨c :: s.takeWhile (!isBlank ·), s.dropWhile (!isBlank ·), ?_, ⟨by simp, ?_⟩, ?_⟩
  · rw [List.cons_append, List.takeWhile_append_dropWhile]
  · intro d hd
    rcases List.mem_cons.1 hd with rfl | hd
    · exact h
    · simpa using List.all_eq_true.1 (List.all_takeWhile (p := (!isBlank ·)) (l := s)) d hd
  · intro b hb
    have := List.head?_dropWhile_not (!isBlank ·) s
    simp_all

/-- **Induction along the words of a text**: white space in front, a word at the end, or a word in
front of white space. -/
theorem words_induction {P : List Char → Prop} (nil : P [])
    (blank : ∀ b s, isBlank b = true → P s → P (b :: s)) (last : ∀ w, IsWord w → P w)
    (word : ∀ w b s, IsWord w → isBlank b = true → P s → P (w ++ b :: s)) (s : List Char) :
    P s := by
  -- A word is taken off as a whole, so the induction is on the length of the text.
  induction hn : s.length using Nat.strongRecOn generalizing s with
  | ind n ih =>
    cases s with
    | nil => exact nil
    | cons c s =>
      by_cases hc : isBlank c = true
      · exact blank c s hc (ih s.length (by simp [← hn]) s rfl)
      · rw [Bool.not_eq_true] at hc
        obtain ⟨w, t, he, hw, ht⟩ := exists_word_append hc s
        rw [he]
        cases t with
        | nil => simpa using last w hw
        | cons b t =>
          have hlen := congrArg List.length he
          simp only [List.length_append, List.length_cons] at hlen hn
          exact word w b t hw (ht b rfl) (ih t.length (by omega) t rfl)

/-- **The words of a text** hold all that is not white space, in order. -/
theorem flatten_words (s : List Char) : (words s).flatten = solid s := by
  induction s using words_induction with
  | nil => rfl
  | blank b s hb ih => rw [words_blank_cons hb, solid_cons_of_blank hb, ih]
  | last w hw => rw [words_of_isWord hw, solid_eq_self hw.2, List.flatten_singleton]
  | word w b s hw hb ih =>
    rw [words_append_blank hb, words_of_isWord hw, solid_append, solid_eq_self hw.2,
      solid_cons_of_blank hb, List.singleton_append, List.flatten_cons, ih]

/-! ## Tidy texts -/

theorem dropBlanks_eq (s : List Char) :
    ∃ gap, s = gap ++ dropBlanks s ∧ ∀ c ∈ gap, isBlank c = true :=
  ⟨s.takeWhile isBlank, List.takeWhile_append_dropWhile.symm,
    fun c hc => List.all_eq_true.1 (List.all_takeWhile (p := isBlank) (l := s)) c hc⟩

theorem dropBlanks_eq_self (h : ∀ c ∈ s.head?, isBlank c = false) : dropBlanks s = s := by
  cases s with
  | nil => rfl
  | cons c s => simp [dropBlanks, h c rfl]

theorem not_isBlank_of_mem_head?_dropBlanks (s : List Char) :
    ∀ c ∈ (dropBlanks s).head?, isBlank c = false := by
  intro c hc
  have := List.head?_dropWhile_not isBlank s
  simp_all [dropBlanks]

@[simp] theorem dropBlanks_dropBlanks (s : List Char) : dropBlanks (dropBlanks s) = dropBlanks s :=
  dropBlanks_eq_self (not_isBlank_of_mem_head?_dropBlanks s)

theorem dropBlanks_blanks_append (h : ∀ c ∈ s, isBlank c = true) (t : List Char) :
    dropBlanks (s ++ t) = dropBlanks t :=
  List.dropWhile_append_of_pos h

/-- What follows a text with more than white space stays behind it. -/
theorem dropBlanks_append (h : dropBlanks s ≠ []) (t : List Char) :
    dropBlanks (s ++ t) = dropBlanks s ++ t := by
  obtain ⟨gap, hs, hg⟩ := dropBlanks_eq s
  obtain ⟨c, u, hd⟩ := List.exists_cons_of_ne_nil h
  have hc := not_isBlank_of_mem_head?_dropBlanks s c (by rw [hd]; rfl)
  rw [hd] at hs ⊢
  rw [hs, List.append_assoc, dropBlanks_blanks_append hg, List.cons_append,
    dropBlanks_eq_self (by simpa using hc)]

/-! ## Trimming -/

/-- White space in front of a text is trimmed. -/
theorem trim_blanks_append (h : ∀ c ∈ s, isBlank c = true) (t : List Char) :
    trim (s ++ t) = trim t := by
  rw [trim, dropBlanks_blanks_append h, ← trim]

theorem trim_of_blanks (h : ∀ c ∈ s, isBlank c = true) : trim s = [] := by
  rw [← List.append_nil s, trim_blanks_append h]
  rfl

/-- White space behind a text is trimmed. -/
theorem trim_append_blanks (h : ∀ c ∈ t, isBlank c = true) (s : List Char) :
    trim (s ++ t) = trim s := by
  by_cases hs : dropBlanks s = []
  · -- nothing but white space
    obtain ⟨gap, he, hg⟩ := dropBlanks_eq s
    rw [hs, List.append_nil] at he
    rw [he, trim_blanks_append hg, trim_of_blanks h, trim_of_blanks hg]
  · have hr : ∀ c ∈ t.reverse, isBlank c = true := fun c hc => h c (List.mem_reverse.1 hc)
    rw [trim, dropBlanks_append hs, List.reverse_append, dropBlanks_blanks_append hr, ← trim]

/-- **Trimming keeps the words.** -/
theorem words_trim (s : List Char) : words (trim s) = words s := by
  obtain ⟨front, hs, hf⟩ := dropBlanks_eq s
  obtain ⟨back, hr, hb⟩ := dropBlanks_eq (dropBlanks s).reverse
  have hd : dropBlanks s = trim s ++ back.reverse := by
    have := congrArg List.reverse hr
    rwa [List.reverse_reverse, List.reverse_append] at this
  calc words (trim s)
    _ = words (dropBlanks s) := by
      rw [hd, words_append_blanks fun c hc => hb c (List.mem_reverse.1 hc)]
    _ = words s := by conv_rhs => rw [hs, words_blanks_append hf]

theorem trim_eq_nil_iff : trim s = [] ↔ ∀ c ∈ s, isBlank c = true := by
  refine ⟨fun h => ?_, trim_of_blanks⟩
  rw [← solid_eq_nil_iff, ← flatten_words, ← words_trim, h]
  rfl

theorem isBlankText_iff {s : String} : isBlankText s = true ↔ ∀ c ∈ s.toList, isBlank c = true :=
  List.all_eq_true

/-- Nothing is left of a blank text, and of no other one. -/
theorem trimText_eq_empty_iff {s : String} : trimText s = "" ↔ isBlankText s = true := by
  rw [trimText, String.ofList_eq_empty_iff, trim_eq_nil_iff, isBlankText_iff]

/-- There is nothing to trim of a tidy text. -/
theorem IsTidy.trim_eq_self (h : IsTidy s) : trim s = s := by
  have hlast : dropBlanks s.reverse = s.reverse :=
    dropBlanks_eq_self (by simpa [List.head?_reverse] using h.last)
  rw [trim, dropBlanks_eq_self h.head, hlast, List.reverse_reverse]

theorem dropBlanks_blank_cons (h : isBlank b = true) (s : List Char) :
    dropBlanks (b :: s) = dropBlanks s := by
  simp [dropBlanks, h]

/-! ## Joined words -/

@[simp] theorem joinSpaced_nil : joinSpaced [] = [] := rfl

@[simp] theorem joinSpaced_singleton (w : List Char) : joinSpaced [w] = w := by
  simp [joinSpaced, List.intercalate]

@[simp] theorem joinSpaced_cons_cons (v w : List Char) (ws : List (List Char)) :
    joinSpaced (v :: w :: ws) = v ++ ' ' :: joinSpaced (w :: ws) := by
  simp [joinSpaced, List.intercalate]

/-- **Words are found again** after they are joined. -/
theorem words_joinSpaced (h : ∀ w ∈ ws, IsWord w) : words (joinSpaced ws) = ws := by
  induction ws with
  | nil => rfl
  | cons w ws ih =>
    have hw := h w (List.mem_cons_self ..)
    cases ws with
    | nil => rw [joinSpaced_singleton, words_of_isWord hw]
    | cons v ws =>
      rw [joinSpaced_cons_cons, words_append_blank isBlank_space, words_of_isWord hw,
        ih fun u hu => h u (List.mem_cons_of_mem _ hu)]
      rfl

/-- A word is tidy. -/
theorem IsWord.isTidy (h : IsWord w) : IsTidy w where
  head c hc := h.2 c (List.mem_of_mem_head? hc)
  last c hc := h.2 c (List.mem_of_getLast? hc)
  chain := List.isChain_iff_getElem.2 fun _ _ => .inl (h.2 _ (List.getElem_mem _))

/-- A word, a space and a tidy text are tidy. -/
theorem IsTidy.word_append (hw : IsWord w) (ht : IsTidy t) (hne : t ≠ []) :
    IsTidy (w ++ ' ' :: t) := by
  obtain ⟨c, t, rfl⟩ := List.exists_cons_of_ne_nil hne
  refine ⟨?_, ?_, ?_⟩
  · -- It begins like the word ...
    obtain ⟨d, w, rfl⟩ := List.exists_cons_of_ne_nil hw.1
    simpa using hw.2 d (by simp)
  · -- ... and ends like the tidy text.
    have := ht.last
    simpa [List.getLast?_append, List.getLast?_cons] using this
  · rw [List.isChain_append]
    refine ⟨hw.isTidy.chain, ?_, ?_⟩
    · -- The space stands beside the first character of the tidy text, which is not white space.
      rw [List.isChain_cons_cons]
      exact ⟨.inr (ht.head c rfl), ht.chain⟩
    · intro b hb _ _
      exact .inl (hw.2 b (List.mem_of_getLast? hb))

/-- Joined words are tidy. -/
theorem isTidy_joinSpaced (h : ∀ w ∈ ws, IsWord w) : IsTidy (joinSpaced ws) := by
  induction ws with
  | nil => exact ⟨by simp, by simp, by simp⟩
  | cons w ws ih =>
    have hw := h w (List.mem_cons_self ..)
    cases ws with
    | nil =>
      rw [joinSpaced_singleton]
      exact hw.isTidy
    | cons v ws =>
      rw [joinSpaced_cons_cons]
      refine IsTidy.word_append hw (ih fun u hu => h u (List.mem_cons_of_mem _ hu)) ?_
      have := (h v (by simp)).1
      cases ws <;> simp [this]

@[simp] theorem words_collapse (s : List Char) : words (collapse s) = words s :=
  words_joinSpaced fun _ => isWord_of_mem_words

@[simp] theorem collapse_collapse (s : List Char) : collapse (collapse s) = collapse s := by
  rw [collapse, words_collapse, collapse]

@[simp] theorem solid_collapse (s : List Char) : solid (collapse s) = solid s := by
  rw [← flatten_words, words_collapse, flatten_words]

/-- **Collapsing leaves a tidy text.** -/
theorem isTidy_collapse (s : List Char) : IsTidy (collapse s) :=
  isTidy_joinSpaced fun _ => isWord_of_mem_words

/-! ## Lengths -/

theorem length_joinSpaced (ws : List (List Char)) :
    (joinSpaced ws).length = ws.flatten.length + ws.length - 1 := by
  induction ws with
  | nil => rfl
  | cons w ws ih =>
    cases ws with
    | nil => simp
    | cons v ws =>
      rw [joinSpaced_cons_cons, List.length_append, List.length_cons, ih]
      simp only [List.flatten_cons, List.length_append, List.length_cons]
      omega

/-- A collapsed text has the letters of the text, and a space between two words. -/
theorem length_collapse (s : List Char) :
    (collapse s).length = (solid s).length + (words s).length - 1 := by
  rw [collapse, length_joinSpaced, flatten_words]

theorem words_ne_nil_iff : words s ≠ [] ↔ solid s ≠ [] := by
  rw [Ne, Ne, ← flatten_words, List.flatten_eq_nil_iff, not_iff_not]
  constructor
  · intro h
    simp [h]
  · intro h
    refine List.eq_nil_iff_forall_not_mem.2 fun w hw => ?_
    exact (isWord_of_mem_words hw).1 (h w hw)

/-- A text has no fewer words than its beginning. -/
theorem length_words_le_append (s t : List Char) : (words s).length ≤ (words (s ++ t)).length := by
  induction s using words_induction with
  | nil => exact Nat.zero_le _
  | blank b s hb ih => rwa [List.cons_append, words_blank_cons hb, words_blank_cons hb]
  | last w hw =>
    have hne : words (w ++ t) ≠ [] := by
      rw [words_ne_nil_iff, solid_append, solid_eq_self hw.2]
      simp [hw.1]
    rw [words_of_isWord hw]
    exact List.length_pos_iff.2 hne
  | word w b s hw hb ih =>
    rw [List.append_assoc, List.cons_append, words_append_blank hb, words_append_blank hb,
      List.length_append, List.length_append]
    omega

/-- **A text with words is shorter when it is collapsed** than one that goes on behind it with more
than white space. -/
theorem length_collapse_lt_append (hs : words s ≠ []) (ht : solid t ≠ []) :
    (collapse s).length < (collapse (s ++ t)).length := by
  have hw := length_words_le_append s t
  have hpos := List.length_pos_iff.2 hs
  have hpos' := List.length_pos_iff.2 ht
  rw [length_collapse, length_collapse, solid_append, List.length_append]
  omega

/-- **Collapsing makes no text longer.** -/
theorem length_collapse_le (s : List Char) : (collapse s).length ≤ s.length := by
  induction s using words_induction with
  | nil => exact Nat.le_refl _
  | blank b s hb ih =>
    rw [collapse, words_blank_cons hb, ← collapse, List.length_cons]
    omega
  | last w hw => rw [collapse, words_of_isWord hw, joinSpaced_singleton]
  | word w b s hw hb ih =>
    rw [length_collapse] at ih ⊢
    rw [words_append_blank hb, words_of_isWord hw, solid_append, solid_eq_self hw.2,
      solid_cons_of_blank hb]
    simp only [List.length_append, List.length_cons, List.length_nil]
    omega

end Storefront.Text
