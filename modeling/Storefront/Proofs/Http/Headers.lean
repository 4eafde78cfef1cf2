import Mathlib.Data.List.Induction
import Storefront.Http.Header
import Storefront.Proofs.Json.RankedRecords
import Storefront.Proofs.Search.Calls
import Storefront.Proofs.Table

/-!
# How headers are put together

The headers of a call come from a key and from a table of default headers, which is gone through in
the order of its keys. Keys that differ only in letter case are one name, and the later one counts;
the key of the service takes part in this as a header that comes before all others. The first thing
that is wrong stops it all.

## Main definitions

* `IsLegalName`, `IsLegalValue`, `IsLegal`: what may be a header
* `Offends`: the first thing that is wrong with an entry
* `IsLast`: the value that counts for a name
* `IsAssembled`: the law of the headers of a call

## Main results

* `configuredHeader_eq_error_iff`: the error of an entry is the first thing that is wrong with it
* `foldlM_addHeader_eq_error_iff`: the error of entries is that of the first one with any
* `lookup_of_foldlM_addHeader`: the last entry of a name counts
* `mem_foldlM_addHeader_iff`: the headers are those of the last entries, and that of the key
* `isAssembled_authHeaders`: headers are put together by that law
-/

namespace Storefront.Http

open Json

variable {entry : String × Json} {name value : String} {e : CallError}
  {defaults : Table Json} {headers start : Table String} {apiKey : Option String}

/-! ## What may be a header -/

/-- The controls that no value holds: those of ASCII but for the tab. -/
def IsForbidden (c : Char) : Prop := c.toNat < 0x20 ∧ c ≠ '\t' ∨ c.toNat = 0x7F

/-- **A value**: no control stands in it. -/
def IsLegalValue (s : String) : Prop := ∀ c ∈ s.toList, ¬IsForbidden c

/-- **A name**: a token of at most as many characters as a name may have. -/
def IsLegalName (s : String) : Prop :=
  s ≠ "" ∧ (∀ c ∈ s.toList, isTokenCharacter c = true) ∧ s.length ≤ 65535

/-- **An entry that is a header**: a text with a name and a value. -/
def IsLegal (entry : String × Json) : Prop :=
  ∃ value, entry.2 = .text value ∧ IsLegalName entry.1 ∧ IsLegalValue value

/-- **The first thing that is wrong with an entry**: it is no text, or else its name is none, or
else the text is no value. -/
inductive Offends : String × Json → CallError → Prop
  | notText {key : String} {v : Json} (h : ∀ s, v ≠ .text s) : Offends (key, v) (.headerNotText key)
  | name {key s : String} (h : ¬IsLegalName key) : Offends (key, .text s) .headerName
  | value {key s : String} (h : IsLegalName key) (h' : ¬IsLegalValue s) :
    Offends (key, .text s) .headerValue

theorem isHeaderValue_iff : isHeaderValue value = true ↔ IsLegalValue value := by
  unfold isHeaderValue IsLegalValue IsForbidden
  rw [List.all_eq_true]
  apply forall₂_congr
  intro c _
  simp only [Bool.or_eq_true, Bool.and_eq_true, decide_eq_true_eq, not_or, not_and, not_not]
  constructor
  · rintro (rfl | ⟨hlow, hdel⟩)
    · exact ⟨fun _ => rfl, by decide⟩
    · exact ⟨fun h => by omega, hdel⟩
  · rintro ⟨hlow, hdel⟩
    by_cases h : c.toNat < 0x20
    · exact .inl (hlow h)
    · exact .inr ⟨by omega, hdel⟩

theorem isHeaderName_iff : isHeaderName name = true ↔ IsLegalName name := by
  unfold isHeaderName IsLegalName
  rw [Bool.and_eq_true, Bool.and_eq_true, List.all_eq_true, decide_eq_true_eq, and_assoc]
  simp [maxNameLength]

/-- **The error of an entry is the first thing that is wrong with it.** -/
theorem configuredHeader_eq_error_iff : configuredHeader entry = .error e ↔ Offends entry e := by
  obtain ⟨key, v⟩ := entry
  constructor
  · intro h
    cases v with
    | text s =>
      simp only [configuredHeader] at h
      split at h
      · next hn =>
        cases h
        exact .name (by simpa [← isHeaderName_iff] using hn)
      · split at h
        · next hn hv =>
          cases h
          exact .value (by simpa [← isHeaderName_iff] using hn)
            (by simpa [← isHeaderValue_iff] using hv)
        · cases h
    | _ =>
      cases h
      apply Offends.notText
      intro s he
      cases he
  · intro h
    cases h with
    | notText h =>
      cases v with
      | text s => exact absurd rfl (h s)
      | _ => rfl
    | name h =>
      rw [← isHeaderName_iff] at h
      simp [configuredHeader, h]
    | value h h' =>
      rw [← isHeaderName_iff] at h
      rw [← isHeaderValue_iff] at h'
      simp [configuredHeader, h, h']

theorem configuredHeader_eq_ok (h : entry.2 = .text value) (hn : IsLegalName entry.1)
    (hv : IsLegalValue value) : configuredHeader entry = .ok (headerKey entry.1, value) := by
  obtain ⟨key, v⟩ := entry
  exact configuredHeader_eq_ok_iff.2 ⟨h, isHeaderName_iff.2 hn, isHeaderValue_iff.2 hv, rfl⟩

/-- With an entry that is no header something is wrong. -/
theorem isLegal_iff : IsLegal entry ↔ ∀ e, ¬Offends entry e := by
  simp only [← configuredHeader_eq_error_iff]
  obtain ⟨key, v⟩ := entry
  constructor
  · rintro ⟨value, h, hn, hv⟩ e he
    rw [configuredHeader_eq_ok h hn hv] at he
    cases he
  · intro h
    cases hc : configuredHeader (key, v) with
    | error e => exact absurd hc (h e)
    | ok header =>
      obtain ⟨hv, hn, hl, -⟩ := configuredHeader_eq_ok_iff.1 hc
      exact ⟨_, hv, isHeaderName_iff.1 hn, isHeaderValue_iff.1 hl⟩

/-! ## Entries, one after the other -/

/-- A header is put in the place of its name. -/
theorem exists_addHeader (h : IsLegal entry) :
    ∃ value, entry.2 = .text value ∧ IsLegalValue value ∧
      ∀ headers,
        addHeader headers entry = .ok (Table.insert (headerKey entry.1) value headers) := by
  obtain ⟨value, hv, hn, hl⟩ := h
  refine ⟨value, hv, hl, fun headers => ?_⟩
  rw [addHeader, configuredHeader_eq_ok hv hn hl]
  rfl

theorem addHeader_eq_error_iff : addHeader headers entry = .error e ↔ Offends entry e := by
  rw [addHeader, Except.map_eq_error_iff, configuredHeader_eq_error_iff]

theorem isLegal_of_addHeader {after : Table String} (h : addHeader headers entry = .ok after) :
    IsLegal entry := by
  rw [isLegal_iff]
  intro e he
  have herror : addHeader headers entry = .error e := addHeader_eq_error_iff.2 he
  rw [h] at herror
  cases herror

/-- **The error of entries is that of the first one with any.** -/
theorem foldlM_addHeader_eq_error_iff : defaults.foldlM addHeader start = .error e ↔
    ∃ before entry after, defaults = before ++ entry :: after ∧
      (∀ other ∈ before, IsLegal other) ∧ Offends entry e := by
  induction defaults generalizing start with
  | nil => simp [pure, Except.pure]
  | cons first rest ih =>
    rw [List.foldlM_cons]
    constructor
    · intro h
      rcases Except.bind_eq_error_iff.1 h with hf | ⟨headers, hf, hr⟩
      · exact ⟨[], first, rest, rfl, by simp, addHeader_eq_error_iff.1 hf⟩
      · obtain ⟨before, entry, after, rfl, hb, he⟩ := ih.1 hr
        refine ⟨first :: before, entry, after, rfl, ?_, he⟩
        rintro other (_ | ⟨_, hm⟩)
        · exact isLegal_of_addHeader hf
        · exact hb other hm
    · rintro ⟨before, entry, after, hd, hb, he⟩
      cases before with
      | nil =>
        obtain ⟨rfl, rfl⟩ := List.cons.inj hd
        exact Except.bind_eq_error_iff.2 (.inl (addHeader_eq_error_iff.2 he))
      | cons other before =>
        obtain ⟨rfl, rfl⟩ := List.cons.inj hd
        obtain ⟨value, -, -, hadd⟩ := exists_addHeader (hb first List.mem_cons_self)
        refine Except.bind_eq_error_iff.2 (.inr ⟨_, hadd start, ih.2 ?_⟩)
        exact ⟨before, entry, after, rfl, fun o ho => hb o (List.mem_cons_of_mem _ ho), he⟩

/-- **All entries are headers** if there is no error. -/
theorem exists_foldlM_addHeader_iff :
    (∃ headers, defaults.foldlM addHeader start = .ok headers) ↔
      ∀ entry ∈ defaults, IsLegal entry := by
  constructor
  · rintro ⟨headers, h⟩ entry hm
    obtain ⟨before, after, hstep⟩ := exists_step_of_foldlM_eq_ok h hm
    exact isLegal_of_addHeader hstep
  · intro h
    cases hf : defaults.foldlM addHeader start with
    | ok headers => exact ⟨headers, rfl⟩
    | error e =>
      obtain ⟨before, entry, after, rfl, -, he⟩ := foldlM_addHeader_eq_error_iff.1 hf
      exact absurd he (isLegal_iff.1 (h entry (by simp)) e)

/-! ## Which entry counts -/

/-- **The value that counts for a name**: that of the greatest key which is the name but for letter
case. -/
def IsLast (defaults : Table Json) (name value : String) : Prop :=
  ∃ key, (key, Json.text value) ∈ defaults ∧ headerKey key = name ∧
    ∀ other ∈ defaults, headerKey other.1 = name → other.1 ≤ key

/-- An entry behind all others counts for its own name, and changes nothing for other names. -/
theorem isLast_concat {front : Table Json} {key s : String} (h : ∀ other ∈ front, other.1 < key) :
    IsLast (front ++ [(key, .text s)]) name value ↔
      if headerKey key = name then s = value else IsLast front name value := by
  -- The last entry has the greatest key: it counts if it has the name, and is skipped if not.
  split
  · next hk =>
    constructor
    · rintro ⟨k, hm, -, hmax⟩
      have hle : key ≤ k := hmax (key, .text s) (by simp) hk
      rcases List.mem_append.1 hm with hm | hm
      · exact absurd hle (not_le.2 (h _ hm))
      · exact (Json.text.inj (Prod.mk.inj (List.mem_singleton.1 hm)).2).symm
    · rintro rfl
      refine ⟨key, by simp, hk, fun other hm _ => ?_⟩
      rcases List.mem_append.1 hm with hm | hm
      · exact (h _ hm).le
      · rw [List.mem_singleton.1 hm]
  · next hk =>
    constructor
    · rintro ⟨k, hm, rfl, hmax⟩
      rcases List.mem_append.1 hm with hm | hm
      · exact ⟨k, hm, rfl, fun other ho => hmax other (List.mem_append_left _ ho)⟩
      · exact absurd (congrArg headerKey (Prod.mk.inj (List.mem_singleton.1 hm)).1).symm hk
    · rintro ⟨k, hm, rfl, hmax⟩
      refine ⟨k, List.mem_append_left _ hm, rfl, fun other ho hn => ?_⟩
      rcases List.mem_append.1 ho with ho | ho
      · exact hmax other ho hn
      · rw [List.mem_singleton.1 ho] at hn
        exact absurd hn hk

/-- Every name has a value that counts. -/
theorem exists_isLast (hs : defaults.IsSorted) (hl : ∀ entry ∈ defaults, IsLegal entry)
    (hm : entry ∈ defaults) : ∃ value, IsLast defaults (headerKey entry.1) value := by
  induction defaults using List.reverseRecOn with
  | nil => cases hm
  | append_singleton front last ih =>
    obtain ⟨key, v⟩ := last
    obtain ⟨hsorted, -, hlt⟩ := List.pairwise_append.1 hs
    obtain ⟨s, rfl, -, -⟩ := hl (key, v) (by simp)
    have hlt (other) (ho : other ∈ front) : other.1 < key := hlt other ho _ List.mem_cons_self
    simp only [isLast_concat hlt]
    by_cases hk : headerKey key = headerKey entry.1
    · exact ⟨s, by rw [if_pos hk]⟩
    · -- the last entry has another name, so the one in question stands before it
      rcases List.mem_append.1 hm with hm | hm
      · obtain ⟨value, hv⟩ := ih hsorted (fun o ho => hl o (List.mem_append_left _ ho)) hm
        exact ⟨value, by rwa [if_neg hk]⟩
      · rw [List.mem_singleton.1 hm] at hk
        exact absurd rfl hk

/-- **The last entry of a name counts**, and where there is none, what was there before. -/
theorem lookup_of_foldlM_addHeader (hs : defaults.IsSorted)
    (h : defaults.foldlM addHeader start = .ok headers) :
    headers.lookup name = some value ↔ IsLast defaults name value ∨
      (∀ entry ∈ defaults, headerKey entry.1 ≠ name) ∧ start.lookup name = some value := by
  -- The entries are taken from the end, where the greatest key stands.
  induction defaults using List.reverseRecOn generalizing headers with
  | nil =>
    cases h
    simp [IsLast]
  | append_singleton front entry ih =>
    rw [List.foldlM_append] at h
    obtain ⟨middle, hfront, h⟩ := bind_eq_ok_iff.1 h
    obtain ⟨hsorted, -, hlt⟩ := List.pairwise_append.1 hs
    have hlt (other) (hm : other ∈ front) : other.1 < entry.1 := hlt other hm entry (by simp)
    rw [List.foldlM_cons] at h
    obtain ⟨last, hlast, h⟩ := bind_eq_ok_iff.1 h
    cases h
    obtain ⟨key, v⟩ := entry
    obtain ⟨s, rfl, -, hadd⟩ := exists_addHeader (isLegal_of_addHeader hlast)
    rw [hadd] at hlast
    cases hlast
    have hnone : (∀ entry ∈ front ++ [(key, Json.text s)], headerKey entry.1 ≠ name) ↔
        (∀ entry ∈ front, headerKey entry.1 ≠ name) ∧ headerKey key ≠ name := by
      rw [List.forall_mem_append, List.forall_mem_singleton]
    rw [isLast_concat hlt, hnone]
    by_cases hk : headerKey key = name
    · subst hk
      simp
    · rw [if_neg hk, Table.lookup_insert_of_ne _ _ (Ne.symm hk), ih hsorted hfront]
      simp [hk]

/-- What every header keeps that is put in its place is kept by all entries together. -/
theorem foldlM_addHeader_induction {P : Table String → Prop}
    (step : ∀ table name value, IsLegalValue value → P table → P (Table.insert name value table))
    (hs : P start) (h : defaults.foldlM addHeader start = .ok headers) : P headers := by
  induction defaults generalizing start with
  | nil =>
    cases h
    exact hs
  | cons entry rest ih =>
    rw [List.foldlM_cons] at h
    obtain ⟨next, hnext, h⟩ := bind_eq_ok_iff.1 h
    obtain ⟨value, -, hlegal, hadd⟩ := exists_addHeader (isLegal_of_addHeader hnext)
    rw [hadd] at hnext
    cases hnext
    exact ih (step _ _ _ hlegal hs) h

theorem isSorted_of_foldlM_addHeader (hs : start.IsSorted)
    (h : defaults.foldlM addHeader start = .ok headers) : headers.IsSorted := by
  apply foldlM_addHeader_induction _ hs h
  intro table name value _ ht
  exact Table.isSorted_insert ht name value

theorem isLegalValue_of_foldlM_addHeader (hs : ∀ header ∈ start, IsLegalValue header.2)
    (h : defaults.foldlM addHeader start = .ok headers) :
    ∀ header ∈ headers, IsLegalValue header.2 := by
  apply foldlM_addHeader_induction _ hs h
  intro table name value hv ht header hm
  rcases Table.mem_insert hm with rfl | hm
  · exact hv
  · exact ht header hm

/-! ## The headers of a call -/

/-- A key is a value behind its word. -/
def IsLegalKey (apiKey : Option String) : Prop := ∀ key ∈ apiKey, IsLegalValue ("Bearer " ++ key)

/-- **Headers are put together** from a key and a table of default headers. -/
structure IsAssembled (apiKey : Option String) (defaults : Table Json)
    (result : Except CallError (Table String)) : Prop where
  /-- There are headers just if the key is legal and every entry is a header. -/
  ok_iff : (∃ headers, result = .ok headers) ↔
    IsLegalKey apiKey ∧ ∀ entry ∈ defaults, IsLegal entry
  /-- The name of every entry stands there, and no name stands there twice. -/
  named : ∀ headers, result = .ok headers → (headers.map Prod.fst).Nodup ∧
    ∀ entry ∈ defaults, headerKey entry.1 ∈ headers.map Prod.fst
  /-- The headers are those of the last entries of all names, and that of the key if no entry has
  its name. -/
  mem_iff : ∀ headers, result = .ok headers → ∀ name value, (name, value) ∈ headers ↔
    IsLast defaults name value ∨ (∀ entry ∈ defaults, headerKey entry.1 ≠ name) ∧
      name = "authorization" ∧ ∃ key ∈ apiKey, value = "Bearer " ++ key
  /-- No value holds an end of a line, a null or another control. -/
  clean : ∀ headers, result = .ok headers → ∀ header ∈ headers, ∀ c ∈ header.2.toList,
    c ∉ ['\r', '\n', '\x00'] ∧ ¬IsForbidden c
  /-- The error is that of the first thing that is wrong: the key, or else the entry of the least
  key with any. -/
  error_iff : ∀ e, result = .error e ↔ ¬IsLegalKey apiKey ∧ e = .headerValue ∨
    IsLegalKey apiKey ∧ ∃ entry ∈ defaults, Offends entry e ∧
      ∀ other ∈ defaults, other.1 < entry.1 → IsLegal other

/-- The header of a key. -/
def keyHeader (apiKey : Option String) : Table String :=
  (apiKey.map fun key => ("authorization", "Bearer " ++ key)).toList

theorem lookup_keyHeader : (keyHeader apiKey).lookup name = some value ↔
    name = "authorization" ∧ ∃ key ∈ apiKey, value = "Bearer " ++ key := by
  cases apiKey with
  | none => simp [keyHeader]
  | some key =>
    simp only [keyHeader, Option.map_some, Option.toList_some, Table.lookup_cons, List.lookup_nil]
    split <;> simp_all [eq_comm]

/-- **A key that is no value is the first thing that is wrong**; otherwise its header stands before
those of the entries. -/
theorem authHeaders_cases (apiKey : Option String) (defaults : Table Json) :
    ¬IsLegalKey apiKey ∧ authHeaders apiKey defaults = .error .headerValue ∨
      IsLegalKey apiKey ∧
        authHeaders apiKey defaults = defaults.foldlM addHeader (keyHeader apiKey) := by
  cases apiKey with
  | none => exact .inr ⟨by simp [IsLegalKey], rfl⟩
  | some key =>
    by_cases hv : IsLegalValue ("Bearer " ++ key)
    · right
      refine ⟨by simpa [IsLegalKey] using hv, ?_⟩
      rw [authHeaders, bearer, if_pos (isHeaderValue_iff.2 hv)]
      rfl
    · left
      refine ⟨by simpa [IsLegalKey] using hv, ?_⟩
      rw [authHeaders, bearer, if_neg (mt isHeaderValue_iff.1 hv)]
      rfl

theorem isSorted_keyHeader (apiKey : Option String) : (keyHeader apiKey).IsSorted := by
  cases apiKey <;> simp [keyHeader, Table.IsSorted]

theorem isLegalValue_keyHeader (h : IsLegalKey apiKey) :
    ∀ header ∈ keyHeader apiKey, IsLegalValue header.2 := by
  cases apiKey with
  | none => simp [keyHeader]
  | some key => simpa [keyHeader] using h key rfl

/-- **The headers are those of the last entries**, and that of the key if no entry has its name. -/
theorem mem_foldlM_addHeader_iff (h : defaults.IsSorted)
    (hok : defaults.foldlM addHeader (keyHeader apiKey) = .ok headers) (name value : String) :
    (name, value) ∈ headers ↔ IsLast defaults name value ∨
      (∀ entry ∈ defaults, headerKey entry.1 ≠ name) ∧
        name = "authorization" ∧ ∃ key ∈ apiKey, value = "Bearer " ++ key := by
  rw [Table.mem_iff_lookup (isSorted_of_foldlM_addHeader (isSorted_keyHeader apiKey) hok),
    lookup_of_foldlM_addHeader h hok, lookup_keyHeader]

theorem not_mem_of_not_isForbidden {c : Char} (h : ¬IsForbidden c) :
    c ∉ ['\r', '\n', '\x00'] := by
  intro hbreak
  apply h
  simp only [List.mem_cons, List.not_mem_nil, or_false] at hbreak
  rcases hbreak with rfl | rfl | rfl <;> exact .inl (by decide)

/-- The first entry with any error is that of the least key with any. -/
theorem exists_first_iff (h : defaults.IsSorted) :
    (∃ before entry after, defaults = before ++ entry :: after ∧
      (∀ other ∈ before, IsLegal other) ∧ Offends entry e) ↔
    ∃ entry ∈ defaults, Offends entry e ∧
      ∀ other ∈ defaults, other.1 < entry.1 → IsLegal other := by
  constructor
  · rintro ⟨before, entry, after, rfl, hb, he⟩
    refine ⟨entry, by simp, he, fun other hm hlt => ?_⟩
    obtain ⟨-, hafter, -⟩ := List.pairwise_append.1 h
    rcases List.mem_append.1 hm with hm | hm
    · exact hb other hm
    · -- what stands behind has a greater key
      rcases List.mem_cons.1 hm with rfl | hm
      · exact absurd hlt (lt_irrefl _)
      · exact absurd hlt ((List.pairwise_cons.1 hafter).1 other hm).not_gt
  · rintro ⟨entry, hm, he, hfirst⟩
    obtain ⟨before, after, rfl⟩ := List.append_of_mem hm
    obtain ⟨-, -, hlt⟩ := List.pairwise_append.1 h
    refine ⟨before, entry, after, rfl, fun other ho => ?_, he⟩
    exact hfirst other (List.mem_append_left _ ho) (hlt other ho entry List.mem_cons_self)

/-- With a key that is no value there are no headers, whatever the entries are. -/
theorem isAssembled_of_not_isLegalKey (hbad : ¬IsLegalKey apiKey) :
    IsAssembled apiKey defaults (.error .headerValue) := by
  constructor
  case ok_iff => simp [hbad]
  case named => intro headers hok; cases hok
  case mem_iff => intro headers hok; cases hok
  case clean => intro headers hok; cases hok
  case error_iff =>
    intro e
    constructor
    · rintro ⟨⟩
      exact .inl ⟨hbad, rfl⟩
    · rintro (⟨-, rfl⟩ | ⟨hkey, -⟩)
      · rfl
      · exact absurd hkey hbad

/-- With a key that is a value, or none, the entries decide. -/
theorem isAssembled_of_isLegalKey (h : defaults.IsSorted) (hkey : IsLegalKey apiKey) :
    IsAssembled apiKey defaults (defaults.foldlM addHeader (keyHeader apiKey)) := by
  constructor
  case ok_iff =>
    rw [exists_foldlM_addHeader_iff]
    exact (and_iff_right hkey).symm
  case named =>
    intro headers hok
    have hsorted := isSorted_of_foldlM_addHeader (isSorted_keyHeader apiKey) hok
    refine ⟨Table.nodup_keys hsorted, fun entry hm => ?_⟩
    have hall := exists_foldlM_addHeader_iff.1 ⟨headers, hok⟩
    obtain ⟨value, hv⟩ := exists_isLast h hall hm
    exact List.mem_map_of_mem ((mem_foldlM_addHeader_iff h hok _ value).2 (.inl hv))
  case mem_iff =>
    intro headers hok
    exact mem_foldlM_addHeader_iff h hok
  case clean =>
    intro headers hok header hm c hc
    have hfree : ¬IsForbidden c :=
      isLegalValue_of_foldlM_addHeader (isLegalValue_keyHeader hkey) hok header hm c hc
    exact ⟨not_mem_of_not_isForbidden hfree, hfree⟩
  case error_iff =>
    intro e
    rw [foldlM_addHeader_eq_error_iff, exists_first_iff h]
    constructor
    · intro hfirst
      exact .inr ⟨hkey, hfirst⟩
    · rintro (⟨hbad, -⟩ | ⟨-, hfirst⟩)
      · exact absurd hkey hbad
      · exact hfirst

/-- **Headers are put together by the law**, whatever the key and the default headers are. -/
theorem isAssembled_authHeaders (h : defaults.IsSorted) :
    IsAssembled apiKey defaults (authHeaders apiKey defaults) := by
  rcases authHeaders_cases apiKey defaults with ⟨hbad, hresult⟩ | ⟨hkey, hresult⟩
  · rw [hresult]
    exact isAssembled_of_not_isLegalKey hbad
  · rw [hresult]
    exact isAssembled_of_isLegalKey h hkey

/-- Two spellings of one name: the one of the greater key counts, also against the key. -/
theorem isAssembled_authHeaders_of_spellings :
    let defaults : Table Json := [("Authorization", .text "Basic a"), ("X-Shop", .text "one"),
      ("authorization", .text "Basic b"), ("x-Shop", .text "two")]
    defaults.IsSorted ∧ IsAssembled (some "k") defaults
      (.ok [("authorization", "Basic b"), ("x-shop", "two")]) := by
  intro defaults
  have h : defaults.IsSorted := by decide +kernel
  have hresult : authHeaders (some "k") defaults =
      .ok [("authorization", "Basic b"), ("x-shop", "two")] := by rfl
  rw [← hresult]
  exact ⟨h, isAssembled_authHeaders h⟩

end Storefront.Http
