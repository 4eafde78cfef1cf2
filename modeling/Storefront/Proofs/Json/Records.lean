import Mathlib.Data.List.Basic
import Mathlib.Data.List.Nodup
import Storefront.Api.Body

/-!
# Records that are read back

An object whose members are those of a record, each under its own name and of the kind that is
wanted, is read as that record: the order of the members does not matter, and what may be missing
may be missing. The JSON form of filters is such an object, and so they are read back from it.

## Main definitions

* `Fits`: a member that a record wants
* `Filters.members`, `RawSearchRequest.members`: the members of JSON forms

## Main results

* `fields_ofJson`: the readings of an object all of whose members fit
* `Filters.decode_encode`: filters are read back
* `RawSearchRequest.decode_members`: so is a search that names its mode and its filters
* `RawSearchRequest.lt_of_decode`, `SearchRequest.lt_of_decode`: the numbers of what is read
-/

namespace Storefront

open Json

namespace Json

variable {α : Type} {spec : List Field} {members : List (String × Json)}

/-- **A member that a record wants**: there is a field of its name, and its value is of the kind
that the field wants. -/
def Fits (spec : List Field) (member : String × Json) : Prop :=
  ∃ f, spec.find? (fun f => f.name == member.1) = some f ∧ f.check (.ofJson member.2) = .ok ()

theorem Field.check_of {name : String} {presence : Presence} {d : Decoder α} {r : Reading} {a : α}
    (h : d r = .ok a) : (Field.of name presence d).check r = .ok () := by
  show (d r).map _ = _
  rw [h]
  rfl

theorem Reading.ofMembers_eq_map (members : List (String × Json)) :
    Reading.ofMembers members = members.map fun m => (some m.1, .ofJson m.2) := by
  induction members with
  | nil => rfl
  | cons m members ih =>
    obtain ⟨k, v⟩ := m
    rw [Reading.ofMembers, ih]
    rfl

theorem lookup_map (g : Json → Reading) (key : String) (members : List (String × Json)) :
    (members.map fun m => (m.1, g m.2)).lookup key = (members.lookup key).map g := by
  induction members with
  | nil => rfl
  | cons m members ih =>
    obtain ⟨k, v⟩ := m
    rw [List.map_cons, Table.lookup_cons, Table.lookup_cons, ih]
    split <;> rfl

/-- A name is found exactly if it is one of the names. -/
theorem lookup_isSome_iff_mem {key : String} {entries : List (String × α)} :
    (entries.lookup key).isSome = true ↔ key ∈ entries.map Prod.fst := by
  rw [List.lookup_isSome_iff, List.mem_map]
  constructor
  · rintro ⟨e, he, hk⟩
    exact ⟨e, he, (eq_of_beq hk).symm⟩
  · rintro ⟨e, he, rfl⟩
    exact ⟨e, he, beq_self_eq_true _⟩

/-- A member that fits is found, unless its name was there before. -/
theorem addMember_of_fits {m : String × Json} {found : Fields} (h : Fits spec m)
    (hn : m.1 ∉ found.map Prod.fst) :
    addMember spec found (some m.1, .ofJson m.2) = .ok (found ++ [(m.1, .ofJson m.2)]) := by
  obtain ⟨f, hf, hc⟩ := h
  rw [← lookup_isSome_iff_mem] at hn
  simp only [addMember, hf, hn, hc]
  rfl

/-- **Members that fit are all found**, after what was found before. -/
theorem foldlM_addMember (h : ∀ m ∈ members, Fits spec m) {found : Fields}
    (hd : (found.map Prod.fst ++ members.map Prod.fst).Nodup) :
    (members.map fun m => (some m.1, Reading.ofJson m.2)).foldlM (addMember spec) found =
      .ok (found ++ members.map fun m => (m.1, .ofJson m.2)) := by
  -- What was found before each member are all names in front of it, so none is its own.
  induction members generalizing found with
  | nil =>
    rw [List.map_nil, List.map_nil, List.append_nil]
    rfl
  | cons m members ih =>
    have hn : m.1 ∉ found.map Prod.fst := by
      intro hm
      exact (List.nodup_append.1 hd).2.2 _ hm _ List.mem_cons_self rfl
    rw [List.map_cons, List.foldlM_cons, addMember_of_fits (h m List.mem_cons_self) hn]
    show List.foldlM _ _ _ = _
    rw [ih (fun m' hm' => h m' (List.mem_cons_of_mem _ hm'))]
    · rw [List.append_assoc]
      rfl
    · rw [List.map_append, List.append_assoc]
      exact hd

/-- **The readings of an object all of whose members fit** are those of its members, if no field is
missing that must be there. -/
theorem fields_ofJson (h : ∀ m ∈ members, Fits spec m) (hd : (members.map Prod.fst).Nodup)
    (hr : ∀ f ∈ spec, f.presence = .required → f.name ∈ members.map Prod.fst) :
    fields spec (.ofJson (.object members)) =
      .ok (members.map fun m => (m.1, .ofJson m.2)) := by
  have hf : (members.map fun m => (some m.1, Reading.ofJson m.2)).foldlM (addMember spec) [] =
      .ok (members.map fun m => (m.1, .ofJson m.2)) := foldlM_addMember h hd
  have hn : (spec.any fun f => f.presence == .required &&
      ((members.map fun m => (m.1, Reading.ofJson m.2)).lookup f.name).isNone) = false := by
    refine List.any_eq_false.2 fun f hs => ?_
    rw [lookup_map, Option.isNone_map, Bool.and_eq_true, not_and]
    intro hp
    obtain ⟨v, hv⟩ := Option.isSome_iff_exists.1
      (lookup_isSome_iff_mem.2 (hr f hs (eq_of_beq hp)))
    rw [hv]
    exact Bool.false_ne_true
  rw [Reading.ofJson, Reading.ofMembers_eq_map, fields, hf]
  show (if _ then _ else _) = _
  rw [hn]
  rfl

/-- The key of an optional member. -/
theorem sublist_optional (o : Option α) (key : String) (g : α → Json) :
    ((o.map fun a => (key, g a)).toList.map Prod.fst).Sublist [key] := by
  cases o with
  | none => exact List.nil_sublist _
  | some a => exact List.Sublist.refl _

/-- A field that may be missing is missing where there is no value. -/
theorem Fields.optional_eq_ok {found : Fields} {name : String} {d : Decoder α} {o : Option α}
    {g : α → Json} (hl : found.lookup name = (o.map g).map .ofJson)
    (hd : ∀ a ∈ o, d.nullable (.ofJson (g a)) = .ok (some a)) : found.optional name d = .ok o := by
  rw [Fields.optional, hl]
  cases o with
  | none => rfl
  | some a => exact hd a rfl

theorem Decoder.unsigned_ofNat {bits n : Nat} (h : n < Nat.pow 2 bits) :
    Decoder.unsigned bits (.ofJson (.ofNat n)) = .ok n :=
  Decoder.unsigned_integer.2 ⟨rfl, h⟩

theorem Decoder.nullable_unsigned_ofNat {bits n : Nat} (h : n < Nat.pow 2 bits) :
    (Decoder.unsigned bits).nullable (.ofJson (.ofNat n)) = .ok (some n) := by
  show (Decoder.unsigned bits (.ofJson (.ofNat n))).map some = _
  rw [Decoder.unsigned_ofNat h]
  rfl

theorem bind_eq_ok_iff {ε β : Type} {x : Except ε α} {f : α → Except ε β} {b : β} :
    x >>= f = .ok b ↔ ∃ a, x = .ok a ∧ f a = .ok b := by
  cases x with
  | error e => simp [bind, Except.bind]
  | ok a => simp [bind, Except.bind]

theorem Decoder.lt_of_unsigned {bits n : Nat} {r : Reading} (h : Decoder.unsigned bits r = .ok n) :
    n < Nat.pow 2 bits := by
  unfold Decoder.unsigned at h
  split at h
  · exact (Decoder.unsigned_integer.1 h).2
  · cases h

/-- A number that is read fits. -/
theorem Fields.lt_of_optional_unsigned {found : Fields} {name : String} {bits : Nat}
    {o : Option Nat} (h : found.optional name (.unsigned bits) = .ok o) :
    ∀ n ∈ o, n < Nat.pow 2 bits := by
  rintro n rfl
  unfold Fields.optional at h
  split at h
  · next r _ =>
    unfold Decoder.nullable at h
    split at h
    · cases h
    · cases hr : Decoder.unsigned bits r with
      | error e =>
        rw [hr] at h
        cases h
      | ok k =>
        rw [hr] at h
        obtain rfl := Option.some.inj (Except.ok.inj h)
        exact Decoder.lt_of_unsigned hr
  · cases h

end Json

/-! ## Filters -/

namespace Filters

variable {f : Filters}

/-- The members of the JSON form of filters. -/
def members (f : Filters) : List (String × Json) :=
  (f.category.map fun s => ("category", Json.text s)).toList ++
    (f.color.map fun s => ("color", Json.text s)).toList ++
    (f.price.map fun n => ("price", Json.ofNat n)).toList

theorem nodup_members (f : Filters) : (f.members.map Prod.fst).Nodup := by
  have hs : (f.members.map Prod.fst).Sublist ["category", "color", "price"] := by
    rw [members, List.map_append, List.map_append]
    exact ((sublist_optional _ _ _).append (sublist_optional _ _ _)).append
      (sublist_optional _ _ _)
  exact hs.nodup (by decide)

theorem fits_of_mem_members (h : ∀ n ∈ f.price, n < Nat.pow 2 32) {m : String × Json}
    (hm : m ∈ f.members) : Fits spec m := by
  simp only [members, List.mem_append, Option.mem_toList,
    Option.map_eq_some_iff] at hm
  obtain (⟨s, -, rfl⟩ | ⟨s, -, rfl⟩) | ⟨n, hn, rfl⟩ := hm
  · exact ⟨_, rfl, rfl⟩
  · exact ⟨_, rfl, rfl⟩
  · exact ⟨_, rfl, Field.check_of (Decoder.nullable_unsigned_ofNat (h n hn))⟩

theorem lookup_price (f : Filters) : f.members.lookup "price" = f.price.map .ofNat := by
  obtain ⟨price, color, category⟩ := f
  cases price <;> cases color <;> cases category <;> rfl

theorem lookup_color (f : Filters) : f.members.lookup "color" = f.color.map .text := by
  obtain ⟨price, color, category⟩ := f
  cases price <;> cases color <;> cases category <;> rfl

theorem lookup_category (f : Filters) : f.members.lookup "category" = f.category.map .text := by
  obtain ⟨price, color, category⟩ := f
  cases price <;> cases color <;> cases category <;> rfl

/-- **Filters are read back from their JSON form.** -/
theorem decode_encode (h : ∀ n ∈ f.price, n < Nat.pow 2 32) :
    decode (.ofJson f.encode) = .ok f := by
  have hf : fields spec (.ofJson f.encode) = .ok (f.members.map fun m => (m.1, .ofJson m.2)) := by
    refine fields_ofJson (fun m hm => fits_of_mem_members h hm) f.nodup_members ?_
    intro field hs hr
    simp only [spec, List.mem_cons, List.not_mem_nil, or_false] at hs
    obtain rfl | rfl | rfl := hs <;> cases hr
  have hp : Fields.optional (f.members.map fun m => (m.1, .ofJson m.2)) "price" (.unsigned 32) =
      .ok f.price :=
    Fields.optional_eq_ok (by rw [lookup_map, lookup_price])
      fun n hn => Decoder.nullable_unsigned_ofNat (h n hn)
  have hc : Fields.optional (f.members.map fun m => (m.1, .ofJson m.2)) "color" Decoder.text =
      .ok f.color :=
    Fields.optional_eq_ok (by rw [lookup_map, lookup_color]) fun _ _ => rfl
  have hg : Fields.optional (f.members.map fun m => (m.1, .ofJson m.2)) "category" Decoder.text =
      .ok f.category :=
    Fields.optional_eq_ok (by rw [lookup_map, lookup_category]) fun _ _ => rfl
  simp only [decode, hf, bind, Except.bind, hp, hc, hg]
  rfl

/-- The price of filters that are read has 32 bits. -/
theorem price_lt_of_decode {r : Reading} (h : decode r = .ok f) :
    ∀ n ∈ f.price, n < Nat.pow 2 32 := by
  obtain ⟨found, -, h⟩ := bind_eq_ok_iff.1 h
  obtain ⟨price, hp, h⟩ := bind_eq_ok_iff.1 h
  obtain ⟨color, -, h⟩ := bind_eq_ok_iff.1 h
  obtain ⟨category, -, h⟩ := bind_eq_ok_iff.1 h
  obtain rfl := Except.ok.inj h
  exact Fields.lt_of_optional_unsigned hp

end Filters

/-! ## Searches -/

namespace RawSearchRequest

variable {query mode : String} {filters : Filters} {limit : Nat}

/-- The fields of a search that names its mode and its filters. -/
def spec : List Field :=
  [.of "query" .required Decoder.text, .of "mode" .required Decoder.text,
    .of "filters" .defaulted Filters.decode,
    .of "limit" .optional (Decoder.unsigned 32).nullable]

/-- The members of the body of such a search. -/
def members (query mode filters : Json) (limit : Nat) : List (String × Json) :=
  [("filters", filters), ("limit", .ofNat limit), ("mode", mode), ("query", query)]

theorem fits_of_mem_members (hp : ∀ n ∈ filters.price, n < Nat.pow 2 32)
    (hl : limit < Nat.pow 2 32) {m : String × Json}
    (hm : m ∈ members (.text query) (.text mode) filters.encode limit) : Fits spec m := by
  simp only [members, List.mem_cons, List.not_mem_nil, or_false] at hm
  obtain rfl | rfl | rfl | rfl := hm
  · exact ⟨_, rfl, Field.check_of (Filters.decode_encode hp)⟩
  · exact ⟨_, rfl, Field.check_of (Decoder.nullable_unsigned_ofNat hl)⟩
  · exact ⟨_, rfl, rfl⟩
  · exact ⟨_, rfl, rfl⟩

/-- **A search that names its mode and its filters is read back**, with the number of records. -/
theorem decode_members (hp : ∀ n ∈ filters.price, n < Nat.pow 2 32) (hl : limit < Nat.pow 2 32) :
    decode (.ofJson (.object (members (.text query) (.text mode) filters.encode limit))) =
      .ok { query, mode, filters, limit := some limit } := by
  have hf : fields spec
        (.ofJson (.object (members (.text query) (.text mode) filters.encode limit))) =
      .ok [("filters", .ofJson filters.encode), ("limit", .ofJson (.ofNat limit)),
        ("mode", .text (some mode)), ("query", .text (some query))] := by
    refine fields_ofJson (fun m hm => fits_of_mem_members hp hl hm) ?_ ?_
    · show ["filters", "limit", "mode", "query"].Nodup
      decide
    · intro f hs hr
      show f.name ∈ ["filters", "limit", "mode", "query"]
      simp only [spec, List.mem_cons, List.not_mem_nil, or_false] at hs
      obtain rfl | rfl | rfl | rfl := hs
      · exact .tail _ (.tail _ (.tail _ (.head _)))
      · exact .tail _ (.tail _ (.head _))
      · cases hr
      · cases hr
  unfold spec at hf
  have hc : Filters.decode (.ofJson filters.encode) = .ok filters := Filters.decode_encode hp
  have hn : (Decoder.unsigned 32).nullable (.ofJson (.ofNat limit)) = .ok (some limit) :=
    Decoder.nullable_unsigned_ofNat hl
  simp only [decode, hf, bind, Except.bind, Fields.required, Fields.defaulted, Fields.optional,
    Table.lookup_cons, String.reduceEq, if_true, if_false, Decoder.text_text, hc, hn]
  rfl

/-- The numbers of a search that is read have 32 bits. -/
theorem lt_of_decode {r : Reading} {request : RawSearchRequest} (h : decode r = .ok request) :
    (∀ n ∈ request.limit, n < Nat.pow 2 32) ∧
      ∀ n ∈ request.filters.price, n < Nat.pow 2 32 := by
  obtain ⟨found, -, h⟩ := bind_eq_ok_iff.1 h
  obtain ⟨query, -, h⟩ := bind_eq_ok_iff.1 h
  obtain ⟨mode, -, h⟩ := bind_eq_ok_iff.1 h
  obtain ⟨filters, hf, h⟩ := bind_eq_ok_iff.1 h
  obtain ⟨limit, hl, h⟩ := bind_eq_ok_iff.1 h
  obtain rfl := Except.ok.inj h
  refine ⟨Fields.lt_of_optional_unsigned hl, ?_⟩
  unfold Fields.defaulted at hf
  split at hf
  · exact Filters.price_lt_of_decode hf
  · obtain rfl := Except.ok.inj hf
    rintro n ⟨⟩

end RawSearchRequest

/-- The number in a search as a shopper asks for it has 32 bits, if the search is read. -/
theorem SearchRequest.lt_of_decode {r : Reading} {request : SearchRequest}
    (h : decode r = .ok request) : ∀ n ∈ request.limit, n < Nat.pow 2 32 := by
  obtain ⟨found, -, h⟩ := bind_eq_ok_iff.1 h
  obtain ⟨query, -, h⟩ := bind_eq_ok_iff.1 h
  obtain ⟨toggle, -, h⟩ := bind_eq_ok_iff.1 h
  obtain ⟨limit, hl, h⟩ := bind_eq_ok_iff.1 h
  obtain rfl := Except.ok.inj h
  exact Fields.lt_of_optional_unsigned hl

end Storefront
