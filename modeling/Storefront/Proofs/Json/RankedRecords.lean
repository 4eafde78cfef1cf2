import Storefront.Proofs.Json.Records
import Storefront.Proofs.Number.Widening
import Storefront.Proofs.Search.Bodies

/-!
# Ranked records that are read back

The JSON form of a record has null where a number is not finite. What is read of it depends on where
that is: a price that is null is no price, but a relevance must have a number, so the record is lost
with it. As the numbers of a backend may be spelled in texts, and may be too large once they are
narrowed to 32 bits, this happens to records that are served.

## Main definitions

* `RankedRecord.withFinitePrice`: a record without a price that is not finite
* `Execution.IsFiniteRow`: a row whose numbers are finite
* `Execution.IsReadBack`: the law of the records of an answer

## Main results

* `Relevance.decode_encode`, `Relevance.decode_encode_of_not_finite`: the JSON form of a relevance
* `RankedRecord.decode_encode`: what is read of a record, if anything is
* `RankedRecord.decode?_encode_eq_some_iff`: which records are read back
* `RankedRecord.decode?_encode_eq_none_iff`: which records are lost
* `Execution.isReadBack_of_mem_records`: which records of an answer are read back
* `Execution.not_read_back_of_infinite_score`: not all of them are
-/

namespace Storefront

open Json

/-! ## Members that do not fit -/

namespace Json

variable {spec : List Field} {members : List (String × Json)}

/-- Every step of a fold succeeds if the fold does. -/
theorem exists_step_of_foldlM_eq_ok {ε α β : Type} {f : β → α → Except ε β} {items : List α}
    {b b' : β} (h : items.foldlM f b = .ok b') {a : α} (ha : a ∈ items) :
    ∃ c c', f c a = .ok c' := by
  induction items generalizing b with
  | nil => cases ha
  | cons a' items ih =>
    rw [List.foldlM_cons] at h
    obtain ⟨c, hc, h⟩ := bind_eq_ok_iff.1 h
    rcases List.mem_cons.1 ha with rfl | ha
    · exact ⟨b, c, hc⟩
    · exact ih h ha

/-- **Every member that a record wants is of the right kind**, if the fields are read. -/
theorem check_of_fields_eq_ok {found : Fields}
    (h : fields spec (.ofJson (.object members)) = .ok found) {m : String × Json}
    (hm : m ∈ members) {f : Field} (hf : spec.find? (fun f => f.name == m.1) = some f) :
    f.check (.ofJson m.2) = .ok () := by
  rw [Reading.ofJson, Reading.ofMembers_eq_map] at h
  obtain ⟨_, hfold, -⟩ := bind_eq_ok_iff.1 h
  obtain ⟨c, c', hstep⟩ := exists_step_of_foldlM_eq_ok hfold (List.mem_map_of_mem hm)
  simp only [addMember, hf] at hstep
  split at hstep
  · cases hstep
  · cases hc : f.check (.ofJson m.2) with
    | ok u => rfl
    | error e =>
      rw [hc] at hstep
      cases hstep

end Json

/-! ## Relevance -/

namespace Relevance

/-- The number of a relevance. -/
def value : Relevance → Single
  | .score x => x
  | .distance x => x

variable {v : Relevance}

/-- **A relevance is read back** if its number is finite: it is read as one of 64 bits, and narrowed
again. -/
theorem decode_encode (h : v.value.isFinite = true) : decode (.ofJson v.encode) = .ok v := by
  cases v with
  | score x =>
    have hx : x.isFinite = true := h
    rw [encode, ofNumber, if_pos hx]
    show Except.ok (Relevance.score ((x.convert .double).convert .single)) = _
    rw [Binary.convert_convert Format.isWider_double_single]
  | distance x =>
    have hx : x.isFinite = true := h
    rw [encode, ofNumber, if_pos hx]
    show Except.ok (Relevance.distance ((x.convert .double).convert .single)) = _
    rw [Binary.convert_convert Format.isWider_double_single]

/-- **A relevance is not read back** if its number is not finite: in place of a number stands
null. -/
theorem decode_encode_of_not_finite (h : v.value.isFinite = false) :
    decode (.ofJson v.encode) = .error .mismatched := by
  cases v with
  | score x =>
    have hx : x.isFinite = false := h
    rw [encode, ofNumber, hx]
    rfl
  | distance x =>
    have hx : x.isFinite = false := h
    rw [encode, ofNumber, hx]
    rfl

theorem nullable_decode_encode (v : Relevance) :
    Decoder.nullable decode (.ofJson v.encode) = (decode (.ofJson v.encode)).map some := by
  cases v <;> rfl

end Relevance

/-! ## Records -/

namespace RankedRecord

variable {r : RankedRecord}

/-- The members of the JSON form of a record. -/
def members (r : RankedRecord) : List (String × Json) :=
  [("brand", .text r.product.brand), ("category", .text r.product.category),
    ("color", .text r.product.color), ("description", .text r.product.description),
    ("name", .text r.product.name),
    ("price", (r.product.price.map fun x => .ofNumber (.double x)).getD .null),
    ("relevance", (r.relevance.map Relevance.encode).getD .null)]

/-- The record without a price that is not finite. -/
def withFinitePrice (r : RankedRecord) : RankedRecord :=
  { r with product := { r.product with price := r.product.price.filter Binary.isFinite } }

/-- The price of a record is read if it is finite, and otherwise it is none. -/
theorem decode_price (price : Option Double) :
    Decoder.double.nullable (.ofJson ((price.map fun x => .ofNumber (.double x)).getD .null)) =
      .ok (price.filter Binary.isFinite) := by
  cases price with
  | none => rfl
  | some x =>
    -- A price that is not finite is written as null, which is read as no price.
    cases hx : x.isFinite with
    | true =>
      rw [Option.filter_some_pos hx]
      simp only [Option.map_some, Option.getD_some, ofNumber, hx]
      rfl
    | false =>
      rw [Option.filter_some_neg (by simp [hx])]
      simp only [Option.map_some, Option.getD_some, ofNumber, hx]
      rfl

/-- The relevance of a record is read if its number is finite. -/
theorem decode_relevance {relevance : Option Relevance}
    (h : ∀ v ∈ relevance, v.value.isFinite = true) :
    Decoder.nullable Relevance.decode (.ofJson ((relevance.map Relevance.encode).getD .null)) =
      .ok relevance := by
  cases relevance with
  | none => rfl
  | some v =>
    show Decoder.nullable Relevance.decode (.ofJson v.encode) = _
    rw [Relevance.nullable_decode_encode, Relevance.decode_encode (h v rfl)]
    rfl

theorem fits_of_mem_members (h : ∀ v ∈ r.relevance, v.value.isFinite = true) {m : String × Json}
    (hm : m ∈ r.members) : Fits spec m := by
  simp only [members, List.mem_cons, List.not_mem_nil, or_false] at hm
  obtain rfl | rfl | rfl | rfl | rfl | rfl | rfl := hm
  · exact ⟨_, rfl, rfl⟩
  · exact ⟨_, rfl, rfl⟩
  · exact ⟨_, rfl, rfl⟩
  · exact ⟨_, rfl, rfl⟩
  · exact ⟨_, rfl, rfl⟩
  · exact ⟨_, rfl, Field.check_of (decode_price _)⟩
  · exact ⟨_, rfl, Field.check_of (decode_relevance h)⟩

/-- The fields of a record are all found if its relevance has a number that is finite. -/
theorem fields_encode (h : ∀ v ∈ r.relevance, v.value.isFinite = true) :
    fields spec (.ofJson r.encode) = .ok (r.members.map fun m => (m.1, .ofJson m.2)) := by
  refine fields_ofJson (fun m hm => fits_of_mem_members h hm) ?_ ?_
  · show ["brand", "category", "color", "description", "name", "price", "relevance"].Nodup
    decide
  · -- No field must be there.
    intro f hs hr
    simp only [spec, List.mem_cons, List.not_mem_nil, or_false] at hs
    obtain rfl | rfl | rfl | rfl | rfl | rfl | rfl := hs <;> cases hr

/-- **What is read of a record**, if its relevance has a number that is finite. -/
theorem decode_encode (h : ∀ v ∈ r.relevance, v.value.isFinite = true) :
    decode (.ofJson r.encode) = .ok r.withFinitePrice := by
  have hp := decode_price r.product.price
  have hv := decode_relevance h
  show (fields spec (.ofJson r.encode) >>= _) = _
  rw [fields_encode h]
  -- The texts are found as they were written, so only the price may have changed.
  simp only [members, List.map_cons, List.map_nil, bind, Except.bind, Fields.defaulted,
    Fields.optional, Table.lookup_cons, String.reduceEq, if_true, if_false, hp, hv]
  rfl

/-- **A record is lost** if the number of its relevance is not finite. -/
theorem decode?_encode_of_not_finite {v : Relevance} (hv : r.relevance = some v)
    (h : v.value.isFinite = false) : decode? decode r.encode = none := by
  have hm : ("relevance", v.encode) ∈ r.members := by
    simp [members, hv]
  have hc : (Field.of "relevance" .defaulted Relevance.decode.nullable).check (.ofJson v.encode) ≠
      .ok () := by
    show ((Decoder.nullable Relevance.decode (.ofJson v.encode)).map fun _ => ()) ≠ _
    rw [Relevance.nullable_decode_encode, Relevance.decode_encode_of_not_finite h]
    intro he
    cases he
  cases hd : decode (.ofJson r.encode) with
  | error e =>
    rw [decode?, hd]
    rfl
  | ok r' =>
    -- The fields were read, so the relevance would be of the kind that is wanted.
    replace hd : fields spec (.ofJson (.object r.members)) >>= _ = .ok r' := hd
    obtain ⟨found, hf, -⟩ := bind_eq_ok_iff.1 hd
    exact absurd (check_of_fields_eq_ok hf hm rfl) hc

/-- **What was read of a record** is the record without a price that is not finite, and its
relevance has a number that is finite. -/
theorem eq_of_decode?_encode {r' : RankedRecord} (h : decode? decode r.encode = some r') :
    r' = r.withFinitePrice ∧ ∀ v ∈ r.relevance, v.value.isFinite = true := by
  have hv : ∀ v ∈ r.relevance, v.value.isFinite = true := by
    intro v hv
    by_contra hn
    rw [decode?_encode_of_not_finite hv (Bool.eq_false_iff.2 hn)] at h
    cases h
  rw [decode?, decode_encode hv] at h
  exact ⟨(Option.some.inj h).symm, hv⟩

/-- A record has its own price if that is finite. -/
theorem withFinitePrice_eq_self_iff :
    r.withFinitePrice = r ↔ ∀ x ∈ r.product.price, x.isFinite = true := by
  obtain ⟨⟨name, brand, color, category, price, description⟩, relevance⟩ := r
  cases price with
  | none => simp [withFinitePrice]
  | some x => simp [withFinitePrice, Option.filter]

/-- **A record is read back** exactly if all its numbers are finite. -/
theorem decode?_encode_eq_some_iff : decode? decode r.encode = some r ↔
    (∀ x ∈ r.product.price, x.isFinite = true) ∧ ∀ v ∈ r.relevance, v.value.isFinite = true := by
  constructor
  · intro h
    obtain ⟨hp, hv⟩ := eq_of_decode?_encode h
    exact ⟨withFinitePrice_eq_self_iff.1 hp.symm, hv⟩
  · rintro ⟨hp, hv⟩
    rw [decode?, decode_encode hv, withFinitePrice_eq_self_iff.2 hp]
    rfl

/-- **A record is lost** exactly if the number of its relevance is not finite. -/
theorem decode?_encode_eq_none_iff : decode? decode r.encode = none ↔
    ∃ v, r.relevance = some v ∧ v.value.isFinite = false := by
  constructor
  · intro h
    by_contra hn
    have hv : ∀ v ∈ r.relevance, v.value.isFinite = true := by
      intro v hv
      by_contra hx
      exact hn ⟨v, hv, Bool.eq_false_iff.2 hx⟩
    rw [decode?, decode_encode hv] at h
    cases h
  · rintro ⟨v, hv, h⟩
    exact decode?_encode_of_not_finite hv h

end RankedRecord

/-! ## Records of an answer -/

namespace Execution

variable {body : Json} {className : String} {execution : Execution} {r : RankedRecord}

/-- **Every record of an answer comes from a row**, which is an object. -/
theorem exists_row_of_mem_records (h : ofBody body className = .ok execution)
    (hr : r ∈ execution.records) : ∃ rows members, Holds body className (.array rows) ∧
      .object members ∈ rows ∧ RankedRecord.ofRow? (.object members) = some r := by
  unfold ofBody at h
  split at h
  · obtain rfl := Except.ok.inj h
    cases hr
  · obtain rfl := Except.ok.inj h
    cases hr
  · next rows hrows =>
    split at h
    · next records hm =>
      obtain rfl := Except.ok.inj h
      obtain ⟨row, hmem, hrow⟩ := exists_partner (mapM_eq_some_iff.1 hm).flip hr
      cases row with
      | object members => exact ⟨rows, members, rows?_eq_some_iff.1 hrows, hmem, hrow⟩
      | null | bool | number | text | array => cases hrow
    · cases h
  · cases h

/-- **A row whose numbers are finite.** -/
structure IsFiniteRow (members : List (String × Json)) : Prop where
  /-- Its price is finite, if it has one. -/
  price : ∀ x, (members.lookup "price").bind numeric? = some x → x.isFinite = true
  /-- So is its score, or else its distance, once that is narrowed to 32 bits. -/
  relevance : ∀ v, rowRelevance? members = some v → v.value.isFinite = true

/-- **What becomes of a record that comes from a row.** -/
structure IsReadBack (members : List (String × Json)) (r : RankedRecord) : Prop where
  /-- It is read back as it was if the numbers of the row are finite. -/
  same : decode? RankedRecord.decode r.encode = some r ↔ IsFiniteRow members
  /-- It is lost if the number of its relevance is not finite. -/
  lost : decode? RankedRecord.decode r.encode = none ↔
    ∃ v, rowRelevance? members = some v ∧ v.value.isFinite = false
  /-- Otherwise only its price is lost, if that is not finite. -/
  changed : ∀ r', decode? RankedRecord.decode r.encode = some r' →
    r' = { r with product := { r.product with price := r.product.price.filter Binary.isFinite } }

/-- **Which records of an answer are read back** is seen from the rows that they come from. -/
theorem isReadBack_of_mem_records (h : ofBody body className = .ok execution)
    (hr : r ∈ execution.records) :
    ∃ rows members, Holds body className (.array rows) ∧ .object members ∈ rows ∧
      RankedRecord.ofRow? (.object members) = some r ∧ IsReadBack members r := by
  obtain ⟨rows, members, hrows, hm, hrow⟩ := exists_row_of_mem_records h hr
  refine ⟨rows, members, hrows, hm, hrow, ?_⟩
  obtain rfl := Option.some.inj hrow
  -- The price and the relevance of the record are those of the row.
  refine ⟨?_, RankedRecord.decode?_encode_eq_none_iff, ?_⟩
  · rw [RankedRecord.decode?_encode_eq_some_iff]
    exact ⟨fun ⟨hp, hv⟩ => ⟨hp, hv⟩, fun ⟨hp, hv⟩ => ⟨hp, hv⟩⟩
  · intro r' hd
    exact (RankedRecord.eq_of_decode?_encode hd).1

/-- A score may be finite and not so once it is narrowed. -/
theorem isReadBack_of_large_score :
    let members : List (String × Json) :=
      [("_additional", .object [("score", .text " 1e39 ")]), ("name", .text "lamp"),
        ("price", .text "12.5")]
    let body : Json := .object
      [("data", .object [("Get", .object [("Product", .array [.object members])])])]
    let r : RankedRecord :=
      { product := { name := "lamp", price := some (Decimal.toBinary .double ⟨false, 125, -1⟩) }
        relevance := some (.score (.infinite false)) }
    let execution : Execution := { records := [r], rawErrors := [] }
    ofBody body "Product" = .ok execution ∧ r ∈ execution.records ∧
      ∃ rows members, Holds body "Product" (.array rows) ∧ .object members ∈ rows ∧
        RankedRecord.ofRow? (.object members) = some r ∧ IsReadBack members r := by
  intro members body r execution
  have h : ofBody body "Product" = .ok execution := by decide +kernel
  have hr : r ∈ execution.records := List.mem_cons_self
  exact ⟨h, hr, isReadBack_of_mem_records h hr⟩

/-- **A record that is served need not be read back**: an infinite score is null in its JSON form,
and a score that is null is none. -/
theorem not_read_back_of_infinite_score :
    let body : Json := .object [("data", .object [("Get", .object [("Product", .array [.object
      [("_additional", .object [("score", .text "inf")]), ("name", .text "n")]])])])]
    let r : RankedRecord :=
      { product := { name := "n" }, relevance := some (.score (.infinite false)) }
    ofBody body "Product" = .ok { records := [r], rawErrors := [] } ∧
      decode? RankedRecord.decode r.encode = none ∧
      decode? RankedRecord.decode r.encode ≠ some r := by
  decide +kernel

end Execution

end Storefront
