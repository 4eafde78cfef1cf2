import Mathlib.Data.List.Nodup
import Storefront.Json.Decode
import Storefront.Table

/-!
# Readings that vary in one field

Two records that agree but for the value of one field are decoded alike, as long as both values are
of the kind that is wanted: either the same problem is met in both, or the same readings are found
under all other names. The same holds if the field is missing in one of them and may be missing.

## Main definitions

* `Alike`: two results that are the same problem, or values that go together
* `Vary`: two readings of a record with other readings of one field
* `AgreeBut`: fields that were found alike under all names but one

## Main results

* `Alike.bind`: what goes on alike ends alike
* `alike_addMember`: the next member of a record is found alike
* `alike_fields`: records that vary in one field are decoded alike
-/

namespace Storefront

/-! ## Results that go together -/

/-- **Two results that are the same problem, or values that go together.** -/
inductive Alike {ε α β : Type} (R : α → β → Prop) : Except ε α → Except ε β → Prop
  | error (e : ε) : Alike R (.error e) (.error e)
  | ok {a : α} {b : β} (h : R a b) : Alike R (.ok a) (.ok b)

namespace Alike

variable {ε α β γ δ : Type} {R : α → β → Prop} {S : γ → δ → Prop} {x : Except ε α} {y : Except ε β}

theorem bind {f : α → Except ε γ} {g : β → Except ε δ} (h : Alike R x y)
    (hfg : ∀ a b, R a b → Alike S (f a) (g b)) : Alike S (x >>= f) (y >>= g) := by
  cases h with
  | error e => exact .error e
  | ok h => exact hfg _ _ h

/-- What goes on alike from one and the same result ends alike. -/
theorem bind_self {f : α → Except ε γ} {g : α → Except ε δ} (x : Except ε α)
    (hfg : ∀ a, Alike S (f a) (g a)) : Alike S (x >>= f) (x >>= g) := by
  cases x with
  | error e => exact .error e
  | ok a => exact hfg a

theorem map {f : α → γ} {g : β → δ} (h : Alike R x y) (hfg : ∀ a b, R a b → S (f a) (g b)) :
    Alike S (x.map f) (y.map g) := by
  cases h with
  | error e => exact .error e
  | ok h => exact .ok (hfg _ _ h)

theorem toOption_map {f : α → γ} {g : β → γ} (h : Alike R x y)
    (hfg : ∀ a b, R a b → g b = f a) : y.toOption.map g = x.toOption.map f := by
  cases h with
  | error e => rfl
  | ok h => exact congrArg some (hfg _ _ h)

end Alike

namespace Json

variable {name other : String} {place : Nat} {old new : Option Reading} {r r' : Reading}
  {found found' : Fields} {spec : List Field} {α : Type} {d : Decoder α}

/-! ## Fields that were found -/

/-- **Under one name two different readings were found**, and under all others the same. -/
structure AgreeBut (name : String) (old new : Option Reading) (found found' : Fields) : Prop where
  old : found.lookup name = old
  new : found'.lookup name = new
  others : ∀ other, other ≠ name → found'.lookup other = found.lookup other

namespace AgreeBut

theorem required (h : AgreeBut name old new found found') (hne : other ≠ name) :
    found'.required other d = found.required other d := by
  rw [Fields.required, Fields.required, h.others other hne]

theorem optional (h : AgreeBut name old new found found') (hne : other ≠ name) :
    found'.optional other d = found.optional other d := by
  rw [Fields.optional, Fields.optional, h.others other hne]

theorem defaulted (h : AgreeBut name old new found found') (hne : other ≠ name) (value : α) :
    found'.defaulted other d value = found.defaulted other d value := by
  rw [Fields.defaulted, Fields.defaulted, h.others other hne]

theorem required_old {a : Reading} (h : AgreeBut name (some a) new found found') :
    found.required name d = d a := by
  rw [Fields.required, h.old]

theorem required_new {b : Reading} (h : AgreeBut name old (some b) found found') :
    found'.required name d = d b := by
  rw [Fields.required, h.new]

theorem optional_old (h : AgreeBut name none new found found') :
    found.optional name d = .ok none := by
  rw [Fields.optional, h.old]

theorem optional_new {b : Reading} (h : AgreeBut name old (some b) found found') :
    found'.optional name d = d.nullable b := by
  rw [Fields.optional, h.new]

theorem defaulted_old {a : Reading} (h : AgreeBut name (some a) new found found') (value : α) :
    found.defaulted name d value = d a := by
  rw [Fields.defaulted, h.old]

theorem defaulted_new {b : Reading} (h : AgreeBut name old (some b) found found') (value : α) :
    found'.defaulted name d value = d b := by
  rw [Fields.defaulted, h.new]

theorem append (h : AgreeBut name old new found found') {k : String} (hne : k ≠ name)
    (x : Reading) : AgreeBut name old new (found ++ [(k, x)]) (found' ++ [(k, x)]) := by
  have hk : List.lookup name [(k, x)] = none := by simp [Table.lookup_cons, Ne.symm hne]
  constructor
  · rw [List.lookup_append, h.old, hk, Option.or_none]
  · rw [List.lookup_append, h.new, hk, Option.or_none]
  · intro other ho
    rw [List.lookup_append, List.lookup_append, h.others other ho]

end AgreeBut

/-- **Two readings of a record with other readings of one field**, of which one may be missing in an
object. The place of a field counts in a list. -/
inductive Vary (name : String) (place : Nat) :
    Option Reading → Option Reading → Reading → Reading → Prop
  | member (before after : List (Option String × Reading)) (a b : Reading) :
    Vary name place (some a) (some b) (.object (before ++ (some name, a) :: after))
      (.object (before ++ (some name, b) :: after))
  | added (before after : List (Option String × Reading)) (b : Reading)
    (h : ∀ m ∈ before ++ after, m.1 ≠ some name) :
    Vary name place none (some b) (.object (before ++ after))
      (.object (before ++ (some name, b) :: after))
  | item (before after : List Reading) (ending : Ending) (a b : Reading)
    (h : before.length = place) :
    Vary name place (some a) (some b) (.array (before ++ a :: after) ending)
      (.array (before ++ b :: after) ending)

/-! ## Members -/

/-- **The next member of a record is found alike**, if it is no other one of the name. -/
theorem alike_addMember (h : AgreeBut name old new found found') {m : Option String × Reading}
    (hm : m.1 = some name → old.isSome ∧ new.isSome) :
    Alike (AgreeBut name old new) (addMember spec found m) (addMember spec found' m) := by
  obtain ⟨_ | k, x⟩ := m
  · exact .error _
  unfold addMember
  cases hf : spec.find? fun f => f.name == k with
  | none =>
    simp only [hf]
    split
    · exact .ok h
    · exact .error _
  | some f =>
    simp only [hf]
    by_cases hk : k = name
    · -- the name is there already in both
      subst hk
      obtain ⟨hold, hnew⟩ := hm rfl
      rw [if_pos (by rwa [h.old]), if_pos (by rwa [h.new])]
      exact .error _
    · rw [h.others k hk]
      split
      · exact .error _
      · cases f.check x with
        | error e => exact .error e
        | ok _ => exact .ok (h.append hk x)

theorem alike_foldlM_addMember {members : List (Option String × Reading)}
    (h : AgreeBut name old new found found')
    (hm : ∀ m ∈ members, m.1 = some name → old.isSome ∧ new.isSome) :
    Alike (AgreeBut name old new) (members.foldlM (addMember spec) found)
      (members.foldlM (addMember spec) found') := by
  induction members generalizing found found' with
  | nil => exact .ok h
  | cons m members ih =>
    rw [List.foldlM_cons, List.foldlM_cons]
    apply (alike_addMember h (hm m List.mem_cons_self)).bind
    intro a b hab
    exact ih hab fun m' hm' => hm m' (List.mem_cons_of_mem _ hm')

/-! ## Records -/

/-- **A record wants a field in a place**, and both readings of it are of the kind that is wanted,
or neither is. A field that is missing in one of the records may be missing. -/
structure Wants (spec : List Field) (name : String) (place : Nat) (old new : Option Reading) :
    Prop where
  nodup : (spec.map Field.name).Nodup
  field : ∃ f, spec[place]? = some f ∧ f.name = name ∧
    (∀ a ∈ old, ∀ b ∈ new, Alike (fun _ _ => True) (f.check a) (f.check b)) ∧
    (old = none → f.presence ≠ .required ∧ ∀ b ∈ new, f.check b = .ok ())

theorem Wants.replaced {f : Field} {a b : Reading} (hn : (spec.map Field.name).Nodup)
    (hf : spec[place]? = some f) (hname : f.name = name)
    (hc : Alike (fun _ _ => True) (f.check a) (f.check b)) :
    Wants spec name place (some a) (some b) := by
  refine ⟨hn, f, hf, hname, ?_, by simp⟩
  rintro _ ⟨⟩ _ ⟨⟩
  exact hc

theorem Wants.added {f : Field} {b : Reading} (hn : (spec.map Field.name).Nodup)
    (hf : spec[place]? = some f) (hname : f.name = name) (hp : f.presence ≠ .required)
    (hc : f.check b = .ok ()) : Wants spec name place none (some b) := by
  refine ⟨hn, f, hf, hname, by simp, fun _ => ⟨hp, ?_⟩⟩
  rintro _ ⟨⟩
  exact hc

/-- Only one field has the name. -/
theorem eq_of_name_eq (hn : (spec.map Field.name).Nodup) {f g : Field} (hf : f ∈ spec)
    (hg : g ∈ spec) (h : f.name = g.name) : f = g :=
  List.inj_on_of_nodup_map hn hf hg h

theorem find?_name (hn : (spec.map Field.name).Nodup) {f : Field} (hf : f ∈ spec) :
    spec.find? (fun g => g.name == f.name) = some f := by
  cases h : spec.find? fun g => g.name == f.name with
  | none => simpa using List.find?_eq_none.1 h f hf
  | some g =>
    have hg := List.find?_some h
    rw [eq_of_name_eq hn (List.mem_of_find?_eq_some h) hf (eq_of_beq hg)]

/-- Objects in which the same names are found lack the same fields. -/
theorem alike_fields_object {members members' : List (Option String × Reading)}
    (hr : ∀ f ∈ spec, f.name = name → f.presence = .required → old.isSome ∧ new.isSome)
    (h : Alike (AgreeBut name old new) (members.foldlM (addMember spec) [])
      (members'.foldlM (addMember spec) [])) :
    Alike (AgreeBut name old new) (fields spec (.object members))
      (fields spec (.object members')) := by
  refine h.bind fun found found' hf => ?_
  -- What must be there is missing in both or in neither.
  have hany : (spec.any fun f => f.presence == .required && (found'.lookup f.name).isNone) =
      spec.any fun f => f.presence == .required && (found.lookup f.name).isNone := by
    rw [Bool.eq_iff_iff, List.any_eq_true, List.any_eq_true]
    apply exists_congr
    intro f
    apply and_congr_right
    intro hm
    by_cases hname : f.name = name
    · cases hp : f.presence == .required with
      | false => rfl
      | true =>
        obtain ⟨hold, hnew⟩ := hr f hm hname (eq_of_beq hp)
        rw [hname, hf.old, hf.new]
        simp [Option.isSome_iff_ne_none.1 hold, Option.isSome_iff_ne_none.1 hnew]
    · rw [hf.others f.name hname]
  rw [hany]
  split
  · exact .error _
  · exact .ok hf

theorem lookup_addMember {m : Option String × Reading} (hm : m.1 ≠ some name)
    (h : addMember spec found m = .ok found') : found'.lookup name = found.lookup name := by
  obtain ⟨_ | k, x⟩ := m
  · cases h
  -- What may be added stands under another name.
  have hk : List.lookup name [(k, x)] = none := by
    have hne : name ≠ k := fun he => hm (by rw [he])
    simp [Table.lookup_cons, hne]
  unfold addMember at h
  cases hf : spec.find? fun f => f.name == k with
  | none =>
    simp only [hf] at h
    split at h
    · cases h
      rfl
    · cases h
  | some f =>
    simp only [hf] at h
    split at h
    · cases h
    · cases hc : f.check x with
      | error e =>
        rw [hc] at h
        cases h
      | ok _ =>
        rw [hc] at h
        cases h
        rw [List.lookup_append, hk, Option.or_none]

theorem lookup_foldlM_addMember {members : List (Option String × Reading)}
    (hm : ∀ m ∈ members, m.1 ≠ some name) (h : members.foldlM (addMember spec) found = .ok found') :
    found'.lookup name = found.lookup name := by
  induction members generalizing found with
  | nil =>
    cases h
    rfl
  | cons m members ih =>
    rw [List.foldlM_cons] at h
    cases hstep : addMember spec found m with
    | error e =>
      rw [hstep] at h
      cases h
    | ok next =>
      rw [hstep] at h
      rw [ih (fun m' hm' => hm m' (List.mem_cons_of_mem _ hm')) h,
        lookup_addMember (hm m List.mem_cons_self) hstep]

/-- Two readings of a field that are both wanted are found in the same way. -/
theorem alike_addMember_field {f : Field} (hf : spec.find? (fun g => g.name == f.name) = some f)
    {a b : Reading} (hc : Alike (fun _ _ => True) (f.check a) (f.check b)) (found : Fields) :
    Alike (AgreeBut f.name (some a) (some b)) (addMember spec found (some f.name, a))
      (addMember spec found (some f.name, b)) := by
  simp only [addMember, hf]
  cases hl : found.lookup f.name with
  | some x => exact .error _
  | none =>
    apply hc.map
    rintro _ _ -
    constructor
    · simp [List.lookup_append, hl]
    · simp [List.lookup_append, hl]
    · intro other ho
      simp [List.lookup_append, Table.lookup_cons, ho]

/-- In lists the fields are found by their places. -/
theorem alike_byPosition {f : Field} (hn : (spec.map Field.name).Nodup) {before : List Reading}
    (hplace : spec[before.length]? = some f) {a b : Reading}
    (hc : Alike (fun _ _ => True) (f.check a) (f.check b)) (after : List Reading)
    (ending : Ending) :
    Alike (AgreeBut f.name (some a) (some b)) (byPosition spec (before ++ a :: after) ending)
      (byPosition spec (before ++ b :: after) ending) := by
  induction before generalizing spec with
  | nil =>
    cases spec with
    | nil => cases hplace
    | cons g spec =>
      obtain rfl : g = f := Option.some.inj hplace
      refine hc.bind fun _ _ _ => .bind_self _ fun found => .ok ⟨?_, ?_, ?_⟩
      · simp
      · simp
      · intro other ho
        simp [Table.lookup_cons, ho]
  | cons x before ih =>
    cases spec with
    | nil => cases hplace
    | cons g spec =>
      obtain ⟨hg, hn⟩ := List.nodup_cons.1 hn
      -- the field in front has another name
      have hne : f.name ≠ g.name := by
        intro he
        apply hg
        rw [← he]
        exact List.mem_map_of_mem (List.mem_of_getElem? hplace)
      refine .bind_self _ fun _ => (ih hn hplace).bind fun found found' h => .ok ⟨?_, ?_, ?_⟩
      · simpa [Table.lookup_cons, hne] using h.old
      · simpa [Table.lookup_cons, hne] using h.new
      · intro other ho
        simp [Table.lookup_cons, h.others other ho]

/-- **Records that vary in one field are decoded alike.** -/
theorem alike_fields (hw : Wants spec name place old new) (h : Vary name place old new r r') :
    Alike (AgreeBut name old new) (fields spec r) (fields spec r') := by
  obtain ⟨hn, f, hplace, rfl, hcheck, hadded⟩ := hw
  have hf : f ∈ spec := List.mem_of_getElem? hplace
  have hfind := find?_name hn hf
  cases h with
  | member before after a b =>
    apply alike_fields_object fun _ _ _ _ => ⟨rfl, rfl⟩
    rw [List.foldlM_append, List.foldlM_append]
    refine .bind_self _ fun found => ?_
    rw [List.foldlM_cons, List.foldlM_cons]
    refine (alike_addMember_field hfind (hcheck a rfl b rfl) found).bind fun _ _ hag => ?_
    exact alike_foldlM_addMember hag fun _ _ _ => ⟨rfl, rfl⟩
  | added before after b hno =>
    obtain ⟨hpresence, hb⟩ := hadded rfl
    apply alike_fields_object
    · intro g hg hname hrequired
      rw [eq_of_name_eq hn hg hf hname] at hrequired
      exact absurd hrequired hpresence
    rw [List.foldlM_append, List.foldlM_append]
    cases hbefore : before.foldlM (addMember spec) [] with
    | error e => exact .error e
    | ok found =>
      -- the name was not found before, and is found now
      have hnone : found.lookup f.name = none :=
        lookup_foldlM_addMember (fun m hm => hno m (List.mem_append_left _ hm)) hbefore
      have hadd : addMember spec found (some f.name, b) = .ok (found ++ [(f.name, b)]) := by
        simp only [addMember, hfind, hnone, hb b rfl]
        rfl
      show Alike _ (after.foldlM (addMember spec) found)
        (addMember spec found (some f.name, b) >>= after.foldlM (addMember spec))
      rw [hadd]
      apply alike_foldlM_addMember
      · constructor
        · exact hnone
        · simp [List.lookup_append, hnone]
        · intro other ho
          simp [List.lookup_append, Table.lookup_cons, ho]
      · intro m hm he
        exact absurd he (hno m (List.mem_append_right _ hm))
  | item before after ending a b hlen =>
    subst hlen
    exact alike_byPosition hn hplace (hcheck a rfl b rfl) after ending

end Json

end Storefront
