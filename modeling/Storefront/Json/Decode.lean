import Storefront.Json.Reading

/-!
# Decoding records from JSON

A record is decoded from an object by name or from an array by position, in the order of the text,
so the first problem decides the outcome: a fault of form, or a value of the wrong kind.

## Main definitions

* `Fault`: the two kinds of problem
* `Decoder` and its namespace: decoders of values
* `Field`, `Presence`: what a record wants under a name
* `fields`: the readings of the fields of a record
* `Fields.required`, `Fields.optional`, `Fields.defaulted`: the decoded fields

## Main results

* `Decoder.unsigned_integer`: a whole number is decoded exactly if it fits
-/

namespace Storefront.Json

/-- A problem of a text that should hold a value of some kind. -/
inductive Fault where
  /-- The text is no JSON. -/
  | malformed
  /-- The text is JSON so far, and a value is not of the kind that is wanted. -/
  | mismatched
  deriving DecidableEq, Repr

/-- The problem of a reading in a place that wants another kind of value. -/
def Reading.fault : Reading → Fault
  | .number none | .text none | .broken => .malformed
  | _ => .mismatched

/-- A way to decode readings. -/
abbrev Decoder (α : Type) := Reading → Except Fault α

variable {α : Type}

/-! ## Values -/

namespace Decoder

/-- Any text. -/
def text : Decoder String
  | .text (some s) => .ok s
  | r => .error r.fault

/-- A whole number of that many bits without a sign. -/
def unsigned (bits : Nat) : Decoder Nat
  | .number (some (.integer n)) =>
    if 0 ≤ n ∧ n.toNat < Nat.pow 2 bits then .ok n.toNat else .error .mismatched
  | r => .error r.fault

/-- Any number, as the 64-bit value nearest to it. -/
def double : Decoder Double
  | .number (some n) => .ok n.toDouble
  | r => .error r.fault

/-- Any number, as a 32-bit value: the one nearest to a whole number, or to the 64-bit value of any
other number. -/
def single : Decoder Single
  | .number (some (.integer n)) => .ok (Binary.ofInt .single n)
  | r => (double r).map (Binary.convert .single)

/-- A list of values of one kind. -/
def list (d : Decoder α) : Decoder (List α)
  | .array items ending => do
    let values ← items.mapM d
    if ending = .brokenOff then .error .malformed else .ok values
  | r => .error r.fault

/-- A value or null. -/
def nullable (d : Decoder α) : Decoder (Option α)
  | .null => .ok none
  | r => (d r).map some

/-- An object with members of any kind. -/
def table : Decoder (Table Json)
  | .object members =>
    match (Reading.object members).toJson? with
    | some (.object entries) => .ok entries
    | _ => .error .malformed
  | .openObject .. => .error .malformed
  | r => .error r.fault

/-- One of several names, as a text. -/
def named (ofName? : String → Option α) : Decoder α
  | .text (some s) =>
    match ofName? s with
    | some a => .ok a
    | none => .error .mismatched
  | r => .error r.fault

/-- A member that names a choice; `last` states that the object ends after it. -/
def chosen (ofName? : String → Option α) (key : Option String) (r : Reading) (last : Bool) :
    Except Fault α :=
  match key with
  | none => .error .malformed
  | some k =>
    match ofName? k, r with
    | none, _ => .error .mismatched
    | some a, .null => if last then .ok a else .error .malformed
    | some _, r => .error r.fault

/-- **One of several names**: the name as a text, or an object whose only member has that name and
is null. No other value can begin one. -/
def choice (ofName? : String → Option α) : Decoder α
  | .text s => named ofName? (.text s)
  | .object [] => .error .malformed
  | .object ((k, r) :: rest) => chosen ofName? k r rest.isEmpty
  | .openObject ((k, r) :: _) _ => chosen ofName? k r false
  | _ => .error .malformed

/-- A whole number is decoded exactly if it fits. -/
theorem unsigned_integer {bits : Nat} {n : Int} {k : Nat} :
    unsigned bits (.number (some (.integer n))) = .ok k ↔ n = k ∧ k < Nat.pow 2 bits := by
  by_cases h : 0 ≤ n ∧ n.toNat < Nat.pow 2 bits
  · simp only [unsigned, h, and_self, if_true, Except.ok.injEq]
    omega
  · simp only [unsigned, h, if_false, reduceCtorEq, false_iff]
    omega

@[simp] theorem text_text (s : String) : text (.text (some s)) = .ok s := rfl

end Decoder

/-! ## Records -/

/-- Whether a record may lack a field. -/
inductive Presence where
  /-- It may not. -/
  | required
  /-- It may, except before the end of an array. -/
  | optional
  /-- It may. -/
  | defaulted
  deriving DecidableEq, Repr

/-- What a record wants under a name. -/
structure Field where
  /-- The name of the field. -/
  name : String
  /-- Whether the field may be missing. -/
  presence : Presence
  /-- Whether a value is of the kind that is wanted. -/
  check : Reading → Except Fault Unit

/-- A field whose values the decoder decodes. -/
def Field.of (name : String) (presence : Presence) (d : Decoder α) : Field where
  name
  presence
  check r := (d r).map fun _ => ()

/-- The readings of the fields of a record, by name. -/
abbrev Fields := List (String × Reading)

/-- The next member of a record: unknown names only need a value that is complete, and a name that
was there already is a problem of content. -/
def addMember (spec : List Field) (found : Fields) : Option String × Reading → Except Fault Fields
  | (none, _) => .error .malformed
  | (some k, r) =>
    match spec.find? fun f => f.name == k with
    | none => if r.isComplete then .ok found else .error .malformed
    | some f =>
      if (found.lookup k).isSome then .error .mismatched
      else (f.check r).map fun _ => found ++ [(k, r)]

/-- Fields by position. An array that ends too soon lacks its fields; one that goes on is no longer
read, which is a problem of form unless its end is loose. -/
def byPosition : List Field → List Reading → Ending → Except Fault Fields
  | [], [], .closed => .ok []
  | [], _, .loose => .ok []
  | [], _, _ => .error .malformed
  | f :: spec, r :: items, ending => do
    f.check r
    return (f.name, r) :: (← byPosition spec items ending)
  | _ :: _, [], .brokenOff => .error .malformed
  | f :: spec, [], ending =>
    if f.presence = .defaulted then byPosition spec [] ending else .error .mismatched

/-- **The readings of the fields of a record**, given as an object or as an array. -/
def fields (spec : List Field) : Reading → Except Fault Fields
  | .object members => do
    let found ← members.foldlM (addMember spec) []
    if spec.any fun f => f.presence == .required && (found.lookup f.name).isNone then
      .error .mismatched
    else .ok found
  | .openObject members _ => do
    let _ ← members.foldlM (addMember spec) []
    .error .malformed
  | .array items ending => byPosition spec items ending
  | r => .error r.fault

/-- A field that is there. -/
def Fields.required (found : Fields) (name : String) (d : Decoder α) : Except Fault α :=
  match found.lookup name with
  | some r => d r
  | none => .error .mismatched

/-- A field that may be missing or null. -/
def Fields.optional (found : Fields) (name : String) (d : Decoder α) : Except Fault (Option α) :=
  match found.lookup name with
  | some r => Decoder.nullable d r
  | none => .ok none

/-- A field with a value where it is missing. -/
def Fields.defaulted (found : Fields) (name : String) (d : Decoder α) (value : α) :
    Except Fault α :=
  match found.lookup name with
  | some r => d r
  | none => .ok value

/-- The value that a decoder gives for a JSON value. -/
def decode? (d : Decoder α) (v : Json) : Option α := (d (.ofJson v)).toOption

end Storefront.Json
