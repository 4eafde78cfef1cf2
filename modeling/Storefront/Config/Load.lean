import Storefront.Config.Normal
import Storefront.Toml.Reading

/-!
# Loading configurations

A configuration file is read, brought into normal form, and checked.

## Main definitions

* `Config.LoadError`: why there is no configuration
* `Config.ofToml?`, `Config.load`: the configuration that a text says, and the one of a file

## Main results

* `load_eq_ok_iff`: which configurations are loaded
-/

namespace Storefront.Config

/-- The reason why a file gives no configuration. -/
inductive LoadError where
  /-- The file cannot be read. -/
  | unreadable
  /-- The text is no configuration. -/
  | unparsable
  /-- The configuration cannot be used. -/
  | invalid (fault : Fault)
  deriving DecidableEq, Repr

/-- **The configuration that a text says**, as it stands. -/
def ofToml? (text : String) : Option Config := do
  (decode (← Toml.read? text).reading).toOption

/-- **The configuration of a file**, given its text if it can be read: in normal form, and without a
fault. -/
def load (text : Option String) : Except LoadError Config :=
  match text with
  | none => .error .unreadable
  | some text =>
    match ofToml? text with
    | none => .error .unparsable
    | some c =>
      match c.normalize.fault? with
      | some fault => .error (.invalid fault)
      | none => .ok c.normalize

/-- A configuration is loaded if it is the normal form of what the text says, and has no fault. -/
theorem load_eq_ok_iff {text : Option String} {c : Config} :
    load text = .ok c ↔ ∃ s c', text = some s ∧ ofToml? s = some c' ∧ c = c'.normalize ∧
      c.fault? = none := by
  cases text with
  | none => simp [load]
  | some s =>
    cases hs : ofToml? s with
    | none => simp [load, hs]
    | some c' =>
      cases hf : c'.normalize.fault? with
      | some fault =>
        simp only [load, hs, hf, reduceCtorEq, Option.some.injEq, false_iff]
        rintro ⟨_, _, rfl, hc, rfl, h⟩
        rw [hs] at hc
        obtain rfl := Option.some.inj hc
        rw [hf] at h
        simp at h
      | none =>
        simp only [load, hs, hf, Except.ok.injEq, Option.some.injEq]
        constructor
        · rintro rfl
          exact ⟨s, c', rfl, hs, rfl, hf⟩
        · rintro ⟨_, _, rfl, hc, rfl, -⟩
          rw [hs] at hc
          rw [Option.some.inj hc]

end Storefront.Config
