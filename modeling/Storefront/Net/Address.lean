import Storefront.Text.Digit
import Storefront.Text.Split

/-!
# Addresses

The written forms of network addresses: four decimal numbers, eight hexadecimal groups of which one
run of zeros may be left out, and either of them with a port.

## Main definitions

* `ipv4?`, `ipv6?`: the numbers of an address
* `Socket`, `Socket.ofText?`: an address with a port, and reading it

## Main results

* `ipv6?_length`: an address has eight groups
-/

namespace Storefront.Net

open Text

/-! ## Four numbers -/

/-- A number below 256 in decimal without needless zeros. -/
def octet? (s : List Char) : Option Nat :=
  if s.length > 1 ∧ s.head? = some '0' then none
  else if s.length > 3 then none
  else (ofDigits? 10 s).filter fun n => n < 256

/-- **The four numbers of an address.** -/
def ipv4? (s : List Char) : Option (List Nat) :=
  let parts := split '.' s
  if parts.length = 4 then parts.mapM octet? else none

/-! ## Eight groups -/

/-- A group: up to four hexadecimal digits. -/
def group? (s : List Char) : Option (List Nat) :=
  if s.length ≤ 4 then (ofDigits? 16 s).map fun n => [n] else none

/-- The two groups that the numbers of an address stand for. -/
def embedded? (s : List Char) : Option (List Nat) :=
  match ipv4? s with
  | some [a, b, c, d] => some [a * 256 + b, c * 256 + d]
  | _ => none

/-- Groups between colons. The last one may be an address of four numbers if `last` allows it. -/
def groups? (last : Bool) : List (List Char) → Option (List Nat)
  | [] => some []
  | [s] => group? s <|> (if last then embedded? s else none)
  | s :: rest => do return (← group? s) ++ (← groups? last rest)

/-- The groups of one side of the gap, which may be empty. -/
def side? (last : Bool) (s : List Char) : Option (List Nat) :=
  if s.isEmpty then some [] else groups? last (split ':' s)

/-- The texts before and after the first two colons in a row. -/
def splitGap? : List Char → Option (List Char × List Char)
  | ':' :: ':' :: rest => some ([], rest)
  | c :: rest => (splitGap? rest).map fun (before, after) => (c :: before, after)
  | [] => none

/-- **The eight groups of an address.** Two colons in a row stand for one run of zero groups. -/
def ipv6? (s : List Char) : Option (List Nat) :=
  match splitGap? s with
  | none => (groups? true (split ':' s)).filter fun gs => gs.length = 8
  | some (before, after) => do
    -- Four decimal numbers may only stand at the end.
    let before ← side? false before
    let after ← side? true after
    if before.length + after.length < 8 then
      some (before ++ List.replicate (8 - before.length - after.length) 0 ++ after)
    else none

theorem ipv6?_length {s : List Char} {gs : List Nat} (h : ipv6? s = some gs) : gs.length = 8 := by
  unfold ipv6? at h
  split at h
  · simpa using (Option.filter_eq_some_iff.1 h).2
  · simp only [Option.bind_eq_bind, Option.bind_eq_some_iff] at h
    obtain ⟨before, -, after, -, h⟩ := h
    split at h
    · obtain rfl := Option.some.inj h
      simp only [List.length_append, List.length_replicate]
      omega
    · simp at h

example : ipv6? "2001:db8::1".toList = some [0x2001, 0xdb8, 0, 0, 0, 0, 0, 1] := by decide +kernel

example : ipv6? "1:2:3:4:5:6:7::8".toList = none := by decide +kernel

/-! ## With a port -/

/-- An address with a port. -/
inductive Socket where
  /-- Four numbers. -/
  | v4 (address : List Nat) (port : Nat)
  /-- Eight groups, and the number of a scope. -/
  | v6 (address : List Nat) (scope : Nat) (port : Nat)
  deriving DecidableEq, Repr

/-- A number of that many bits in decimal. -/
def below? (bits : Nat) (s : List Char) : Option Nat :=
  (ofDigits? 10 s).filter fun n => n < Nat.pow 2 bits

/-- An address of eight groups with the number of a scope. -/
def scoped? (s : List Char) : Option (List Nat × Nat) :=
  match splitFirst? '%' s with
  | some (address, scope) => do return (← ipv6? address, ← below? 32 scope)
  | none => (ipv6? s).map fun a => (a, 0)

/-- **Reading an address with a port**; eight groups stand in brackets. -/
def Socket.ofText? (s : List Char) : Option Socket := do
  let (host, port) ← splitLast? ':' s
  let port ← below? 16 port
  match host with
  | '[' :: inner =>
    match inner.getLast? with
    | some ']' => do
      let (address, scope) ← scoped? inner.dropLast
      return .v6 address scope port
    | _ => none
  | _ => return .v4 (← ipv4? host) port

example : Socket.ofText? "127.0.0.1:8080".toList = some (.v4 [127, 0, 0, 1] 8080) := by
  decide +kernel

example : Socket.ofText? "[::1%7]:080".toList = some (.v6 [0, 0, 0, 0, 0, 0, 0, 1] 7 80) := by
  decide +kernel

end Storefront.Net
