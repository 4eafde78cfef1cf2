/-!
# The arguments of the server

The server takes the path of its configuration file, as `-c FILE` or `--config FILE`, and can be
asked for help or its version. A value may follow its option as the next argument or, behind an
equals sign or not, in the same one; what begins with a hyphen is an option, two hyphens end the
options, and a lone hyphen is a value.

## Main definitions

* `Arguments`, `Arguments.Stop`: what the arguments say, and why they are not taken
* `Arguments.State`, `State.step`: the arguments so far, and one more
* `Arguments.parse`: reading the arguments
-/

namespace Storefront

/-- What the arguments say. -/
structure Arguments where
  /-- The path of the configuration file. -/
  config : String
  deriving DecidableEq, Repr

namespace Arguments

/-- The reason why reading the arguments stops. -/
inductive Stop where
  /-- The file is not given. -/
  | missing
  /-- The option of the file has no value. -/
  | noValue
  /-- The file is given twice. -/
  | twice
  /-- An argument is not known. -/
  | unknown
  /-- A value is given to an option that takes none. -/
  | needlessValue
  /-- Help is asked for. -/
  | help
  /-- The version is asked for. -/
  | version
  deriving DecidableEq, Repr

/-- The version of the server. -/
def versionText : String := "shelf-api 0.1.0\n"

/-- What is shown to help. -/
def helpText : String := "Usage: shelf-api --config <FILE>\n"

/-- The sentence of a reason. -/
def Stop.message : Stop → String
  | .missing => "the argument of the configuration file is required"
  | .noValue => "a value is required for the configuration file"
  | .twice => "the configuration file cannot be given twice"
  | .unknown => "unexpected argument found"
  | .needlessValue => "unexpected value found"
  | .help => helpText
  | .version => versionText

/-- The option of the file where its value is not used yet. -/
inductive Pending where
  /-- There is no option. -/
  | none
  /-- The value is the next argument. -/
  | awaiting
  /-- The value was the next argument. -/
  | given (value : String)
  deriving DecidableEq, Repr

/-- The arguments so far. -/
structure State where
  /-- The file. -/
  config : Option String := none
  /-- The option whose value is not used yet. -/
  pending : Pending := .none
  /-- Whether the options ended. -/
  optionsEnded : Bool := false
  deriving DecidableEq, Repr

namespace State

/-- Uses a value. -/
def use (s : State) (value : String) : Except Stop State :=
  if s.config.isSome then .error .twice
  else if value.isEmpty then .error .noValue
  else .ok { s with config := some value, pending := .none }

/-- Uses the value that was not used yet. -/
def settle (s : State) : Except Stop State :=
  match s.pending with
  | .none => .ok s
  | .awaiting => .error .noValue
  | .given value => s.use value

/-- Stops for a reason, after the value that was not used yet. -/
def stopFor (s : State) (why : Stop) : Except Stop State := do
  let _ ← s.settle
  .error why

/-- The option of the file, with its value if that stands in the same argument. -/
def file (s : State) (value : Option String) : Except Stop State := do
  let s ← s.settle
  match value with
  | some v => s.use v
  | none => return { s with pending := .awaiting }

/-- The value behind an option of one letter; an equals sign in front is not part of it. -/
def attached? : List Char → Option String
  | [] => none
  | '=' :: rest => some (String.ofList rest)
  | rest => some (String.ofList rest)

/-- Options of one letter, of which only the last may be that of the file. -/
def letters (s : State) : List Char → Except Stop State
  | 'h' :: _ => s.stopFor .help
  | 'V' :: _ => s.stopFor .version
  | 'c' :: rest => s.file (attached? rest)
  | _ => .error .unknown

/-- An option with a name, and the value behind its equals sign. -/
def named (s : State) (name : List Char) (value : Option (List Char)) : Except Stop State :=
  if name = "config".toList then s.file (value.map String.ofList)
  else if name = "help".toList then
    if value.isSome then .error .needlessValue else s.stopFor .help
  else if name = "version".toList then
    if value.isSome then .error .needlessValue else s.stopFor .version
  else .error .unknown

/-- An argument that is no option. -/
def plain (s : State) (arg : String) : Except Stop State :=
  match s.pending with
  | .awaiting => if s.optionsEnded then .error .unknown else .ok { s with pending := .given arg }
  | _ => .error .unknown

/-- **One more argument.** -/
def step (s : State) (arg : String) : Except Stop State :=
  if s.optionsEnded then s.plain arg
  else
    -- Two hyphens alone end the options; in front of a name they begin one.
    match arg.toList with
    | ['-', '-'] => .ok { s with optionsEnded := true }
    | '-' :: '-' :: option =>
      match option.span (· ≠ '=') with
      | (name, []) => s.named name none
      | (name, _ :: value) => s.named name (some value)
    | '-' :: c :: rest => s.letters (c :: rest)
    | _ => s.plain arg

end State

/-- **Reading the arguments.** -/
def parse (args : List String) : Except Stop Arguments := do
  -- The value of the last option is used only now.
  let s ← args.foldlM State.step {}
  let s ← s.settle
  match s.config with
  | some config => return { config }
  | none => .error .missing

example : parse ["-c=x", "--"] = .ok ⟨"x"⟩ := rfl
example : parse ["-c", "-V"] = .error .noValue := rfl
example : parse ["-c", "--", "x"] = .error .unknown := rfl

end Arguments

end Storefront
