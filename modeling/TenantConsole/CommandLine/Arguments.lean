import TenantConsole.Text.Digits

/-!
# Arguments

Reading the arguments of a command by its grammar. A long option takes its value after an equals
sign or from the next argument; that value is not looked at before the next known option or the end
of the line, so an unknown argument in between is what gets refused.
-/

namespace TenantConsole.CommandLine

/-- Why a line is not carried out. -/
inductive UsageError where
  | helpAsked
  | versionAsked
  /-- There is nothing on the line, and something has to be. -/
  | nothingAsked
  | missingCommand
  | unknownCommand
  | unknownArgument
  | missingArgument
  | repeatedArgument
  | missingValue
  | invalidValue
  | needlessValue
  deriving DecidableEq

namespace UsageError

def message : UsageError → String
  | helpAsked => "help was asked for"
  | versionAsked => "the version was asked for"
  | nothingAsked => "a command is required"
  | missingCommand => "a command is required after the options"
  | unknownCommand => "there is no such command"
  | unknownArgument => "there is no such argument"
  | missingArgument => "a required argument is missing"
  | repeatedArgument => "an argument was given more than once"
  | missingValue => "an argument lacks its value"
  | invalidValue => "an argument has a value that does not fit"
  | needlessValue => "an argument that takes no value was given one"

end UsageError

/-- What the value of an option has to be. -/
inductive ValueKind where
  | text
  /-- A path is not empty. -/
  | path
  | port
  deriving DecidableEq

structure Grammar where
  flags : List String := []
  options : List (String × ValueKind) := []
  commands : List String := []
  /-- Whether the version can be asked for. -/
  versioned : Bool := false

/-- What a line holds: flags, and options with their values. -/
structure Found where
  flags : List String := []
  values : List (String × String) := []

/-- An option whose value has not been looked at. -/
structure Pending where
  name : String
  value : Option String

namespace Found

def value? (found : Found) (name : String) : Option String :=
  (found.values.find? fun (n, _) => n = name).map Prod.snd

def flag (found : Found) (name : String) : Bool := found.flags.contains name

def isEmpty (found : Found) : Bool := found.flags = [] && found.values = []

end Found

/-! ### Values -/

/-- A whole number with an optional sign. -/
def int? (text : String) : Option Int :=
  let (negative, digits) := match text.toList with
    | '-' :: rest => (true, rest)
    | '+' :: rest => (false, rest)
    | rest => (false, rest)
  (Text.decimal? digits).map fun size => if negative then -(size : Int) else size

def port? (text : String) : Option UInt16 :=
  match int? text with
  | some n => if 0 ≤ n ∧ n < 65536 then some (.ofNat n.toNat) else none
  | none => none

def ValueKind.check (kind : ValueKind) (value : String) : Except UsageError Unit :=
  match kind with
  | text => .ok ()
  | path => if value = "" then .error .missingValue else .ok ()
  | port => if (port? value).isSome then .ok () else .error .invalidValue

/-! ### One command -/

namespace Grammar

/-- Takes up the option that is pending. -/
def settle (grammar : Grammar) (found : Found) : Option Pending → Except UsageError Found
  | none => .ok found
  | some ⟨_, none⟩ => .error .missingValue
  | some ⟨name, some value⟩ => do
    if (found.value? name).isSome then throw .repeatedArgument
    ((grammar.options.lookup name).getD .text).check value
    return { found with values := found.values ++ [(name, value)] }

/-- The name of a long option, and what follows its first equals sign. -/
def long? (argument : String) : Option (String × Option String) :=
  match argument.toList with
  | '-' :: '-' :: rest =>
    let name := String.ofList (rest.takeWhile (· ≠ '='))
    match rest.dropWhile (· ≠ '=') with
    | _ :: value => some (name, some (String.ofList value))
    | [] => some (name, none)
  | _ => none

/-- The letter of a short option. -/
def short? (argument : String) : Option Char :=
  match argument.toList with
  | '-' :: letter :: _ => some letter
  | _ => none

/-- The refusal of an argument that belongs to no option. -/
def stray (grammar : Grammar) (closed : Bool) (argument : String) : UsageError :=
  if grammar.commands = [] then .unknownArgument
  else if closed ∧ argument ∈ grammar.commands then .unknownArgument
  else .unknownCommand

/-- What a flag brings. -/
def raise (grammar : Grammar) (name : String) (found : Found) : Except UsageError Found :=
  if name = "help" then .error .helpAsked
  else if name = "version" ∧ grammar.versioned then .error .versionAsked
  else if found.flag name then .error .repeatedArgument
  else .ok { found with flags := found.flags ++ [name] }

def isFlag (grammar : Grammar) (name : String) : Bool :=
  name = "help" || (name = "version" && grammar.versioned) || grammar.flags.contains name

/-- Whether the next argument is the value of an option. -/
def awaits : Option Pending → Bool
  | some ⟨_, none⟩ => true
  | _ => false

/-- Reads the arguments of a command up to the end or to the name of a command below it, which is
answered with the arguments after it. Behind two hyphens no options follow. -/
def read (grammar : Grammar) (closed : Bool) (found : Found) (pending : Option Pending) :
    List String → Except UsageError (Found × Option (String × List String))
  | [] => do return (← grammar.settle found pending, none)
  | argument :: rest => do
    if closed then throw (grammar.stray closed argument)
    else if ¬ awaits pending ∧ argument ∈ grammar.commands then
      return (← grammar.settle found pending, some (argument, rest))
    else if argument = "--" then grammar.read true found pending rest
    else
      match long? argument with
      | some (name, value) =>
        if grammar.isFlag name then
          if value.isSome then throw .needlessValue
          let found ← grammar.raise name (← grammar.settle found pending)
          grammar.read closed found none rest
        else if (grammar.options.lookup name).isSome then
          let found ← grammar.settle found pending
          match value with
          | some value =>
            let found ← grammar.settle found (some ⟨name, some value⟩)
            grammar.read closed found none rest
          | none => grammar.read closed found (some ⟨name, none⟩) rest
        else throw .unknownArgument
      | none =>
        match short? argument with
        | some letter =>
          if letter = 'h' ∨ (letter = 'V' ∧ grammar.versioned) then
            let _ ← grammar.settle found pending
            throw (if letter = 'h' then .helpAsked else .versionAsked)
          else throw .unknownArgument
        | none =>
          match pending with
          | some ⟨name, none⟩ => grammar.read closed found (some ⟨name, some argument⟩) rest
          | _ => throw (grammar.stray closed argument)

def parse (grammar : Grammar) (arguments : List String) :
    Except UsageError (Found × Option (String × List String)) :=
  grammar.read false {} none arguments

end Grammar

end TenantConsole.CommandLine
