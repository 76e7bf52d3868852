import ToolBindings.Text.Scan

/-!
# Options

Reading the arguments of a command. An option has a long name after two dashes and may have a short
one after one dash. A value follows its option as the next argument, after an equals sign if the
long name is used, or directly after the short name. Two dashes alone end the options.
-/

namespace ToolBindings.CommandLine

/-- An option that a command knows. -/
structure OptionSpec where
  long : String
  short : Option Char
  takesValue : Bool

/-- An option that was given, by its long name, with its value if it takes one. -/
structure GivenOption where
  long : String
  value : Option String
deriving DecidableEq

/-- Arguments that were read. -/
structure Arguments where
  options : List GivenOption
  positional : List String
deriving DecidableEq

/-- What one argument gives: options, and the long name of the option whose value is still to come.
-/
structure Reading where
  options : List GivenOption
  pending : Option String

namespace Reading

/-- One more option in front. -/
def cons (o : GivenOption) (r : Reading) : Reading := { r with options := o :: r.options }

/-- A long name, with the text after an equals sign if there is one. -/
def long? (specs : List OptionSpec) (name : String) (value : Option String) : Option Reading := do
  let spec ← specs.find? (·.long == name)
  match spec.takesValue, value with
  | true, some value => some ⟨[⟨name, some value⟩], none⟩
  | true, none => some ⟨[], some name⟩
  | false, none => some ⟨[⟨name, none⟩], none⟩
  | false, some _ => none

/-- Short names written together; the rest after one that takes a value is its value. -/
def short? (specs : List OptionSpec) : List Char → Option Reading
  | [] => some ⟨[], none⟩
  | c :: rest => do
    let spec ← specs.find? (·.short == some c)
    if spec.takesValue then
      if rest.isEmpty then some ⟨[], some spec.long⟩
      else some ⟨[⟨spec.long, some (String.ofList rest)⟩], none⟩
    else (short? specs rest).map (cons ⟨spec.long, none⟩)

/-- An argument that starts with a dash: a long name if it is one, else short names. -/
def ofArgument? (specs : List OptionSpec) (argument : String) : Option Reading :=
  let s := argument.toList
  let name := String.ofList (s.takeWhile (· ≠ '='))
  let value :=
    match s.dropWhile (· ≠ '=') with
    | _ :: value => some (String.ofList value)
    | [] => none
  if specs.any (·.long == name) then long? specs name value
  else
    match s with
    | '-' :: '-' :: _ => none
    | _ :: names => short? specs names
    | [] => none

end Reading

namespace Arguments

/-- Options in front of arguments. -/
def withOptions (options : List GivenOption) (a : Arguments) : Arguments :=
  { a with options := options ++ a.options }

/-- Reads arguments. The first that is no option ends the options, unless they may stand among the
others. -/
def read? (specs : List OptionSpec) (mixed : Bool) : List String → Option Arguments
  | [] => some ⟨[], []⟩
  | argument :: rest =>
    if argument = "--" then some ⟨[], rest⟩
    else if argument.toList.head? = some '-' ∧ 1 < argument.length then
      match Reading.ofArgument? specs argument with
      | none => none
      | some ⟨options, none⟩ => (read? specs mixed rest).map (withOptions options)
      | some ⟨options, some long⟩ =>
        match rest with
        | [] => none
        | value :: rest =>
          (read? specs mixed rest).map (withOptions (options ++ [⟨long, some value⟩]))
    else if mixed then
      (read? specs mixed rest).map fun a => { a with positional := argument :: a.positional }
    else some ⟨[], argument :: rest⟩

/-- An option was given. -/
def has (a : Arguments) (long : String) : Bool := a.options.any (·.long == long)

/-- All values of an option, in order. -/
def values (a : Arguments) (long : String) : List String :=
  a.options.filterMap fun o => if o.long = long then o.value else none

/-- The value of an option that was given last. -/
def lastValue? (a : Arguments) (long : String) : Option String := (a.values long).getLast?

end Arguments
end ToolBindings.CommandLine
