import Transclusion.Text.Split

/-!
# Arguments

Reading the arguments of a command: options with two dashes and a name, whose value follows an
equals sign or is the next argument, and clusters of single letters. Reading stops at the first
argument that is no option, at a request for help or for the version, and at the first mistake.
-/

namespace Transclusion

/-- What an option takes. -/
inductive OptionKind where
  /-- Nothing; it can be given or not. -/
  | flag
  /-- Any text. -/
  | text
  /-- A text that is not empty. -/
  | path
  /-- A number. -/
  | word
  /-- Texts between commas; it can be given more than once. -/
  | list
  /-- Nothing; it asks for help. -/
  | help
  /-- Nothing; it asks for the version. -/
  | version
deriving DecidableEq, Repr

namespace OptionKind

/-- Whether an option takes a value. -/
def takesValue : OptionKind → Bool
  | text | path | word | list => true
  | flag | help | version => false

/-- Whether a value will do. -/
def accepts (k : OptionKind) (value : String) : Bool :=
  match k with
  | path => value != ""
  | word => (Text.word? value.toList).isSome
  | _ => true

end OptionKind

/-- An option of a command. -/
structure CommandOption where
  name : String
  kind : OptionKind
  letter : Option Char := none
  /-- The variable of the environment that stands in for the option. -/
  variableName : Option String := none
deriving DecidableEq, Repr

/-- Why reading stops before the end. -/
inductive Stop where
  | help
  | version
  | misuse
deriving DecidableEq, Repr

/-- The values of options in the order they were given, flags with an empty one. -/
abbrev Given := List (String × String)

namespace Arguments

/-- Take an option with its value into account. -/
def add (o : CommandOption) (value : String) (given : Given) : Except Stop Given :=
  match o.kind with
  | .help => .error .help
  | .version => .error .version
  | k =>
    if k != .list && given.any fun (n, _) => n == o.name then .error .misuse
    else if !k.accepts value then .error .misuse
    else .ok (given ++ [(o.name, value)])

/-- Take the letters of a cluster into account, none of which takes a value. -/
def addLetters (options : List CommandOption) (given : Given) : List Char → Except Stop Given
  | [] => .ok given
  | c :: cs =>
    match options.find? fun o => o.letter == some c with
    | none => .error .misuse
    | some o => do addLetters options (← add o "" given) cs

/-- A name and the value after an equals sign, if there is one. -/
def nameAndValue (text : String) : String × Option String :=
  match Text.cutAt '=' text with
  | some (name, value) => (name, some value)
  | none => (text, none)

/-- Whether an argument reads as an option, so that it cannot be the value of another. -/
def isOption (arg : String) : Bool := arg.startsWith "-" && arg != "-"

/-- Read options up to the first argument that is none. -/
def read (options : List CommandOption) (given : Given) :
    List String → Except Stop (Given × List String)
  | [] => .ok (given, [])
  | arg :: rest =>
    if !isOption arg || arg == "--" then .ok (given, arg :: rest)
    else
      match Text.after "--" arg with
      | none => do read options (← addLetters options given (arg.toList.drop 1)) rest
      | some text =>
        let (name, attached) := nameAndValue text
        match options.find? fun o => o.name == name with
        | none => .error .misuse
        | some o =>
          if o.kind.takesValue then
            match attached, rest with
            | some value, rest => do read options (← add o value given) rest
            -- The next argument is the value, unless it reads as an option.
            | none, value :: more =>
              if isOption value then .error .misuse
              else do read options (← add o value given) more
            | none, [] => .error .misuse
          else if attached.isSome then .error .misuse
          else do read options (← add o "" given) rest

/-- Add the values of variables for options that were not given. -/
def fromEnvironment (environment : List (String × String)) (given : Given) :
    List CommandOption → Except Stop Given
  | [] => .ok given
  | o :: os => do
    let value := o.variableName.bind fun v => (environment.find? fun (n, _) => n == v).map (·.2)
    match value with
    | none => fromEnvironment environment given os
    -- A variable is not even looked at if its option was given.
    | some value =>
      if given.any fun (n, _) => n == o.name then fromEnvironment environment given os
      else fromEnvironment environment (← add o value given) os

/-- Read the options of a command, after which nothing may follow. -/
def readAll (options : List CommandOption) (environment : List (String × String))
    (args : List String) :
    Except Stop Given := do
  let (given, rest) ← read options [] args
  if rest = [] ∨ rest = ["--"] then fromEnvironment environment given options else .error .misuse

/-- The value of an option. -/
def value? (given : Given) (name : String) : Option String :=
  (given.find? fun (n, _) => n == name).map (·.2)

/-- The number that is the value of an option. -/
def number? (given : Given) (name : String) : Option Nat :=
  (value? given name).bind fun v => Text.word? v.toList

/-- The members of all lists given for an option. -/
def members (given : Given) (name : String) : List String :=
  (given.filter fun (n, _) => n == name).flatMap fun (_, v) => Text.splitOn ',' v

end Arguments

end Transclusion
