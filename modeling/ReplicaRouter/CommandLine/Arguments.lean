/-
Reading the words of a command line. A word is the name of a subcommand, an option with its value
attached or in the next word, or a positional argument; after the word `--` all are positional.
Each option may be given once on each side of the subcommand's name.
-/
namespace ReplicaRouter.CommandLine

/-! ## What a command accepts -/

/-- An option that takes a value. -/
structure OptionSpec where
  /-- Its name after two dashes. -/
  long : String
  /-- Its letter after one dash, if it has one. -/
  short : Option Char := none
  /-- Which values it takes. -/
  accepts : String → Bool := fun _ => true

/-- The words that a command accepts. -/
structure CommandSpec where
  options : List OptionSpec
  positionals : Nat := 0
  /-- The subcommands whose names end its own words. -/
  subcommands : List String := []
  hasVersion : Bool := false

/-- Why reading stops before a command is found. -/
inductive Stop where
  /-- The words are not a command line of this program. -/
  | usage (complaint : String)
  | help
  | version
  deriving DecidableEq, Repr

/-- What has been read so far. -/
structure Found where
  values : List (String × String) := []
  positionals : List String := []
  pending : Option OptionSpec := none
  /-- Whether `--` was read. -/
  escaped : Bool := false

/-- The value given to an option. -/
def Found.value? (found : Found) (long : String) : Option String :=
  (found.values.find? fun entry => entry.1 == long).map Prod.snd

/-- The complaint about a word that has no place. -/
def unexpected (word : String) : Stop := .usage ("unexpected argument '" ++ word ++ "' found")

namespace CommandSpec

def assign (found : Found) (option : OptionSpec) (value : String) : Except Stop Found :=
  if (found.value? option.long).isSome then
    .error (.usage ("the argument '--" ++ option.long ++ "' cannot be used multiple times"))
  else if !option.accepts value then
    .error (.usage ("invalid value '" ++ value ++ "' for '--" ++ option.long ++ "'"))
  else .ok { found with values := found.values ++ [(option.long, value)], pending := none }

/-- Reads a word after two dashes: `name` or `name=value`. -/
def readLong (spec : CommandSpec) (found : Found) (word : String) (body : List Char) :
    Except Stop Found :=
  let name := String.ofList (body.takeWhile (· != '='))
  let attached := match body.dropWhile (· != '=') with
    | _ :: value => some (String.ofList value)
    | [] => none
  match spec.options.find? (·.long == name) with
  | some option => match attached with
    | some value => assign found option value
    | none => .ok { found with pending := some option }
  | none =>
    if attached.isSome then .error (unexpected word)
    else if name = "help" then .error .help
    else if name = "version" ∧ spec.hasVersion then .error .version
    else .error (unexpected word)

/-- Reads a word after one dash: a letter, with the rest of the word as its value. -/
def readShort (spec : CommandSpec) (found : Found) (word : String) (letter : Char)
    (attached : List Char) : Except Stop Found :=
  match spec.options.find? (·.short == some letter) with
  | some option => match attached with
    | [] => .ok { found with pending := some option }
    | '=' :: value => assign found option (String.ofList value)
    | value => assign found option (String.ofList value)
  | none =>
    if letter = 'h' then .error .help
    else if letter = 'V' ∧ spec.hasVersion then .error .version
    else .error (unexpected word)

def readPositional (spec : CommandSpec) (found : Found) (word : String) : Except Stop Found :=
  if found.positionals.length < spec.positionals then
    .ok { found with positionals := found.positionals ++ [word] }
  else .error (unexpected word)

/-- Whether a word can be the value of the option before it. -/
def canBeValue (word : String) : Bool :=
  match word.toList with
  | '-' :: _ :: _ => false
  | _ => true

/-- Reads one word that is not the name of a subcommand. -/
def readWord (spec : CommandSpec) (found : Found) (word : String) : Except Stop Found :=
  if found.escaped then spec.readPositional found word
  else match found.pending with
    | some option =>
      if canBeValue word then assign found option word
      else .error (.usage ("a value is required for '--" ++ option.long ++ "' but none was supplied"))
    | none => match word.toList with
      | ['-', '-'] => .ok { found with escaped := true }
      | '-' :: '-' :: body => spec.readLong found word body
      | '-' :: letter :: attached => spec.readShort found word letter attached
      | _ => spec.readPositional found word

/-- Reads words up to the name of a subcommand or to the end. -/
def read (spec : CommandSpec) : Found → List String → Except Stop (Found × Option (String × List String))
  | found, [] =>
    match found.pending with
    | some option =>
      .error (.usage ("a value is required for '--" ++ option.long ++ "' but none was supplied"))
    | none => .ok (found, none)
  | found, word :: rest =>
    if !found.escaped && found.pending.isNone && spec.subcommands.contains word then
      .ok (found, some (word, rest))
    else match spec.readWord found word with
      | .ok found => spec.read found rest
      | .error stop => .error stop

end CommandSpec

/-! ## The commands of this program -/

/-- The logging options, which stand on either side of a subcommand's name. -/
structure LoggingOptions where
  level : Option String
  format : Option String
  deriving DecidableEq, Repr

/-- A command with its arguments. -/
inductive Command where
  /-- Write an example settings document. -/
  | config (profile output : String)
  | validate (path : String)
  /-- Tell how a statement is classified. -/
  | classify (sql : String) (autocommit : Bool)
  | version
  deriving DecidableEq, Repr

def loggingSpecs : List OptionSpec := [{ long := "log-level" }, { long := "log-format" }]

/-- Whether a text can be a path. -/
def isPath (s : String) : Bool := !s.isEmpty

/-- Whether a text is a truth value. -/
def isTruth (s : String) : Bool := s == "true" || s == "false"

/-- The words before the subcommand's name. -/
def topSpec : CommandSpec where
  options := loggingSpecs
  subcommands := ["config", "validate", "classify", "version", "help"]
  hasVersion := true

/-- The words after the name of each subcommand. -/
def subSpec (name : String) : CommandSpec :=
  if name = "config" then {
    options := { long := "profile", short := some 'p' } ::
      { long := "output", short := some 'o', accepts := isPath } :: loggingSpecs }
  else if name = "validate" then {
    options := { long := "config", short := some 'c', accepts := isPath } :: loggingSpecs }
  else if name = "classify" then {
    options := { long := "autocommit", accepts := isTruth } :: loggingSpecs
    positionals := 1 }
  else { options := loggingSpecs }

/-- What is asked for when the words after the subcommand's name have been read. -/
def Command.of (name : String) (found : Found) : Except Stop Command :=
  if name = "config" then
    match found.value? "output" with
    | some output => .ok (.config ((found.value? "profile").getD "default") output)
    | none => .error (.usage "the required argument --output was not provided")
  else if name = "validate" then
    match found.value? "config" with
    | some path => .ok (.validate path)
    | none => .error (.usage "the required argument --config was not provided")
  else if name = "classify" then
    match found.positionals with
    | sql :: _ => .ok (.classify sql ((found.value? "autocommit").getD "true" == "true"))
    | [] => .error (.usage "the required argument <SQL> was not provided")
  else .ok .version

/-- Why no command line was found: the reason, and the subcommand it is about, if any. -/
structure Halt where
  stop : Stop
  /-- The subcommand whose words were being read. -/
  topic : Option String := none
  deriving DecidableEq, Repr

/-- What `help` with these words asks for. -/
def helpFor (words : List String) : Halt :=
  match words with
  | [] => { stop := .help }
  | name :: _ =>
    if topSpec.subcommands.contains name then { stop := .help, topic := some name }
    else { stop := .usage ("unrecognized subcommand '" ++ name ++ "'") }

/-- The command that the words of a command line ask for. A logging option given after the
subcommand's name wins over the same option given before it. -/
def parse (words : List String) : Except Halt (LoggingOptions × Command) :=
  match topSpec.read {} words with
  | .error stop => .error { stop }
  | .ok (_, none) => .error { stop := .usage "a subcommand is required" }
  | .ok (before, some (name, rest)) =>
    if name = "help" then .error (helpFor rest)
    else match (subSpec name).read {} rest with
      | .error stop => .error { stop, topic := some name }
      | .ok (found, _) => match Command.of name found with
        | .error stop => .error { stop, topic := some name }
        | .ok command =>
          let pick (long : String) := (found.value? long).or (before.value? long)
          .ok ({ level := pick "log-level", format := pick "log-format" }, command)

end ReplicaRouter.CommandLine
