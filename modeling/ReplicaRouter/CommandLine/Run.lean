import ReplicaRouter.CommandLine.Arguments
import ReplicaRouter.CommandLine.Help
import ReplicaRouter.CommandLine.LogFilter
import ReplicaRouter.Settings.Document
import ReplicaRouter.Statement
import ReplicaRouter.Text.Quoted
/-
The commands of the command line. What a command does to files goes through `Files`, so the same
commands run against a disk and against a directory kept in memory.
-/
namespace ReplicaRouter.CommandLine

/-- Access to files; a failure is told by the system's message. -/
structure Files (m : Type → Type) where
  read : String → m (Except String ByteArray)
  write : String → String → m (Except String Unit)

/-- What a run of the program leaves behind. -/
structure Report where
  code : Nat
  out : List String := []
  err : List String := []
  deriving DecidableEq, Repr

/-! ## Failures -/

/-- The lines of a text with each line after the first indented. -/
def indentLines (indent : String) (s : String) : List String :=
  match s.splitOn "\n" with
  | [] => []
  | first :: rest => first :: rest.map (indent ++ ·)

def failureLines (message : String) (causes : List String) : List String :=
  let blocks := match causes with
    | [cause] => (indentLines "    " cause).zipIdx.map fun (l, i) => if i = 0 then "    " ++ l else l
    | causes => causes.zipIdx.flatMap fun (cause, n) =>
      (indentLines "       " cause).zipIdx.map fun (l, i) => if i = 0 then s!"    {n}: " ++ l else l
  (("Error: " ++ message).splitOn "\n") ++ (if causes.isEmpty then [] else ["", "Caused by:"] ++ blocks)

def failed (out err : List String) (message : String) (causes : List String) : Report where
  code := 1
  out
  err := err ++ failureLines message causes

/-! ## Commands -/

def classifyLines (sql : String) (autocommit : Bool) : List String :=
  let statements := (Statement.split sql.toList).map String.ofList
  let c := Statement.classify sql.toList autocommit
  let setting := match c.setsAutocommit, c.value with
    | true, some value => toString value
    | true, none => "unrecognized value"
    | false, _ => "no"
  [s!"Statements: {statements.length}"] ++
    statements.zipIdx.map (fun (s, i) => s!"  {i + 1}: " ++ s) ++
    ["First statement:    " ++ (c.first.elim "-" String.ofList),
      s!"Opens transaction:  {c.opens}",
      s!"Closes transaction: {c.closes}",
      s!"Data modification:  {c.isData}",
      "Sets autocommit:    " ++ setting]

/-- A summary of settings that were found valid. -/
def summaryLines (s : Settings) : List String :=
  let sweeper := if s.cache.backgroundCleanup then "background" else "on access"
  let telemetry := if s.telemetry.enabled then "enabled" else "disabled"
  ["✓ Configuration file is valid",
    s!"  Pool: {s.pool.maxConnectionsPerHost} connections per host, validation timeout " ++
      s.pool.validationTimeout.compact ++ s!", {s.pool.maxValidationRetries} retries, acquire timeout " ++
      s.pool.acquireTimeout.compact,
    "  Pool cache: expiration " ++ s.cache.expiration.compact ++ ", cleanup every " ++
      s.cache.cleanupInterval.compact ++ " (" ++ sweeper ++ ")",
    "  Reader selection: " ++ s.splitting.readerSelection.text ++
      s!", load balancing: {s.splitting.loadBalanceReaders}",
    "  Telemetry: " ++ telemetry ++ " (" ++ s.telemetry.backend ++ ")",
    "  Logging: " ++ s.logging.level ++ " (" ++ s.logging.format ++ ")"]

/-- The complaint about settings that could not be loaded. -/
def loadComplaint : SettingsError → String
  | .io m => "  File error: " ++ m
  | .parse m => "  Parse error: " ++ m
  | .validation m => "  Validation error: " ++ m
  | .serialize m => "  Serialization error: " ++ m

variable {m : Type → Type} [Monad m]

/-- Writes the settings' document to a file. -/
def saveSettings (files : Files m) (s : Settings) (path : String) : m (Except SettingsError Unit) :=
  match s.toDocument with
  | .error e => return .error e
  | .ok document => do
    match ← files.write path document with
    | .ok () => return .ok ()
    | .error message => return .error (.io message)

def saveProfile (files : Files m) (profile output : String) : m (Except SettingsError Unit) :=
  match Settings.ofProfile profile with
  | .error e => return .error e
  | .ok s => saveSettings files s output

/-- Reads the settings of a file, which have to be valid. -/
def loadSettings (files : Files m) (path : String) : m (Except SettingsError Settings) := do
  match ← files.read path with
  | .ok bytes => return Settings.ofBytes bytes
  | .error message => return .error (.io message)

def runConfig (files : Files m) (profile output : String) : m Report := do
  let first := "Generating " ++ profile ++ " configuration file: " ++ Text.quote output
  match ← saveProfile files profile output with
  | .error e => return failed (first.splitOn "\n") [] ("Failed to generate " ++ profile ++ " config") [e.message]
  | .ok () =>
    return {
      code := 0
      out := first.splitOn "\n" ++ [
        "Configuration file generated successfully!",
        "Edit the file to match your environment and validate it with:",
        "  switchyard validate --config " ++ Text.quote output] }

/-- Runs the `validate` command on settings that were loaded or not. -/
def reportValidation (path : String) (loaded : Except SettingsError Settings) : Report :=
  let first := "Validating configuration file: " ++ Text.quote path
  match loaded with
  | .ok s => { code := 0, out := first :: summaryLines s }
  | .error e =>
    failed [first] ("✗ Configuration file validation failed:" :: (loadComplaint e).splitOn "\n")
      ("Invalid configuration " ++ Text.quote path) [e.message]

/-- Goes on when the log level asked for, or else the one given here, is a log filter. -/
def withLogging (options : LoggingOptions) (level : String) (run : m Report) : m Report :=
  let level := options.level.getD level
  match checkFilter level with
  | .ok () => run
  | .error e => return failed [] [] ("Invalid log level: " ++ level) e.causes

def runCommand (files : Files m) (target : String) (options : LoggingOptions) :
    Command → m Report
  | .config profile output =>
    withLogging options ({} : LoggingSettings).level (runConfig files profile output)
  | .validate path => do
    let loaded ← loadSettings files path
    let level := match loaded with
      | .ok s => s.logging.level
      | .error _ => ({} : LoggingSettings).level
    withLogging options level (return reportValidation path loaded)
  | .classify sql autocommit =>
    withLogging options "warn" (return {
      code := 0, out := (classifyLines sql autocommit).flatMap (·.splitOn "\n") })
  | .version => return { code := 0, out := versionReport target }

def run (files : Files m) (target : String) (words : List String) : m Report :=
  match parse words with
  | .ok (options, command) => runCommand files target options command
  | .error halt => match halt.stop with
    | .usage complaint => return { code := 2, err := ["error: " ++ complaint] }
    | .version => return { code := 0, out := [programName ++ " " ++ programVersion] }
    | .help => return { code := 0, out := (halt.topic.elim topHelp subHelp) }

end ReplicaRouter.CommandLine
