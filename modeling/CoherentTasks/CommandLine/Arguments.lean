/-!
# Command line arguments

The options of the program and the reading of its arguments. An option takes its
value after an equals sign or from the next argument; a value is taken over, and
thereby checked, when the next known option follows or the arguments end.
-/

namespace CoherentTasks.CommandLine

inductive LogLevel where
  | error
  | warn
  | info
  | debug
  | trace
  deriving DecidableEq, Repr

def LogLevel.name : LogLevel → String
  | .error => "error"
  | .warn => "warn"
  | .info => "info"
  | .debug => "debug"
  | .trace => "trace"

def LogLevel.all : List LogLevel := [.error, .warn, .info, .debug, .trace]

def LogLevel.ofName? (name : String) : Option LogLevel :=
  LogLevel.all.find? (·.name == name)

structure Arguments where
  config : String
  node : Option String
  logLevel : Option LogLevel
  dryRun : Bool
  deriving DecidableEq, Repr

inductive ArgumentFault where
  | unknownArgument
  | invalidValue
  | argumentConflict
  | tooManyValues
  | displayHelp
  | displayVersion
  deriving DecidableEq, Repr

inductive ValueOption where
  | config
  | node
  | logLevel
  deriving DecidableEq, Repr

inductive Flag where
  | dryRun
  | help
  | version
  deriving DecidableEq, Repr

inductive Switch where
  | takesValue (option : ValueOption)
  | flag (flag : Flag)
  deriving DecidableEq, Repr

def Switch.ofName? : String → Option Switch
  | "config" => some (.takesValue .config)
  | "node" => some (.takesValue .node)
  | "log-level" => some (.takesValue .logLevel)
  | "dry-run" => some (.flag .dryRun)
  | "help" => some (.flag .help)
  | "version" => some (.flag .version)
  | _ => none

def Flag.ofLetter? : Char → Option Flag
  | 'h' => some .help
  | 'V' => some .version
  | _ => none

/-- An option whose value has not been taken over yet, and the value if it has
come. -/
structure Pending where
  option : ValueOption
  value : Option String
  deriving DecidableEq, Repr

structure Progress where
  config : Option String
  node : Option String
  logLevel : Option LogLevel
  dryRun : Bool
  pending : Option Pending
  deriving DecidableEq, Repr

namespace Progress

def start : Progress := ⟨none, none, none, false, none⟩

/-- Takes over the value of an option. It must have come, the option must not
have been given before, and a level must exist, in this order. -/
def accept (progress : Progress) (option : ValueOption)
    (value : Option String) : Except ArgumentFault Progress :=
  match value with
  | none => .error .invalidValue
  | some value =>
    match option with
    | .config =>
      if progress.config.isSome then .error .argumentConflict
      else .ok { progress with config := some value }
    | .node =>
      if progress.node.isSome then .error .argumentConflict
      else .ok { progress with node := some value }
    | .logLevel =>
      if progress.logLevel.isSome then .error .argumentConflict
      else
        match LogLevel.ofName? value with
        | some level => .ok { progress with logLevel := some level }
        | none => .error .invalidValue

def resolve (progress : Progress) : Except ArgumentFault Progress :=
  match progress.pending with
  | none => .ok progress
  | some pending =>
    { progress with pending := none }.accept pending.option pending.value

def raise (progress : Progress) (flag : Flag) :
    Except ArgumentFault Progress := do
  let progress ← progress.resolve
  match flag with
  | .help => throw .displayHelp
  | .version => throw .displayVersion
  | .dryRun =>
    if progress.dryRun then throw .argumentConflict
      else return { progress with dryRun := true }

/-- Reads an option with a long name, and the value behind its equals sign if
there is one. -/
def readLong (progress : Progress) (name : String) (value : Option String) :
    Except ArgumentFault Progress :=
  match Switch.ofName? name, value with
  | none, _ => .error .unknownArgument
  | some (.flag flag), none => progress.raise flag
  | some (.flag _), some _ => .error .tooManyValues
  | some (.takesValue option), some value => do
    (← progress.resolve).accept option (some value)
  | some (.takesValue option), none => do
    return { ← progress.resolve with pending := some ⟨option, none⟩ }

def readShort (progress : Progress) : List Char → Except ArgumentFault Progress
  | [] => .ok progress
  | letter :: rest =>
    match Flag.ofLetter? letter with
    | none => .error .unknownArgument
    | some flag => do (← progress.raise flag).readShort rest

/-- Reads an argument that is no option: the value of an option, or nothing
known. -/
def readPlain (progress : Progress) (argument : String) :
    Except ArgumentFault Progress :=
  match progress.pending with
  | some ⟨option, none⟩ =>
    .ok { progress with pending := some ⟨option, some argument⟩ }
  | _ => .error .unknownArgument

/-- Reads the arguments. Behind two hyphens that stand alone nothing is
known. -/
def readAll (progress : Progress) : List String → Except ArgumentFault Progress
  | [] => progress.resolve
  | argument :: rest =>
    match argument.toList with
    | ['-', '-'] =>
      if rest.isEmpty then progress.resolve else .error .unknownArgument
    | '-' :: '-' :: body => do
      let name := String.ofList (body.takeWhile (· ≠ '='))
      let value :=
        match body.dropWhile (· ≠ '=') with
        | [] => none
        | _ :: value => some (String.ofList value)
      (← progress.readLong name value).readAll rest
    | '-' :: letter :: letters =>
      do (← progress.readShort (letter :: letters)).readAll rest
    | _ => do (← progress.readPlain argument).readAll rest

end Progress

/-- The scenario file if none is named. -/
def standardConfig : String := "Dagrt.toml"

def Arguments.parse (arguments : List String) :
    Except ArgumentFault Arguments := do
  let progress ← Progress.start.readAll arguments
  return ⟨progress.config.getD standardConfig, progress.node, progress.logLevel,
    progress.dryRun⟩

end CoherentTasks.CommandLine
