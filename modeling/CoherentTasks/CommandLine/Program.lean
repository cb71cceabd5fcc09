import CoherentTasks.CommandLine.Arguments
import CoherentTasks.CommandLine.LogFilter
import CoherentTasks.Scenario.Decoding
import CoherentTasks.Scenario.Listing
import CoherentTasks.Scenario.Report

/-!
# The program

What the program prints for its arguments and its scenario file, and how it
ends.
-/

namespace CoherentTasks.CommandLine

abbrev FileContents := Except FileFault ByteArray

inductive RunFailure where
  | error (cause : Error)
  /-- Some of the submissions of a run failed. -/
  | submissions (failed total : Nat)
  deriving DecidableEq, Repr

def RunFailure.message : RunFailure → String
  | .error cause => cause.message
  | .submissions failed total =>
    toString failed ++ " of " ++ toString total ++ " node submissions failed"

/-- The exit code tells a bad scenario from a run that failed. -/
def RunFailure.exitCode : RunFailure → Nat
  | .submissions .. => 1
  | .error cause =>
    match cause.kind with
    | .configuration | .cycle | .document | .inputFile => 2
    | _ => 1

/-- What the program prints, and why it failed if it did. -/
structure Outcome where
  output : String
  failure : Option RunFailure
  deriving DecidableEq, Repr

def loadScenario (contents : FileContents) : Except Error Scenario :=
  match contents with
  | .error fault => .error (.file fault)
  | .ok bytes => Scenario.ofBytes bytes

/-- Runs a scenario on simulated devices, or only lists it. -/
def runScenario (arguments : Arguments) (scenario : Scenario) :
    Except Error Outcome := do
  scenario.validate
  if arguments.dryRun then return ⟨← scenario.listing, none⟩
  else
    let (run, summary) ← (← scenario.prepareSimulated).submitAll arguments.node
    let report := run.finish.report summary
    let failure :=
      if report.isSuccess then none
      else some (.submissions report.failures.length report.nodes.length)
    return ⟨report.text, failure⟩

def execute (arguments : Arguments) (contents : FileContents) : Outcome :=
  match loadScenario contents >>= runScenario arguments with
  | .ok outcome => outcome
  | .error cause => ⟨"", some (.error cause)⟩

def versionText : String := "dagrt 0.1.0\n"

def helpText : String :=
  "Run a task graph scenario through the direct scheduler on simulated " ++
    "devices.\n\n" ++
    "Usage: dagrt [OPTIONS]\n\nOptions:\n" ++
    "      --config <PATH>      Path to the scenario file (TOML) " ++
    "[default: Dagrt.toml]\n" ++
    "      --node <NAME>        Submit only this node and the nodes it " ++
    "depends on\n" ++
    "      --log-level <LEVEL>  Logging level [possible values: error, " ++
    "warn, info, debug, trace]\n" ++
    "      --dry-run            Parse + validate, print the graph, but " ++
    "don't submit anything\n" ++
    "  -h, --help               Print help\n" ++
    "  -V, --version            Print version\n"

/-- How the program ends: its exit code, what it prints, and its complaint if it
has one. -/
structure Ending where
  exitCode : Nat
  output : String
  complaint : Option String
  deriving DecidableEq, Repr

/-- The message shown for arguments that do not lead to a run. -/
def ArgumentFault.complaint : ArgumentFault → String
  | .unknownArgument => "unexpected argument"
  | .invalidValue => "invalid value for an option"
  | .argumentConflict => "an option was given more than once"
  | .tooManyValues => "a flag takes no value"
  | .displayHelp => ""
  | .displayVersion => ""

/-- The whole program. A log filter counts only if the arguments name no
level. -/
def program (arguments : List String) (logFilter : Option String)
    (contents : String → FileContents) : Ending :=
  match Arguments.parse arguments with
  | .error .displayHelp => ⟨0, helpText, none⟩
  | .error .displayVersion => ⟨0, versionText, none⟩
  | .error fault => ⟨2, "", some fault.complaint⟩
  | .ok arguments =>
    if arguments.logLevel.isNone && !isLogFilter logFilter then
      ⟨1, "", some "invalid DAGRT_LOG directives"⟩
    else
      let outcome := execute arguments (contents arguments.config)
      match outcome.failure with
      | none => ⟨0, outcome.output, none⟩
      | some failure => ⟨failure.exitCode, outcome.output, some failure.message⟩

end CoherentTasks.CommandLine
