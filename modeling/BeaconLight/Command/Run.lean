import BeaconLight.Command.Help
import BeaconLight.Command.Settings

/-!
# Running the program

The program reads its arguments and its settings, checks the chain specification, and prints
what its query fetches. `plan` is the part before anything is asked of a node, and `execute`
the rest. The first thing that fails ends the run, and an `Outcome` says what is printed and
with which code the program ends.
-/

namespace BeaconLight

/-- How a run of the program ends. -/
inductive Outcome
  /-- The arguments run no query. -/
  | stopped (stop : ArgsStop)
  | failed (message : String)
  | printed (text : String)
  deriving DecidableEq, Repr

namespace Outcome

/-- The code that the program ends with. -/
def exitCode : Outcome → Nat
  | .stopped (.refused _) => 2
  | .failed _ => 1
  | .stopped _ | .printed _ => 0

/-- What is printed. -/
def output : Outcome → String
  | .stopped (.help topic) => Help.ofTopic topic
  | .stopped .version => Help.program ++ " " ++ Help.version ++ "\n"
  | .stopped (.refused _) | .failed _ => ""
  | .printed text => text ++ "\n"

/-- The error that a run ends in. -/
def complaint? : Outcome → Option String
  | .failed message => some message
  | _ => none

/-- What is printed about an error, apart from the output. -/
def report : Outcome → String
  | .failed message => "Error: " ++ message ++ "\n"
  | .stopped (.refused .noCommand) => Help.ofProgram false
  | .stopped (.refused cause) =>
    "error: " ++ cause.message ++ "\n\nFor more information, try '--help'.\n"
  | .stopped _ | .printed _ => ""

end Outcome

namespace Program

variable {m : Type → Type} [Monad m]

/-- Reads arguments and the settings file that they name. -/
def plan (contentOf : String → m (Option (List UInt8))) (args : List String) :
  m (Except Outcome (Settings × Query)) := do
  match Args.parse args with
  | .error stop => return .error (.stopped stop)
  | .ok invocation =>
    match Settings.ofFile invocation.config (← contentOf invocation.config) with
    | .error e => return .error (.failed (e.message SettingsError.message))
    | .ok settings => return .ok (settings, invocation.query)

/-- The outcome of what was fetched. -/
def conclude : Except FetchError String → Outcome
  | .ok text => .printed text
  | .error e => .failed e.message

/-- Checks the chain specification and runs a query. -/
def execute (ask : Asking m) (query : Query) : m Outcome := do
  match ← checkSpec ask with
  | .error e => return conclude (.error e)
  | .ok spec => return conclude (← fetch ask spec query)

end Program

end BeaconLight
