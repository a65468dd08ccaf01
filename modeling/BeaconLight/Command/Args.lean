import BeaconLight.Fetch
import BeaconLight.Json.Number

/-!
# Command line arguments

The program has a command for each kind of query. `Args.parse` reads the arguments behind the
name of the program, one at a time.

An option begins with two hyphens, and its value follows as the next argument or behind an
equals sign. An option whose value has come is entered when the next argument that means
something on its own is met, so of two mistakes the one that is met first is reported. Two
hyphens alone make all arguments behind them values.
-/

namespace BeaconLight

/-- The commands of the program. -/
inductive Command
  | bootstrap
  | updates
  | finalityUpdate
  | optimisticUpdate
  deriving DecidableEq, Repr

/-- The options of the commands. -/
inductive CommandOption
  | config
  | startPeriod
  | count
  deriving DecidableEq, Repr

/-- A command line that runs a query. -/
structure Invocation where
  config : String
  query : Query
  deriving DecidableEq, Repr

/-- What is wrong with arguments. -/
inductive ArgsError
  | noCommand
  | unknownCommand
  | unknownArgument
  | missingArgument
  /-- An option comes without a value, or with an empty one that it does not take. -/
  | emptyValue
  | badValue
  /-- A flag comes with a value. -/
  | surplusValue
  | repeatedOption
  deriving DecidableEq, Repr

/-- The wording of a mistake in arguments. -/
def ArgsError.message : ArgsError → String
  | .noCommand => "a subcommand is required"
  | .unknownCommand => "unrecognized subcommand"
  | .unknownArgument => "unexpected argument found"
  | .missingArgument => "a required argument was not provided"
  | .emptyValue => "a value is required for an option but none was supplied"
  | .badValue => "invalid value for an option"
  | .surplusValue => "unexpected value for a flag"
  | .repeatedOption => "an option cannot be used multiple times"

/-- What help is asked for on. -/
inductive HelpTopic
  /-- The program, in short or at length. -/
  | program (long : Bool)
  | command (command : Command)
  /-- The command that gives help. -/
  | help
  deriving DecidableEq, Repr

/-- Why a command line runs no query: it asks for help or for the version, or it is not
understood. -/
inductive ArgsStop
  | help (topic : HelpTopic)
  | version
  | refused (cause : ArgsError)
  deriving DecidableEq, Repr

namespace Command

/-- The commands in the order in which they are listed. -/
def all : List Command := [.bootstrap, .updates, .finalityUpdate, .optimisticUpdate]

/-- The word that names a command. -/
def name : Command → String
  | .bootstrap => "bootstrap"
  | .updates => "updates"
  | .finalityUpdate => "finality-update"
  | .optimisticUpdate => "optimistic-update"

/-- The command that a word names. -/
def ofName? (word : String) : Option Command :=
  all.find? fun command => command.name == word

/-- The options of a command. -/
def options : Command → List CommandOption
  | .updates => [.startPeriod, .count, .config]
  | _ => [.config]

/-- The number of values that a command takes by place. -/
def places : Command → Nat
  | .bootstrap => 1
  | _ => 0

end Command

/-- The word that names an option. -/
def CommandOption.name : CommandOption → String
  | .config => "config"
  | .startPeriod => "start-period"
  | .count => "count"

namespace Args

/-- What a command line argument is, when it is not taken for a value. -/
inductive Shape
  /-- Two hyphens alone. -/
  | escape
  /-- A long name and the value behind an equals sign. -/
  | long (name : String) (value : Option String)
  /-- Letters behind one hyphen. -/
  | short (letters : List Char)
  | plain
  deriving DecidableEq, Repr

/-- The shape of an argument. -/
def shape (arg : String) : Shape :=
  match arg.toList with
  | ['-', '-'] => .escape
  | '-' :: '-' :: rest =>
    match rest.dropWhile (· != '=') with
    | [] => .long (String.ofList rest) none
    | _ :: value =>
      .long (String.ofList (rest.takeWhile (· != '='))) (some (String.ofList value))
  | '-' :: letter :: letters => .short (letter :: letters)
  | _ => .plain

/-- The values that have been entered. -/
structure Entered where
  places : List String
  config : Option String
  startPeriod : Option Nat
  count : Option Nat
  deriving DecidableEq, Repr

/-- An option that has been begun but not entered, and its value if it has come. -/
structure Begun where
  option : CommandOption
  value : Option String
  deriving DecidableEq, Repr

/-- How far the arguments of a command have been read. -/
structure Reading where
  entered : Entered
  begun : Option Begun
  escaped : Bool
  deriving DecidableEq, Repr

/-- Nothing has been read. -/
def Reading.empty : Reading :=
  ⟨⟨[], none, none, none⟩, none, false⟩

/-- A number of 64 bits. -/
def number (text : String) : Except ArgsStop Nat :=
  match Text.unsigned? Json.wordLimit text with
  | .ok n => .ok n
  | .error _ => .error (.refused .badValue)

/-- Enters the value of an option, once. -/
def enter (e : Entered) (option : CommandOption) (value : String) : Except ArgsStop Entered :=
  match option with
  | .config =>
    if e.config.isSome then .error (.refused .repeatedOption)
    else if value = "" then .error (.refused .emptyValue)
    else .ok { e with config := some value }
  | .startPeriod =>
    if e.startPeriod.isSome then .error (.refused .repeatedOption)
    else (number value).map fun n => { e with startPeriod := some n }
  | .count =>
    if e.count.isSome then .error (.refused .repeatedOption)
    else (number value).map fun n => { e with count := some n }

/-- Enters the option that has been begun. -/
def Reading.finish (r : Reading) : Except ArgsStop Reading :=
  match r.begun with
  | none => .ok r
  | some ⟨_, none⟩ => .error (.refused .emptyValue)
  | some ⟨option, some value⟩ =>
    (enter r.entered option value).map fun entered => { r with entered, begun := none }

/-- Reads an argument as a value by place. -/
def Reading.addPlace (command : Command) (r : Reading) (arg : String) :
  Except ArgsStop Reading :=
  if r.entered.places.length < command.places then do
    let r ← r.finish
    return { r with entered := { r.entered with places := r.entered.places ++ [arg] } }
  else .error (.refused .unknownArgument)

/-- Reads an argument that is a value: that of the option that has been begun, or one by
place. -/
def Reading.addValue (command : Command) (r : Reading) (arg : String) :
  Except ArgsStop Reading :=
  match r.begun with
  | some ⟨option, none⟩ =>
    if r.escaped then r.addPlace command arg
    else .ok { r with begun := some ⟨option, some arg⟩ }
  | _ => r.addPlace command arg

/-- The name of the flag that asks for help. -/
def helpName : String := "help"

/-- Reads a long option. -/
def Reading.addLong (command : Command) (r : Reading) (name : String) (value : Option String) :
  Except ArgsStop Reading :=
  if name = helpName then
    if value.isSome then .error (.refused .surplusValue)
    else do
      let _ ← r.finish
      throw (.help (.command command))
  else
    match command.options.find? fun option => option.name == name with
    | none => .error (.refused .unknownArgument)
    | some option => do
      let r ← r.finish
      match value with
      | none => return { r with begun := some ⟨option, none⟩ }
      | some value => return { r with entered := ← enter r.entered option value }

/-- Reads one argument of a command. -/
def Reading.step (command : Command) (r : Reading) (arg : String) : Except ArgsStop Reading :=
  if r.escaped then r.addValue command arg
  else
    match shape arg with
    | .escape => .ok { r with escaped := true }
    | .long name value => r.addLong command name value
    | .short ('h' :: _) => do
      let _ ← r.finish
      throw (.help (.command command))
    | .short _ => .error (.refused .unknownArgument)
    | .plain => r.addValue command arg

/-- A value that has to be there. -/
def needed {α : Type} (value : Option α) : Except ArgsStop α :=
  match value with
  | some x => .ok x
  | none => .error (.refused .missingArgument)

/-- The query of a command with the values that have been entered. -/
def query (command : Command) (e : Entered) : Except ArgsStop Query :=
  match command with
  | .bootstrap => (needed e.places.head?).map .bootstrap
  | .updates => .ok (.updates e.startPeriod (e.count.getD 1))
  | .finalityUpdate => .ok .finalityUpdate
  | .optimisticUpdate => .ok .optimisticUpdate

/-- Reads the arguments of a command. -/
def parseCommand (command : Command) (args : List String) : Except ArgsStop Invocation := do
  let r ← args.foldlM (fun r arg => r.step command arg) Reading.empty
  let r ← r.finish
  let config ← needed r.entered.config
  return ⟨config, ← query command r.entered⟩

/-- Reads the arguments of the command that gives help. -/
def parseHelp : List String → ArgsStop
  | [] => .help (.program true)
  | [word] =>
    match Command.ofName? word with
    | some command => .help (.command command)
    | none => if word = helpName then .help .help else .refused .unknownCommand
  | _ => .refused .unknownCommand

/-- Reads an argument in place of the command. -/
def stop (arg : String) : ArgsStop :=
  match shape arg with
  | .long "help" none => .help (.program true)
  | .long "version" none => .version
  | .long "help" (some _) | .long "version" (some _) => .refused .surplusValue
  | .short ('h' :: _) => .help (.program false)
  | .short ('V' :: _) => .version
  | .long .. | .short _ => .refused .unknownArgument
  | .escape | .plain => .refused .unknownCommand

/-- Reads an argument behind two hyphens in place of the command. -/
def stopEscaped (arg : String) : ArgsStop :=
  if (Command.ofName? arg).isSome ∨ arg = helpName then .refused .unknownArgument
  else .refused .unknownCommand

/-- Reads the arguments behind the name of the program. -/
def parse : List String → Except ArgsStop Invocation
  | [] | ["--"] => .error (.refused .noCommand)
  | "--" :: arg :: _ => .error (stopEscaped arg)
  | arg :: rest =>
    match Command.ofName? arg with
    | some command => parseCommand command rest
    | none => .error (if arg = helpName then parseHelp rest else stop arg)

end Args

end BeaconLight
