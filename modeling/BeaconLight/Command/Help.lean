import BeaconLight.Command.Args

/-!
# Help

The texts that the program shows when it is asked for help or for its version.
-/

namespace BeaconLight.Help

/-- The name of the program. -/
def program : String := "lc_fetcher"

/-- The version of the program. -/
def version : String := "0.1.0"

/-- A text with blanks behind it up to a width. -/
def pad (width : Nat) (text : String) : String :=
  text ++ String.ofList (List.replicate (width - text.length) ' ')

/-- What a command does. -/
def about : Command → String
  | .bootstrap => "Fetches the bootstrap for a block"
  | .updates => "Fetches the updates for a range of sync committee periods"
  | .finalityUpdate => "Fetches the latest finality update"
  | .optimisticUpdate => "Fetches the latest optimistic update"

/-- The width of the widest word of rows. -/
def wordWidth (rows : List (String × String)) : Nat :=
  rows.foldl (fun n row => max n row.1.length) 0

/-- Words with what they mean behind them, in two columns. -/
def columns (rows : List (String × String)) : List String :=
  rows.map fun row => "  " ++ pad (wordWidth rows) row.1 ++ "  " ++ row.2

/-- A word with what it means below it. -/
def below (row : String × String) : List String :=
  ["  " ++ row.1, "          " ++ row.2]

/-- The width of a line. -/
def lineWidth : Nat := 100

/-- The width that words may take, with the space around them, before it matters how long
their meanings are. -/
def wideFrom : Nat := 40

/-- A meaning fits on the line of words of a width. -/
def fitsBeside (width : Nat) (meaning : String) : Bool :=
  let taken := width + 12
  taken ≤ wideFrom || meaning.length ≤ lineWidth - taken

/-- Words with what they mean, in two columns if every meaning fits. -/
def glossary (rows : List (String × String)) : List String :=
  if rows.all fun row => fitsBeside (wordWidth rows) row.2 then columns rows
  else rows.flatMap below

/-- An option with the place of its value. -/
def optionRow : CommandOption → String × String
  | .config => ("    --config <CONFIG>", "The configuration file for the fetcher")
  | .startPeriod =>
    ("    --start-period <START_PERIOD>",
      "The first sync committee period. Defaults to the period of the latest finalized header")
  | .count => ("    --count <COUNT>", "The number of periods to fetch [default: 1]")

/-- How a command is used. -/
def usage : Command → String
  | .bootstrap => " --config <CONFIG> <BLOCK_ID>"
  | .updates => " [OPTIONS] --config <CONFIG>"
  | .finalityUpdate | .optimisticUpdate => " --config <CONFIG>"

/-- Lines as a text. -/
def ofLines (lines : List String) : String :=
  String.join (lines.map (· ++ "\n"))

/-- The help of a command. -/
def ofCommand (command : Command) : String :=
  let arguments :=
    if command = .bootstrap then
      ["Arguments:"]
        ++ columns [("<BLOCK_ID>", "The block root, or an alias such as `finalized`")] ++ [""]
    else []
  ofLines <|
    [about command, "", "Usage: " ++ program ++ " " ++ command.name ++ usage command, ""]
      ++ arguments ++ ["Options:"]
      ++ glossary (command.options.map optionRow ++ [("-h, --help", "Print help")])

/-- What the program does, in short or at length. -/
def summary (long : Bool) : List String :=
  if long then
    ["Fetches light client bootstraps and updates from a set of redundant beacon nodes.",
      "The first node to answer decides; the result is printed as canonical JSON."]
  else ["Light client fetcher - Ethereum sync committee data from several beacon nodes"]

/-- The flags of the program, in short or at length. -/
def flags (long : Bool) : List String :=
  let version := ("-V, --version", "Print version")
  if long then
    below ("-h, --help", "Print help (see a summary with '-h')") ++ [""] ++ below version
  else columns [("-h, --help", "Print help (see more with '--help')"), version]

/-- What the command that gives help does. -/
def aboutHelp : String := "Print this message or the help of the given subcommand(s)"

/-- The help of the program, in short or at length. -/
def ofProgram (long : Bool) : String :=
  let commands :=
    Command.all.map (fun command => (command.name, about command)) ++ [(Args.helpName, aboutHelp)]
  ofLines <|
    summary long ++ ["", "Usage: " ++ program ++ " <COMMAND>", "", "Commands:"]
      ++ columns commands ++ ["", "Options:"] ++ flags long

/-- The help of the command that gives help. -/
def ofHelp : String :=
  ofLines <|
    [aboutHelp, "", "Usage: " ++ program ++ " " ++ Args.helpName ++ " [COMMAND]...", "",
      "Arguments:"]
      ++ columns [("[COMMAND]...", "Print help for the subcommand(s)")]

/-- The help on a topic. -/
def ofTopic : HelpTopic → String
  | .program long => ofProgram long
  | .command command => ofCommand command
  | .help => ofHelp

end BeaconLight.Help
