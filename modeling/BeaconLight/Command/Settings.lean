import BeaconLight.ConfigFile
import BeaconLight.Pool.Config

/-!
# Settings

The settings of the command line program: how much is logged, and the pool to fetch from. A
level is named by its word in any case or by its number, and no text at all stands for the
usual level.
-/

namespace BeaconLight

/-- How much is logged. -/
inductive LogLevel
  | error
  | warn
  | info
  | debug
  | trace
  deriving DecidableEq, Repr, Inhabited

namespace LogLevel

/-- The levels from the one that logs least on. -/
def all : List LogLevel := [.error, .warn, .info, .debug, .trace]

/-- The name of a level. -/
def name : LogLevel → String
  | .error => "ERROR"
  | .warn => "WARN"
  | .info => "INFO"
  | .debug => "DEBUG"
  | .trace => "TRACE"

/-- The number of a level. -/
def number : LogLevel → Nat
  | .error => 1
  | .warn => 2
  | .info => 3
  | .debug => 4
  | .trace => 5

/-- The level that a text names by word or number. -/
def parse? (text : String) : Option LogLevel :=
  all.find? fun level =>
    Text.equalsIgnoringCase text level.name
      || (match Text.unsigned? Json.wordLimit text with
          | .ok n => n == level.number
          | .error _ => false)

end LogLevel

/-- The settings of the program. -/
structure Settings where
  logLevel : String
  beacon : PoolConfig
  deriving DecidableEq, Repr

/-- What is wrong with settings. -/
inductive SettingsError
  | badLogLevel (text : String)
  | badPool (cause : PoolConfigError)
  deriving DecidableEq, Repr

/-- The wording of an error in settings. -/
def SettingsError.message : SettingsError → String
  | .badLogLevel text =>
    "invalid log level '" ++ text ++ "'. Valid levels are: TRACE, DEBUG, INFO, WARN, ERROR"
  | .badPool _ => "invalid beacon config"

namespace Settings

/-- The fields of settings. -/
def fields :
  Json.FieldReaders (String × PoolConfig × Unit) (Option String × Option PoolConfig × Unit) :=
  .cons (.optional "log_level" .text "info") <|
  .cons (.required "beacon" PoolConfig.reader) .nil

/-- Reads settings. -/
def reader : Json.Reader Settings := fun o => do
  let (logLevel, beacon, ()) ← Json.Reader.record "FetcherConfig" fields o
  return ⟨logLevel, beacon⟩

/-- Settings as JSON. -/
def toJson (s : Settings) : Json :=
  .object [("log_level", .string s.logLevel), ("beacon", s.beacon.toJson)]

/-- Checks the level and then the pool. -/
def validate (s : Settings) : Except SettingsError Unit := do
  require (s.logLevel = "" ∨ (LogLevel.parse? s.logLevel).isSome) (.badLogLevel s.logLevel)
  s.beacon.validate.mapError .badPool

/-- The level that is logged at. -/
def level (s : Settings) : LogLevel :=
  (LogLevel.parse? s.logLevel).getD .info

/-- Why a settings file cannot be used. -/
abbrev FileError : Type := ConfigFile.Error SettingsError

/-- Reads the settings file at a path. -/
def ofFile (path : String) (content : Option (List UInt8)) : Except FileError Settings :=
  ConfigFile.read reader validate path content

end Settings

end BeaconLight
