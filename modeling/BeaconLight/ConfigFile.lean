import BeaconLight.Json.Reader
import BeaconLight.Text.Utf8

/-!
# Configuration files

A configuration file is a JSON text. Reading one fails when there is no such file or it is
not UTF-8, when the text is not a configuration, and when the configuration is not valid.
-/

namespace BeaconLight.ConfigFile

/-- Why a configuration file cannot be used. -/
inductive Error (ε : Type)
  | unreadable (path : String)
  | malformed (cause : Json.ReadError)
  | invalid (cause : ε)
  deriving DecidableEq, Repr

/-- The wording of an error, with that of an invalid configuration given. -/
def Error.message {ε : Type} (invalidMessage : ε → String) : Error ε → String
  | .unreadable path => "Failed to read config file '" ++ path ++ "'"
  | .malformed _ => "Failed to parse JSON configuration"
  | .invalid cause => invalidMessage cause

/-- Reads the file at a path, whose content is given if there is such a file. -/
def read {α ε : Type} (reader : Json.Reader α) (validate : α → Except ε Unit) (path : String)
  (content : Option (List UInt8)) : Except (Error ε) α := do
  let some bytes := content | throw (.unreadable path)
  if !Utf8.isWellFormed bytes then throw (.unreadable path)
  let config ← (reader.run bytes).mapError .malformed
  (validate config).mapError .invalid
  return config

end BeaconLight.ConfigFile
