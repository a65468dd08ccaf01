import BeaconLight.Node.Client
import BeaconLight.Pool.Session
import BeaconLight.Require
import BeaconLight.Response.Encoding

/-!
# Configuration of a pool

A configuration lists the backends of a pool with their URLs, the time limit, and the
encoding to ask for. `validate` reports the first thing that is wrong with it: the backends
one after another, then names and URLs that are not distinct, then the time limit. Blanks
around names and URLs do not count, nor do slashes at the end of a URL. The checks take how URLs
are read as an argument, and `validate` reads them as `Url.parse?` does.
-/

namespace BeaconLight

/-- A backend as it is configured. -/
structure BackendConfig where
  name : String
  url : String
  deriving DecidableEq, Repr

/-- A pool as it is configured; the limit is in milliseconds. -/
structure PoolConfig where
  backends : List BackendConfig
  limit : Nat
  encoding : Encoding
  deriving DecidableEq, Repr

/-- What is wrong with the configuration of a pool. -/
inductive PoolConfigError
  | noBackends
  /-- The name of the backend at an index is blank. -/
  | noName (index : Nat)
  | badUrl (backend : BackendConfig)
  | badScheme (backend : BackendConfig)
  | duplicateNames (distinct total : Nat)
  | duplicateUrls (distinct total : Nat)
  | badLimit (limit : Nat)
  deriving DecidableEq, Repr

namespace BackendConfig

/-- The fields of a backend. -/
def fields :
  Json.FieldReaders (String × String × Unit) (Option String × Option String × Unit) :=
  .cons (.required "name" .text) <| .cons (.required "url" .text) .nil

/-- Reads a backend. -/
def reader : Json.Reader BackendConfig := fun o => do
  let (name, url, ()) ← Json.Reader.record "BackendConfig" fields o
  return ⟨name, url⟩

/-- A backend as JSON. -/
def toJson (b : BackendConfig) : Json :=
  .object [("name", .string b.name), ("url", .string b.url)]

/-- The name without blanks around it. -/
def trimmedName (b : BackendConfig) : String :=
  Text.trim b.name

/-- The URL without blanks around it and without slashes at its end. -/
def trimmedUrl (b : BackendConfig) : String :=
  Node.trimSlashes (Text.trim b.url)

/-- The node that the URL names. -/
def node (b : BackendConfig) (encoding : Encoding) : Node :=
  .ofUrl (Text.trim b.url) encoding

/-- Checks the backend at an index: its name, then its URL. -/
def validateWith (parse? : String → Option Url) (index : Nat) (b : BackendConfig) :
  Except PoolConfigError Unit := do
  require (b.trimmedName ≠ "") (.noName index)
  match parse? (Text.trim b.url) with
  | none => throw (.badUrl b)
  | some url => require (url.scheme = "http" ∨ url.scheme = "https") (.badScheme b)

end BackendConfig

namespace PoolConfig

/-- The limit of a configuration that gives none. -/
def defaultLimit : Nat := 5000

/-- The least limit. -/
def leastLimit : Nat := 10

/-- The greatest limit. -/
def greatestLimit : Nat := 60000

/-- The fields of a pool. -/
def fields :
  Json.FieldReaders (List BackendConfig × Nat × Encoding × Unit)
    (Option (List BackendConfig) × Option Nat × Option Encoding × Unit) :=
  .cons (.required "backends" (.list BackendConfig.reader)) <|
  .cons (.optional "backend_timeout_ms" .word defaultLimit) <|
  .cons (.optional "encoding" Encoding.reader .ssz) .nil

/-- Reads a pool. -/
def reader : Json.Reader PoolConfig := fun o => do
  let (backends, limit, encoding, ()) ← Json.Reader.record "MultiClientConfig" fields o
  return ⟨backends, limit, encoding⟩

/-- A pool as JSON. -/
def toJson (c : PoolConfig) : Json :=
  .object [
    ("backends", .array (c.backends.map BackendConfig.toJson)),
    ("backend_timeout_ms", .number (.natural c.limit)),
    ("encoding", c.encoding.toJson)]

/-- The nodes of a pool with their names, in order. -/
def nodes (c : PoolConfig) : List (String × Node) :=
  c.backends.map fun b => (b.name, b.node c.encoding)

/-- The number of distinct elements of a list. -/
def countDistinct (xs : List String) : Nat :=
  xs.eraseDups.length

/-- Checks backends from an index on. -/
def validateBackends (parse? : String → Option Url) :
  Nat → List BackendConfig → Except PoolConfigError Unit
  | _, [] => .ok ()
  | index, b :: rest => do
    b.validateWith parse? index
    validateBackends parse? (index + 1) rest

/-- Checks a configuration, given how URLs are read. -/
def validateWith (parse? : String → Option Url) (c : PoolConfig) :
  Except PoolConfigError Unit := do
  let total := c.backends.length
  let names := countDistinct (c.backends.map BackendConfig.trimmedName)
  let urls := countDistinct (c.backends.map BackendConfig.trimmedUrl)
  require (!c.backends.isEmpty) .noBackends
  validateBackends parse? 0 c.backends
  require (names = total) (.duplicateNames names total)
  require (urls = total) (.duplicateUrls urls total)
  require (leastLimit ≤ c.limit ∧ c.limit ≤ greatestLimit) (.badLimit c.limit)

/-- Checks a configuration. -/
def validate (c : PoolConfig) : Except PoolConfigError Unit :=
  c.validateWith Url.parse?

/-- The pool of a configuration over a network. -/
def pool (c : PoolConfig) (transport : Transport) : Except PoolError Pool :=
  Pool.ofBackends (c.nodes.map fun (name, node) => ⟨name, fun _ r => node.ask transport r⟩) c.limit

end PoolConfig

/-- The wording of a configuration error. -/
def PoolConfigError.message : PoolConfigError → String
  | .noBackends => "At least one backend must be specified"
  | .noName index => "Backend at index " ++ Text.decimal index ++ " must have a name"
  | .badUrl b => "Backend '" ++ b.name ++ "' has an invalid url '" ++ b.url ++ "'"
  | .badScheme b =>
    "Backend '" ++ b.name ++ "' url must start with 'http://' or 'https://': '" ++ b.url ++ "'"
  | .duplicateNames distinct total =>
    "Duplicate backend names found: " ++ Text.decimal distinct ++ " unique out of "
      ++ Text.decimal total ++ " total"
  | .duplicateUrls distinct total =>
    "Duplicate backend urls found: " ++ Text.decimal distinct ++ " unique out of "
      ++ Text.decimal total ++ " total"
  | .badLimit limit =>
    "Backend timeout must be between " ++ Text.decimal PoolConfig.leastLimit ++ "ms and "
      ++ Text.decimal PoolConfig.greatestLimit ++ "ms, got " ++ Text.decimal limit ++ "ms"

end BeaconLight
