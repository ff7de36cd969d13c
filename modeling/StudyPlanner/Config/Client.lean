import StudyPlanner.Toml.Document
import StudyPlanner.Toml.Typed
import StudyPlanner.Toml.Emit
import StudyPlanner.Remote.Endpoint
/-!
# The client configuration

The configuration chooses the endpoint of the study service. A page served from a local
development host talks to the local endpoint; anything else talks to production.

```
local_endpoint = "http://localhost:8080"
production_endpoint = "https://api.studymap.app"
local_hosts = ["localhost", "127.0.0.1"]
```

Every setting has a default, so an empty file is the default configuration; keys that are no
setting are read (they must be valid TOML) and left alone. A setting of the wrong type is
refused at the first one in the document's order. A host is local when it equals one of the
local hosts up to the case of ASCII letters.
-/

namespace StudyPlanner.Config

open Toml

/-- The endpoints of the study service and the hosts that count as local. -/
structure ClientConfig where
  localEndpoint : String := "http://localhost:8080"
  productionEndpoint : String := "https://api.studymap.app"
  localHosts : List String := ["localhost", "127.0.0.1"]
  deriving DecidableEq, Repr, Inhabited

namespace ClientConfig

/-- The configuration of an empty file. -/
def standard : ClientConfig := {}

/-- The name of the configuration file. -/
def filename : String := "studymap.toml"

/-- Takes one top-level entry of the document into the configuration. -/
def setting (cfg : ClientConfig) (k : Key) (item : Item) : Except TomlError ClientConfig :=
  if k.name = "local_endpoint" then
    (expectString k.span item).map fun s => { cfg with localEndpoint := s }
  else if k.name = "production_endpoint" then
    (expectString k.span item).map fun s => { cfg with productionEndpoint := s }
  else if k.name = "local_hosts" then
    (expectStrings k.span item).map fun hs => { cfg with localHosts := hs }
  else .ok cfg

/-- The configuration a document's top-level table gives. -/
def ofEntries (entries : Entries) : Except TomlError ClientConfig :=
  entries.foldlM (fun cfg e => setting cfg e.1 e.2) {}

/-- Reads a configuration file. -/
def ofToml (text : String) : Except TomlError ClientConfig :=
  match readDocument text with
  | .error e => .error e
  | .ok entries => ofEntries entries

/-- Writes the configuration, every setting included. -/
def toToml (cfg : ClientConfig) : String :=
  keyValueLine "local_endpoint" (stringRepr cfg.localEndpoint) ++
    keyValueLine "production_endpoint" (stringRepr cfg.productionEndpoint) ++
    keyValueLine "local_hosts" (arrayRepr (cfg.localHosts.map stringRepr))

/-- Whether reading the written configuration gives it back. -/
def roundTrips (cfg : ClientConfig) : Bool :=
  match ofToml cfg.toToml with
  | .ok back => decide (back = cfg)
  | .error _ => false

/-- A character with ASCII capitals made small. -/
def asciiLower (c : Char) : Char :=
  if 'A' ≤ c && c ≤ 'Z' then Char.ofNat (c.toNat + 32) else c

/-- Whether two texts are equal up to the case of ASCII letters. -/
def sameIgnoringAsciiCase (a b : String) : Bool :=
  a.toList.map asciiLower = b.toList.map asciiLower

/-- Whether a page served from `host` is on a local development host. -/
def isLocalHost (cfg : ClientConfig) (host : String) : Bool :=
  cfg.localHosts.any (fun h => sameIgnoringAsciiCase h host)

/-- The endpoint for a page served from `host`. -/
def endpointForHost (cfg : ClientConfig) (host : String) : String :=
  if cfg.isLocalHost host then cfg.localEndpoint else cfg.productionEndpoint

/-- The host a page is taken to be served from when no browser says otherwise. -/
def defaultHost : String := "localhost"

/-- The checked endpoint for the default host. -/
def connect (cfg : ClientConfig) : Except Remote.CallError Remote.Endpoint :=
  Remote.Endpoint.ofString (cfg.endpointForHost defaultHost)

end ClientConfig

end StudyPlanner.Config
