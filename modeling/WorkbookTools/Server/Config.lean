import WorkbookTools.Request.Fields
import WorkbookTools.Server.CommandLine

/-!
# Configuration of the server

A configuration comes from a command line or from plain data.
-/

namespace WorkbookTools

/-- How the server talks to its clients. -/
inductive Transport where
  | stdio
  | sse
  | streamableHttp
  deriving DecidableEq, Repr

namespace Transport

def name : Transport → String
  | stdio => "stdio"
  | sse => "sse"
  | streamableHttp => "streamable-http"

def choices : List (String × Transport) := [stdio, sse, streamableHttp].map fun t => (t.name, t)

end Transport

/-- The configuration of the server. -/
structure ServerConfig where
  root : Option Path
  denied : List String
  logLevel : String
  logFile : Option Path
  engine : EngineChoice
  onConflict : ConflictPolicy
  autoFormula : Bool
  transport : Transport
  host : String
  port : { n : Nat // 1 ≤ n ∧ n ≤ 65535 }
  deriving DecidableEq, Repr

namespace ServerConfig

/-- The port that the server listens on unless another one is chosen. -/
def defaultPort : { n : Nat // 1 ≤ n ∧ n ≤ 65535 } := ⟨8888, by decide⟩

/-- Reads a configuration. -/
def ofDatum (d : Datum) : Except RequestError ServerConfig :=
  d.request "ServerConfig" fun d =>
    ServerConfig.mk <$> d.withDefault "root" none (Datum.toOptional Datum.toPath) <*>
      d.withDefault "deny_globs" [] (Datum.toList Datum.toText) <*>
      d.withDefault "log_level" "INFO" Datum.toText <*>
      d.withDefault "log_file" none (Datum.toOptional Datum.toPath) <*>
      d.withDefault "backend" .auto (Datum.toChoice EngineChoice.choices) <*>
      d.withDefault "on_conflict" .overwrite (Datum.toChoice ConflictPolicy.choices) <*>
      d.withDefault "auto_formula" false Datum.toBoolean <*>
      d.withDefault "transport" .stdio (Datum.toChoice Transport.choices) <*>
      d.withDefault "host" "localhost" Datum.toText <*>
      d.withDefault "port" defaultPort (Datum.toBetween 1 65535)

def datumOfValue : CommandLine.OptionValue → Datum
  | .text s => .text s
  | .integer n => .integer n
  | .dropped => .list []

/-- The data that settings of a command line stand for. -/
def datumOfSettings (s : CommandLine.Settings) : Datum :=
  let optional := fun
    | some v => datumOfValue v
    | none => .null
  .record
    [("root", optional s.root), ("deny_globs", .list (s.denied.map datumOfValue)),
     ("log_level", datumOfValue s.logLevel), ("log_file", optional s.logFile),
     ("backend", datumOfValue s.backend), ("on_conflict", datumOfValue s.onConflict),
     ("auto_formula", .boolean s.autoFormula), ("transport", datumOfValue s.transport),
     ("host", datumOfValue s.host), ("port", datumOfValue s.port)]

def ofSettings (s : CommandLine.Settings) : Except RequestError ServerConfig :=
  ofDatum (datumOfSettings s)

/-- The policy of a configuration. There always is one: without a root, paths have to be
absolute. -/
def policy (c : ServerConfig) : PathPolicy := ⟨c.root, c.denied⟩

end ServerConfig

end WorkbookTools
