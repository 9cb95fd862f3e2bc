/-!
# Telemetry

How a node reports on itself: under which name, to which collector, how much it logs and in what
form. All of it can be set by variables of the environment.
-/

namespace NanHost

/-- Variables by name. -/
abbrev Variables := String → Option String

/-- How a node reports on itself. -/
structure Telemetry where
  serviceName : String
  /-- The collector of traces, if there is one. -/
  collector : Option String
  logLevel : String
  consoleOutput : Bool
  jsonLogs : Bool
  printMetricsOnExit : Bool
  environment : String
  deriving DecidableEq

namespace Telemetry

/-- A node that nobody has set up. -/
def standard : Telemetry where
  serviceName := "aware-node"
  collector := none
  logLevel := "info"
  consoleOutput := true
  jsonLogs := false
  printMetricsOnExit := false
  environment := "development"

/-- Whether a text says yes; upper and lower case of ASCII are the same. -/
def saysYes (text : String) : Bool :=
  ["1", "true", "yes", "on"].contains (String.ofList (text.toList.map Char.toLower))

/-- Whether a node runs in a container, by the marks that containers leave. -/
def inContainer (env : Variables) : Bool :=
  (env "KUBERNETES_SERVICE_HOST").isSome || (env "DOCKER_CONTAINER").isSome

/-- What the variables say. In a container logs are in JSON unless said otherwise. -/
def ofVariables (env : Variables) : Telemetry where
  serviceName := (env "OTEL_SERVICE_NAME").getD standard.serviceName
  collector := (env "OTEL_EXPORTER_OTLP_ENDPOINT").filter (· ≠ "")
  logLevel := (env "AWARE_LOG_LEVEL" <|> env "RUST_LOG").getD standard.logLevel
  consoleOutput := ((env "AWARE_CONSOLE_OUTPUT").map saysYes).getD standard.consoleOutput
  jsonLogs := ((env "AWARE_JSON_LOGS").map saysYes).getD (inContainer env)
  printMetricsOnExit :=
    ((env "AWARE_PRINT_METRICS").map saysYes).getD standard.printMetricsOnExit
  environment := (env "AWARE_ENVIRONMENT").getD standard.environment

/-- Whether traces are exported. -/
def exportsTraces (telemetry : Telemetry) : Bool := telemetry.collector.isSome

end Telemetry

end NanHost
