import NanHost.Node.Config
import NanHost.Report

/-!
# Reports on configurations

The settings of an engine, of telemetry, and of a node.
-/

namespace NanHost.Reported

instance : Reported EngineConfig := ⟨fun config => .object [
  member "transaction_timeout_ms" config.transactionTimeoutMs,
  member "response_grace_ms" config.responseGraceMs,
  member "max_pending_transactions" config.maxPendingTransactions,
  member "tick_interval_ms" config.tickIntervalMs,
  member "command_queue_capacity" config.commandQueueCapacity,
  member "event_queue_capacity" config.eventQueueCapacity]⟩

instance : Reported Telemetry := ⟨fun telemetry => .object [
  member "service_name" telemetry.serviceName,
  member "otlp_endpoint" telemetry.collector,
  member "log_level" telemetry.logLevel,
  member "console_output" telemetry.consoleOutput,
  member "json_logs" telemetry.jsonLogs,
  member "print_metrics_on_exit" telemetry.printMetricsOnExit,
  member "environment" telemetry.environment,
  member "tracing_export_enabled" telemetry.exportsTraces]⟩

instance : Reported NodeConfig := ⟨fun config => .object [
  member "engine" config.engine,
  member "telemetry" config.telemetry,
  member "has_config_path" config.path.isSome]⟩

end NanHost.Reported
