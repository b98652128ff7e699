import OutboxProvisioning.Log.Filter.Directive

/-!
# Why settings are refused
-/

namespace OutboxProvisioning.Settings

/-- Why settings cannot be run. -/
inductive Flaw
  /-- A setting, called by the name of its variable, is empty. -/
  | missing (name : String)
  | databaseUrl
  /-- The least number of connections is above the greatest. -/
  | poolSize
  | poolTooLarge
  | pollInterval
  | batchSize
  | batchTooLarge
  | logFilter (f : Log.Filter.Flaw)
  /-- Logs of production are read by programs, so they have to be JSON. -/
  | prettyProduction
deriving DecidableEq, Repr

/-- The name of a flaw. -/
def Flaw.name : Flaw → String
  | .missing _ => "MissingRequired"
  | .databaseUrl => "InvalidDatabaseUrl"
  | .poolSize => "InvalidPoolSize"
  | .poolTooLarge => "PoolSizeTooLarge"
  | .pollInterval => "InvalidPollInterval"
  | .batchSize => "InvalidBatchSize"
  | .batchTooLarge => "BatchSizeTooLarge"
  | .logFilter _ => "InvalidLogFilter"
  | .prettyProduction => "ProductionRequiresJsonLogs"

/-- The words for a flaw. -/
def Flaw.message : Flaw → String
  | .missing name => "Required configuration missing: " ++ name
  | .databaseUrl => "Invalid database URL format"
  | .poolSize => "Pool min_connections exceeds max_connections"
  | .poolTooLarge => "Pool size exceeds maximum allowed (100)"
  | .pollInterval => "Poll interval must be greater than zero"
  | .batchSize => "Batch size must be greater than zero"
  | .batchTooLarge => "Batch size exceeds maximum allowed (1000)"
  | .logFilter f => "Invalid log filter directive: " ++ f.message
  | .prettyProduction => "Production requires JSON log format"

end OutboxProvisioning.Settings
