/-!
# Log entries

What the worker reports while it runs: a level, a message and named fields.
-/

namespace OutboxProvisioning.Log

/-- How important an entry is, from the least. -/
inductive Level
  | trace
  | debug
  | info
  | warn
  | error
deriving DecidableEq, Repr

/-- The name of a level. -/
def Level.name : Level → String
  | .trace => "TRACE"
  | .debug => "DEBUG"
  | .info => "INFO"
  | .warn => "WARN"
  | .error => "ERROR"

/-- The value of a field: a text or a number. -/
inductive Field
  | text (s : String)
  | number (n : Nat)
deriving DecidableEq, Repr

/-- The value of a field as a text. -/
def Field.toText : Field → String
  | .text s => s
  | .number n => toString n

/-- Who reports: the program as a whole, the consumer, the provisioning of one event, the reader of
addresses of databases, or the connection to one. -/
inductive Origin
  | program
  | consumer
  | provisioning
  | address
  | connection
deriving DecidableEq, Repr

/-- The name of an origin, by which filters choose. -/
def Origin.target : Origin → String
  | .program => "billing_provisioner"
  | .consumer => "billing_provisioner::adapters::events::outbox_consumer"
  | .provisioning => "billing_provisioner::application::handlers::provisioning::provision_workspace"
  | .address => "sqlx_postgres::options::parse"
  | .connection => "sqlx_core::pool::connection"

/-- One report. -/
structure Entry where
  origin : Origin
  level : Level
  message : String
  fields : List (String × Field)
deriving DecidableEq, Repr

end OutboxProvisioning.Log
