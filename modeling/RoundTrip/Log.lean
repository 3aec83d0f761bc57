import RoundTrip.Json.Basic

/-!
# Log records

A log record has a level, a target, which names the part of the program that speaks, and fields.
Records may lie in a span, which has a target, a name and fields as well.
-/

namespace RoundTrip

/-- How much a record matters, the most important first. -/
inductive Level where
  | error | warn | info | debug | trace
  deriving DecidableEq, Inhabited

namespace Level

/-- The name of a level. -/
def name : Level → String
  | .error => "ERROR"
  | .warn => "WARN"
  | .info => "INFO"
  | .debug => "DEBUG"
  | .trace => "TRACE"

/-- The place of a level among the levels, from 1. -/
def rank : Level → Nat
  | .error => 1
  | .warn => 2
  | .info => 3
  | .debug => 4
  | .trace => 5

end Level

/-- The value of a field. -/
inductive FieldValue where
  | bool (b : Bool)
  | int (n : Int)
  | text (t : String)
  deriving DecidableEq, Inhabited

/-- The form of the value of a field. -/
def FieldValue.toJson : FieldValue → Json
  | .bool b => .bool b
  | .int n => .int n
  | .text t => .str t

/-- A log record. -/
structure LogRecord where
  /-- How much it matters. -/
  level : Level
  /-- The part of the program that speaks. -/
  target : String
  /-- Its fields. -/
  fields : List (String × FieldValue)
  /-- The names of its fields that differ from run to run, which are not kept. -/
  fleeting : List String := []
  deriving DecidableEq, Inhabited

/-- The names of all fields of a record. -/
def LogRecord.names (r : LogRecord) : List String := r.fields.map Prod.fst ++ r.fleeting

/-- The record of a message with some fields. -/
def LogRecord.say (level : Level) (target message : String)
    (fields : List (String × FieldValue)) (fleeting : List String := []) : LogRecord :=
  { level, target, fields := ("message", .text message) :: fields, fleeting }

/-- The form of a record. -/
def LogRecord.toJson (r : LogRecord) : Json :=
  .record [("level", .str r.level.name),
    ("fields", .record (r.fields.map fun f => (f.1, f.2.toJson)))]

/-- A stretch of time that log records lie in. -/
structure LogSpan where
  /-- The part of the program that speaks. -/
  target : String
  /-- The name of the span. -/
  name : String
  /-- Its fields; those that differ from run to run have no values. -/
  fields : List (String × Option FieldValue)
  deriving DecidableEq, Inhabited

end RoundTrip
