import Extraction.Run.State
import Extraction.Text.Case

/-!
# Log records

What is reported while the program works, as records of a log. A record has a level, the name of
an event, the part of the program that reports it, and fields.

* `Log.Level` are the levels in order of weight.
* `Log.Record` are the records, and `Run.Event.record` is the record of an event of a run.
-/

namespace Extraction

namespace Log

/-- How much a record matters. -/
inductive Level where
  | debug
  | info
  | warning
  | error
  | critical
deriving DecidableEq, Repr

namespace Level

/-- Every level, the lightest first. -/
def all : List Level := [.debug, .info, .warning, .error, .critical]

/-- The weight of a level. -/
def weight : Level → Nat
  | .debug => 10
  | .info => 20
  | .warning => 30
  | .error => 40
  | .critical => 50

/-- The name of a level in a record. -/
def label : Level → String
  | .debug => "debug"
  | .info => "info"
  | .warning => "warning"
  | .error => "error"
  | .critical => "critical"

/-- The name of a level in the settings. -/
def name : Level → String
  | .debug => "DEBUG"
  | .info => "INFO"
  | .warning => "WARNING"
  | .error => "ERROR"
  | .critical => "CRITICAL"

/-- The level of a name, in capitals or not. -/
def ofName? (name : String) : Option Level :=
  all.find? fun level => level.name == Text.capitals name

end Level

/-- What a field of a record holds. -/
inductive Field where
  | missing
  | text (text : String)
  | count (count : Nat)
  | texts (texts : List String)
deriving DecidableEq, Repr

/-- A record. -/
structure Record where
  /-- How much it matters. -/
  level : Level
  /-- The name of the event. -/
  event : String
  /-- The part of the program that reports it. -/
  logger : String
  /-- The fields, in the order of the report. -/
  fields : List (String × Field)
deriving DecidableEq, Repr

/-- A text that may be missing, as a field. -/
def Field.ofText? : Option String → Field
  | some s => .text s
  | none => .missing

end Log

/-- The record of an event of a run. -/
def Run.Event.record (event : Run.Event) : Log.Record :=
  let debug (name : String) (fields : List (String × Log.Field)) : Log.Record :=
    ⟨.debug, name, "munge.executor", fields⟩
  match event with
  | .started path statements =>
    debug "run.start" [("path", .ofText? path), ("statements", .count statements)]
  | .finished path results functions =>
    debug "run.done"
      [("path", .ofText? path), ("results", .count results), ("functions", .count functions)]
  | .defined function returns =>
    debug "function.defined" [("function", .text function), ("returns", .texts returns)]
  | .evaluated function returns =>
    debug "function.evaluated" [("function", .text function), ("returns", .count returns)]
  | .cached function => debug "function.cached" [("function", .text function)]
  | .unassigned function name =>
    ⟨.warning, "function.unassigned_return", "munge.executor",
      [("function", .text function), ("name", .text name)]⟩

end Extraction
