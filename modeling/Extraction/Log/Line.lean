import Extraction.Json.Writer
import Extraction.Log
import Extraction.Program.Description
import Extraction.Text.Quoted

/-!
# Lines of a log

Records of a log as lines, for people or for programs.

* `Log.Record.line` is the line of a record in a format.
* `Log.written` are the lines of the records that matter enough.
-/

namespace Extraction.Log

/-- A format of log lines. -/
inductive Format where
  /-- For people. -/
  | console
  /-- For programs. -/
  | json
deriving DecidableEq, Repr

namespace Format

/-- Every format. -/
def all : List Format := [.console, .json]

/-- The name of a format. -/
def name : Format → String
  | .console => "console"
  | .json => "json"

/-- The format of a name. -/
def ofName? (name : String) : Option Format := all.find? fun format => format.name == name

end Format

namespace Field

/-- A character because of which a text is put in quotes. -/
def needsQuotes (c : Char) : Bool := " \t=\r\n\"'".toList.contains c

/-- A field as people read it. -/
def shown : Field → String
  | .missing => "None"
  | .text s => if s.toList.any needsQuotes then Text.quoted s else s
  | .count n => toString n
  | .texts ss => "[" ++ commaSeparated (ss.map Text.quoted) ++ "]"

/-- A field as a value of JSON. -/
def json : Field → Json.Value
  | .missing => .null
  | .text s => .text s
  | .count n => .number n
  | .texts ss => .list (ss.map .text)

end Field

/-- A text with spaces behind it up to a width. -/
def padded (width : Nat) (text : String) : String := text.pushn ' ' (width - text.length)

/-- The line of a record. For people the level and the event are in columns, and the fields in the
order of their names. -/
def Record.line (format : Format) (record : Record) : String :=
  match format with
  | .console =>
    let fields := record.fields.mergeSort fun a b => a.1 ≤ b.1
    "[" ++ padded 9 record.level.label ++ "] " ++ padded 30 record.event ++
      " [" ++ record.logger ++ "]" ++
      String.join (fields.map fun (name, field) => " " ++ name ++ "=" ++ field.shown)
  | .json =>
    (Json.Value.object <|
      record.fields.map (fun (name, field) => (name, field.json)) ++
        [("event", .text record.event), ("logger", .text record.logger),
          ("level", .text record.level.label)]).line

/-- The lines of the records that weigh as much as a level at least. -/
def written (level : Level) (format : Format) (records : List Record) : String :=
  String.join <|
    (records.filter fun record => level.weight ≤ record.level.weight).map fun record =>
      record.line format ++ "\n"

end Extraction.Log
