import Extraction.Bindings
import Extraction.Json.Writer
import Extraction.Yaml.Writer

/-!
# Reports

The names that a program binds, written out with their values.

* `Report.Format` are the formats of reports.
* `Report.write?` writes a report, if its values can be written in the format.
-/

namespace Extraction

/-- A value of JSON for a value that is written out. -/
def Json.Value.ofPlain : Plain → Json.Value
  | .leaf none => .null
  | .leaf (some s) => .text s
  | .list items => .list (ofItems items)
where
  /-- Values of JSON for some values that are written out. -/
  ofItems : List Plain → List Json.Value
    | [] => []
    | item :: items => ofPlain item :: ofItems items

namespace Report

/-- A format of reports. -/
inductive Format where
  | json
  | yaml
deriving DecidableEq, Repr

namespace Format

/-- Every format. -/
def all : List Format := [.json, .yaml]

/-- The name of a format. -/
def name : Format → String
  | .json => "json"
  | .yaml => "yaml"

/-- The format of a name. -/
def ofName? (name : String) : Option Format := all.find? fun format => format.name == name

end Format

/-- Names with plain values in a format. -/
def write (format : Format) (entries : List (String × Plain)) : String :=
  match format with
  | .json =>
    (Json.Value.object (entries.map fun (name, value) => (name, .ofPlain value))).lines ++ "\n"
  | .yaml => Yaml.write entries

/-- Whether a format has a form for a value. In YAML there is none for the declaration of an
encoding. -/
def Format.admits {ν : Type} (format : Format) (value : Value ν) : Bool :=
  format == .json || !value.leaves.any Datum.isEncoding

/-- Names with their values in a format that has a form for all of them. -/
def write? {ν : Type} [Node ν] (format : Format) (entries : List (String × Value ν)) :
    Option String :=
  if entries.all fun entry => format.admits entry.2 then
    some (write format (entries.map fun (name, value) => (name, value.plain)))
  else none

end Report

end Extraction
