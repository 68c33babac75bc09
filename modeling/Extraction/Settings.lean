import Extraction.Extractor
import Extraction.Log.Line
import Extraction.Path
import Extraction.Report
import Extraction.Yaml.Fault
import Extraction.Yaml.Value

/-!
# Settings

What a user may choose once for all programs: what is logged and how, the reader of pages and the
format of reports. Settings come from a file with a mapping of their names to values; those that
it does not name have a default.

* `Settings.ofValue` are the settings that a value of YAML gives.
* `Settings.load` reads them from a file.

Every name and value that is wrong is told at once, in the order of the names.
-/

namespace Extraction

/-- What a user may choose (`Settings`). -/
structure Settings where
  /-- The least level of the records that are logged. -/
  logLevel : Log.Level
  /-- The format of the log. -/
  logFormat : Log.Format
  /-- The name of the reader of pages. -/
  reader : String
  /-- The format of reports. -/
  reportFormat : Report.Format
deriving DecidableEq, Repr

namespace Settings

/-- What is chosen if the user chooses nothing. -/
def standard : Settings := ⟨.warning, .console, Page.readerName, .json⟩

/-- What is wrong with a setting. -/
inductive Problem where
  /-- There is no setting of this name. -/
  | unknown
  /-- The value has to be a text. -/
  | noText
  /-- The value is bytes that are no text. -/
  | noTextInBytes
  /-- The value is none of those there are. -/
  | noChoice
deriving DecidableEq, Repr

/-- A problem in words. -/
def Problem.message : Problem → String
  | .unknown => "there is no such setting"
  | .noText => "the value is not a text"
  | .noTextInBytes => "the bytes are not a text"
  | .noChoice => "the value is none of those there are"

/-- Why there are no settings: the cases of a `ConfigError`. -/
inductive Fault where
  /-- There is no file of the given path. -/
  | missingFile (path : String)
  /-- The text of the file is not YAML. -/
  | malformed
  /-- The text denotes something else than a mapping. -/
  | noMapping
  /-- Some of the settings are wrong. -/
  | invalid (problems : List (String × Problem))
deriving DecidableEq, Repr

/-- A fault in words. -/
def Fault.message : Fault → String
  | .missingFile path => "Config file not found: " ++ path
  | .malformed => "Invalid YAML: the text has no value"
  | .noMapping => "Config must be a mapping of setting names to values"
  | .invalid problems =>
    "Invalid settings: " ++
      String.intercalate "; " (problems.map fun (name, problem) => name ++ ": " ++ problem.message)

/-- Why the reading of settings stops: for a fault, or for a reason that is no `ConfigError`. -/
inductive Stop where
  /-- A fault of the settings. -/
  | failure (failure : Failure Fault)
  /-- A name that is not a text. -/
  | keyNotText
  /-- A value in the file that is none of the type it is said or seems to have. -/
  | badValue (fault : Yaml.Fault)
  /-- A path at which there is something, but no file. -/
  | noFile (fault : Path.Fault)
deriving DecidableEq, Repr

/-- The change that `value` for the setting `name` makes to the others, if it may be chosen. -/
def change (name : String) (value : Yaml.Value) : Except Problem (Settings → Settings) :=
  let choice {α : Type} (choose? : String → Option α) (set : α → Settings → Settings) :
      Except Problem (Settings → Settings) :=
    match value.text?.bind choose? with
    | some a => .ok (set a)
    | none => .error .noChoice
  match name with
  | "log_level" => choice Log.Level.ofName? fun level settings =>
    { settings with logLevel := level }
  | "log_format" => choice Log.Format.ofName? fun format settings =>
    { settings with logFormat := format }
  | "output_format" => choice Report.Format.ofName? fun format settings =>
    { settings with reportFormat := format }
  | "html_parser" =>
    match value with
    | .scalar (.binary bytes) =>
      match (Yaml.Scalar.binary bytes).text? with
      | some reader => .ok fun settings => { settings with reader := reader }
      | none => .error .noTextInBytes
    | value =>
      match value.text? with
      | some reader => .ok fun settings => { settings with reader := reader }
      | none => .error .noText
  | _ => .error .unknown

/-- The problems of `entries`, in the order of the names. -/
def problems (entries : List (String × Yaml.Value)) : List (String × Problem) :=
  let found := entries.filterMap fun (name, value) =>
    match change name value with
    | .ok _ => none
    | .error problem => some (name, problem)
  found.mergeSort fun a b => a.1 ≤ b.1

/-- The `settings` with those of `entries` in place of them. Entries with problems are passed over.
-/
def choose (settings : Settings) (entries : List (String × Yaml.Value)) : Settings :=
  entries.foldl (fun settings (name, value) =>
    match change name value with
    | .ok f => f settings
    | .error _ => settings) settings

/-- The settings that `entries` give, or all their problems. -/
def ofEntries (entries : List (String × Yaml.Value)) : Except Fault Settings :=
  match problems entries with
  | [] => .ok (standard.choose entries)
  | problems => .error (.invalid problems)

/-- The name of a setting, if a key is one. -/
def name? : Yaml.Scalar × Yaml.Value → Option (String × Yaml.Value)
  | (.text name, value) => some (name, value)
  | _ => none

/-- The settings that `value` in the file at `path` gives. Nothing gives the standard ones. -/
def ofValue (path : String) (value : Yaml.Value) : Except Stop Settings :=
  let fail (fault : Fault) : Except Stop Settings := .error (.failure ⟨fault, .file path⟩)
  match value with
  -- An empty file is a file in which nothing is chosen.
  | .scalar .absent => .ok standard
  | .mapping entries =>
    -- A key that is no text is found before any name or value is looked at.
    match entries.mapM name? with
    | none => .error .keyNotText
    | some entries =>
      match ofEntries entries with
      | .ok settings => .ok settings
      | .error fault => fail fault
  | _ => fail .noMapping

section

/- The reader of YAML, which is a matter of its own. -/
variable (read : String → Except Yaml.Fault Yaml.Value)

/-- The settings that `text` in the file at `path` gives, where `read` finds the value of a text. -/
def ofText (path text : String) : Except Stop Settings :=
  match read text with
  | .ok value => ofValue path value
  | .error .malformed => .error (.failure ⟨.malformed, .file path⟩)
  | .error fault => .error (.badValue fault)

/-- The path of the file with the settings, if there is one: the path that is `asked` for, or else
the one that the surroundings name, unless that is empty. -/
def path? (asked surrounding : Option String) : Option String :=
  (asked <|> surrounding.filter fun path => !path.isEmpty).map Path.shown

/-- Reads the settings from their file among `files`, if one is `asked` for or named by the
surroundings (`load_settings`). Without a file they are the standard ones. -/
def load (files : Files) (asked surrounding : Option String) : Except Stop Settings :=
  match path? asked surrounding with
  | none => .ok standard
  | some path =>
    match files.text path with
    | .ok text => ofText read path text
    | .error .missing => .error (.failure ⟨.missingFile path, .file path⟩)
    | .error fault => .error (.noFile fault)

end

end Settings

end Extraction
