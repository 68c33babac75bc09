import Extraction.Check
import Extraction.Program.Description
import Extraction.Settings
import Extraction.Yaml.Meaning

/-!
# Commands

What a user can ask for on the command line, and what is answered.

* `Command` are the commands, and `Command.ofArguments?` reads one.
* `Command.answer` is the answer to a command, for given files.
-/

namespace Extraction

/-- A command. Each may name a file with settings. -/
inductive Command where
  /-- To list the statements of a program. -/
  | parse (file : String) (settings : Option String)
  /-- To check a program. -/
  | check (file : String) (settings : Option String)
  /-- To run a program against a page, and to report in a format. -/
  | run (file page : String) (format settings : Option String)
  /-- To tell the version. -/
  | version
deriving DecidableEq, Repr

namespace Command

/-! ## Arguments -/

/-- An option of a command. -/
inductive Choice where
  /-- The format of the report. -/
  | format
  /-- The file with the settings. -/
  | settings
deriving DecidableEq, Repr

/-- What an argument is. -/
inductive Argument where
  /-- An argument that counts by its place. -/
  | place (text : String)
  /-- An option, and its value if the argument holds it as well. -/
  | choice (choice : Choice) (value : Option String)
  /-- The end of the options. -/
  | endOfChoices
  /-- An option that there is not. -/
  | unknown
deriving DecidableEq, Repr

/-- The option of a name. -/
def choiceOf (name : List Char) (value : Option (List Char)) : Argument :=
  let value := value.map String.ofList
  if name = "--format".toList ∨ name = "-f".toList then .choice .format value
  else if name = "--config".toList ∨ name = "-c".toList then .choice .settings value
  else .unknown

/-- What a text is as an argument. Behind two dashes stands a name and perhaps an equals sign with
a value, and behind one a letter and perhaps a value. -/
def argument (text : String) : Argument :=
  match text.toList with
  | ['-', '-'] => .endOfChoices
  | '-' :: '-' :: cs =>
    let name := cs.takeWhile (· != '=')
    let value := match cs.dropWhile (· != '=') with
      | [] => none
      | _ :: value => some value
    choiceOf ('-' :: '-' :: name) value
  | '-' :: c :: cs => choiceOf ['-', c] (if cs.isEmpty then none else some cs)
  | _ => .place text

/-- The arguments of a command, sorted. -/
structure Arguments where
  /-- Those that count by their place. -/
  places : List String
  /-- The options with their values, the last one first. -/
  choices : List (Choice × String)

/-- Sorts arguments, if there is none that is wrong. -/
def Arguments.read? : List String → Option Arguments
  | [] => some ⟨[], []⟩
  | text :: texts =>
    match argument text with
    | .endOfChoices => some ⟨texts, []⟩
    | .unknown => none
    | .place text => (read? texts).map fun all => { all with places := text :: all.places }
    | .choice choice (some value) => (read? texts).map (add choice value)
    | .choice choice none =>
      match texts with
      | [] => none
      | value :: texts => (read? texts).map (add choice value)
where
  /-- Arguments with an option in front of them. -/
  add (choice : Choice) (value : String) (all : Arguments) : Arguments :=
    { all with choices := all.choices ++ [(choice, value)] }

/-- The command of a name with some arguments, if they fit. Of an option that is given twice the
last value counts. -/
def ofNamed? (name : String) (texts : List String) : Option Command := do
  let all ← Arguments.read? texts
  let settings := all.choices.lookup .settings
  let format := all.choices.lookup .format
  match name, all.places with
  | "parse", [file] => if format.isNone then some (.parse file settings) else none
  | "check", [file] => if format.isNone then some (.check file settings) else none
  | "run", [file, page] => some (.run file page format settings)
  | "version", [] => if all.choices.isEmpty then some .version else none
  | _, _ => none

/-- The command of some arguments, if they are one. -/
def ofArguments? : List String → Option Command
  -- There are no options in front of the name, but their end may be marked there.
  | "--" :: name :: texts => ofNamed? name texts
  | name :: texts => ofNamed? name texts
  | [] => none

/-- The file with the settings that a command names. -/
def settings? : Command → Option String
  | .parse _ settings => settings
  | .check _ settings => settings
  | .run _ _ _ settings => settings
  | .version => none

/-- The paths of the files that a command may read. -/
def paths (command : Command) (surrounding : Option String) : List String :=
  (Settings.path? command.settings? surrounding).toList ++
    match command with
    | .parse file _ => [Path.shown file]
    | .check file _ => [Path.shown file]
    | .run file page _ _ => [Path.shown file, Path.shown page]
    | .version => []

/-! ## Answers -/

/-- A failure that a command does not tell in its own words. -/
inductive Abort where
  /-- A selector of the program is none. -/
  | badSelector (fault : Selector.Fault)
  /-- A number of the program has too many digits, `count` of them. -/
  | numberTooLong (count : Nat)
  /-- There is no page to run the program against. -/
  | noPage (fault : Page.Fault)
  /-- The name of a setting is not a text. -/
  | keyNotText
  /-- A value of the settings is none of the type it is said or seems to have. -/
  | badValue (fault : Yaml.Fault)
  /-- There is something at the path of a file, but no file. -/
  | noFile (fault : Path.Fault)
  /-- A negative number counts beyond the front of the matches. -/
  | outOfRange
  /-- The declaration of an encoding cannot be written in the format of the report. -/
  | encodingInReport
deriving DecidableEq, Repr

/-- A failure in words. -/
def Abort.message : Abort → String
  | .badSelector .malformed => "A selector of the program cannot be read"
  | .badSelector .noElement => "A selector of the program means something else than elements"
  | .numberTooLong count => Text.tooManyDigits count
  | .noPage (.unknownReader name) => "There is no reader of pages of the name " ++ Text.quoted name
  | .noPage .unreadable => "The page cannot be read"
  | .keyNotText => "The name of a setting is not a text"
  | .badValue fault => fault.message
  | .noFile fault => fault.message
  | .outOfRange => "A negative number counts beyond the first match"
  | .encodingInReport => "The declaration of an encoding cannot be written in this format"

/-- The answer to a command. -/
structure Answer where
  /-- The exit code. -/
  code : Nat
  /-- What is written to the output. -/
  output : String
  /-- What is written to the output for errors. -/
  errors : String
  /-- The failure because of which the command was not brought to its end. -/
  abort : Option Abort
deriving DecidableEq, Repr

namespace Answer

/-- The answer that all is well. -/
def success (output : String) : Answer := ⟨0, output, "", none⟩

/-- The answer that something is wrong. -/
def refusal (message : String) : Answer := ⟨1, "", message ++ "\n", none⟩

/-- The answer that a command was not brought to its end, with what was logged before. -/
def aborted (abort : Abort) (logged : String) : Answer := ⟨1, "", logged, some abort⟩

/-- The answer to arguments that are no command. -/
def usage : Answer :=
  ⟨2, "", "Usage: parse FILE | check FILE | run FILE HTML [--format FORMAT] | version, " ++
    "each but the last with [--config FILE]\n", none⟩

end Answer

/-- What is in front of an answer, or an answer before its time. -/
abbrev Step := Except Answer

section

variable (files : Files)

/-- Reads the settings of a command. -/
def readSettings (asked surrounding : Option String) : Step Settings :=
  match Settings.load Yaml.Value.read files asked surrounding with
  | .ok settings => .ok settings
  | .error (.failure failure) => .error (.refusal (failure.text Settings.Fault.message))
  | .error .keyNotText => .error (.aborted .keyNotText "")
  | .error (.badValue fault) => .error (.aborted (.badValue fault) "")
  | .error (.noFile fault) => .error (.aborted (.noFile fault) "")

/-- Reads a file of a command. -/
def readFile (path : String) : Step String :=
  match files.text (Path.shown path) with
  | .ok text => .ok text
  | .error .missing => .error (.refusal ("Error: file not found: " ++ Path.shown path))
  | .error fault => .error (.aborted (.noFile fault) "")

/-- Reads a program. -/
def readProgram (path : String) : Step Program := do
  let source ← readFile files path
  match Extraction.parse source (some (Path.shown path)) with
  | .ok program => .ok program
  -- Only failures of the library's own kinds are told.
  | .error ⟨.tooLong count, _⟩ => .error (.aborted (.numberTooLong count) "")
  | .error failure => .error (.refusal (failure.text SyntaxFault.message))

/-- The statements of a program as a list. -/
def listing (program : Program) : String :=
  "Parsed " ++ toString program.statements.length ++ " statements.\n" ++
    String.join (program.statements.mapIdx fun i statement =>
      "  " ++ toString (i + 1) ++ ". " ++ statement.form ++ ": " ++ statement.describe ++ "\n")

/-- The format of a report: the one that is asked for, unless it is empty, or the one of the
settings. -/
def chooseFormat (settings : Settings) (asked : Option String) : Step Report.Format :=
  match asked with
  | none => .ok settings.reportFormat
  | some name =>
    if name.isEmpty then .ok settings.reportFormat
    else match Report.Format.ofName? name with
      | some format => .ok format
      | none => .error <| .refusal <|
        "Error: unknown format " ++ Text.quoted name ++ ", use json or yaml"

/-- The record of a run that fails. -/
def failedRecord (file message : String) : Log.Record :=
  ⟨.info, "run.failed", "munge.cli", [("file", .text file), ("error", .text message)]⟩

/-- The answer to the run of a program against a page. -/
def runAnswer (settings : Settings) (format : Report.Format) (file : String) (program : Program)
    (page : List Markup.Tree) : Answer :=
  let (result, state) := Extraction.run program (Page.document page)
  let records := state.events.map Run.Event.record
  let logged (records : List Log.Record) : String :=
    Log.written settings.logLevel settings.logFormat records
  match result with
  | .ok env =>
    match Report.write? format env.entries with
    | some report => ⟨0, report, logged records, none⟩
    | none => .aborted .encodingInReport (logged records)
  -- A fault of the program is told as the last record of the log and as the message.
  | .error (.fault failure) =>
    let message := failure.text (ProgramFault.message .running)
    ⟨1, "", logged (records ++ [failedRecord (Path.shown file) message]) ++ message ++ "\n", none⟩
  | .error .outOfRange => .aborted .outOfRange (logged records)
  | .error (.refused refusal) => .aborted (.badSelector refusal.fault) (logged records)

/-- The answer to a command that is not one before its time. -/
def steps (surrounding : Option String) : Command → Step Answer
  | .version => .ok (.success "0.1.0\n")
  | .parse file settings => do
    let _ ← readSettings files settings surrounding
    let program ← readProgram files file
    pure (.success (listing program))
  | .check file settings => do
    let _ ← readSettings files settings surrounding
    let program ← readProgram files file
    match Extraction.check program with
    | .ok () => pure (.success "OK\n")
    | .error failure => .error (.refusal (failure.text (ProgramFault.message .checking)))
  | .run file page format settings => do
    -- The page is read last, so a fault of the program is told before one of the page.
    let settings ← readSettings files settings surrounding
    let format ← chooseFormat settings format
    let program ← readProgram files file
    let source ← readFile files page
    match Page.ofSource settings.reader source with
    | .ok page => pure (runAnswer settings format file program page)
    | .error fault => .error (.aborted (.noPage fault) "")

/-- The answer to a command. -/
def answer (surrounding : Option String) (command : Command) : Answer :=
  match steps files surrounding command with
  | .ok answer => answer
  | .error answer => answer

end

end Command

end Extraction
