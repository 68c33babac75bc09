import Extraction.Page
import Extraction.Parser.Grammar
import Extraction.Run.Evaluation

/-!
# Extractors

A program that is read once and run against many pages.

* `Extractor.ofSource` reads the program.
* `Extractor.extract` runs it against the source of a page.
-/

namespace Extraction

/-- The name of the one reader of pages there is. -/
def Page.readerName : String := "html.parser"

/-- The names that mean this reader: its own and two general ones. -/
def Page.readerNames : List String := [readerName, "html", "strict"]

/-- Why there is no page. -/
inductive Page.Fault where
  /-- There is no reader of this name. -/
  | unknownReader (name : String)
  /-- The source cannot be read. -/
  | unreadable
deriving DecidableEq, Repr

/-- The page that a source denotes, for a reader of the given name. -/
def Page.ofSource (reader source : String) : Except Fault (List Markup.Tree) :=
  if readerNames.contains reader then
    match Markup.read? .verbatim source with
    | some page => .ok page
    | none => .error .unreadable
  else .error (.unknownReader reader)

/-- A program with the name of the reader for its pages. -/
structure Extractor where
  /-- The program. -/
  program : Program
  /-- The name of the reader. -/
  reader : String

/-- Why an extraction stops. -/
inductive Extractor.Stop where
  /-- There is no page. -/
  | page (fault : Page.Fault)
  /-- The run stops. -/
  | run (stop : Run.Stop Page.BadSelector)

namespace Extractor

/-- The extractor of a program in a source. -/
def ofSource (source : String) (path : Option String) (reader : String) :
    Except (Failure SyntaxFault) Extractor :=
  (parse source path).map fun program => ⟨program, reader⟩

/-- The names that a program binds on a page. -/
def extract (extractor : Extractor) (source : String) : Except Stop (Run.Env Page.Match) :=
  match Page.ofSource extractor.reader source with
  | .error fault => .error (.page fault)
  | .ok page =>
    match (Extraction.run extractor.program (Page.document page)).1 with
    | .ok env => .ok env
    | .error stop => .error (.run stop)

end Extractor

/-- The names that the program in a source binds on a page. -/
def extract (source page : String) :
    Except (Failure SyntaxFault) (Except Extractor.Stop (Run.Env Page.Match)) :=
  (Extractor.ofSource source none Page.readerName).map fun extractor => extractor.extract page

end Extraction
