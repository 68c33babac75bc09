import Extraction.Text.Blank

/-!
# Paths and files

Paths are texts. Two paths that differ only in slashes and steps that add nothing are shown in one
way.

* `Path.shown` is a path as it is shown.
* `Files` are the files that can be read, and `Files.ofTable` those below a folder.
-/

namespace Extraction

namespace Path

/-- The slashes at the front of a path that starts at the root. Two of them are kept, and more
mean the same as one. -/
def root (cs : List Char) : String :=
  match (cs.takeWhile (· == '/')).length with
  | 0 => ""
  | 2 => "//"
  | _ => "/"

/-- The steps of a path, without those that stay where they are. -/
def steps (cs : List Char) : List String :=
  ((Text.wordsBy (· == '/') cs).filter (· != ['.'])).map String.ofList

/-- A path as it is shown. -/
def shown (path : String) : String :=
  let cs := path.toList
  let all := root cs ++ String.intercalate "/" (steps cs)
  if all.isEmpty then "." else all

/-- Why there is no file at a path. -/
inductive Fault where
  /-- There is nothing. -/
  | missing
  /-- There is a folder. -/
  | folder
  /-- There can be nothing, as the path or a step is too long. -/
  | tooLong
deriving DecidableEq, Repr

/-- A fault in words. -/
def Fault.message : Fault → String
  | .missing => "There is no file at the path"
  | .folder => "There is a folder at the path"
  | .tooLong => "The path is too long"

end Path

/-- The files that can be read, by their paths as they are shown. -/
structure Files where
  /-- What a file contains. -/
  content : String → Except Path.Fault String

namespace Files

/-- The text of a file, with a line feed at the end of each line. -/
def text (files : Files) (path : String) : Except Path.Fault String :=
  (files.content path).map fun text => String.ofList (Text.unifyLines text.toList)

/-! ## The files below a folder -/

/-- The greatest number of bytes of a step. -/
def longestStep : Nat := 255

/-- The greatest number of bytes of a path. -/
def longestPath : Nat := 4095

/-- A place that the steps of a path lead to. -/
inductive Place where
  /-- A place below the folder. -/
  | below (steps : List String)
  /-- A folder above the folder. -/
  | above
deriving DecidableEq, Repr

/-- Files with the steps to them from the folder. -/
abbrev Table := List (List String × String)

/-- Whether there is a folder at a place below: one that something is in. -/
def Table.hasFolder (table : Table) (steps : List String) : Bool :=
  steps.isEmpty || table.any fun file => steps.isPrefixOf file.1 && steps != file.1

/-- The place that a step leads to. A step leads on from folders only. -/
def Table.follow (table : Table) (place : Place) (step : String) : Except Path.Fault Place :=
  match place with
  | .above => if step = ".." then .ok .above else .error .missing
  | .below steps =>
    if !table.hasFolder steps then .error .missing
    else if longestStep < step.utf8ByteSize then .error .tooLong
    else if step != ".." then .ok (.below (steps ++ [step]))
    else if steps.isEmpty then .ok .above
    else .ok (.below steps.dropLast)

/-- What the file at a path contains. Outside of the folder there are folders only. -/
def Table.content (table : Table) (path : String) : Except Path.Fault String := do
  let cs := path.toList
  if longestPath < path.utf8ByteSize then .error .tooLong
  let start : Place := if (Path.root cs).isEmpty then .below [] else .above
  match ← (Path.steps cs).foldlM table.follow start with
  | .above => .error .folder
  | .below steps =>
    if table.hasFolder steps then .error .folder
    else match table.lookup steps with
      | some text => .ok text
      | none => .error .missing

/-- The files of a table with their paths from a folder. -/
def ofTable (files : List (String × String)) : Files :=
  ⟨Table.content (files.map fun (path, text) => (Path.steps path.toList, text))⟩

end Files

end Extraction
