/-!
# Failures

What goes wrong, where, and how it is told. A failure is a fault of some part of the library,
together with the place that it is about.

* `Place` is as much of a place as is known; `Place.label` is how a message starts.
* `Failure` pairs a fault with a place; `Failure.text` is the whole message.
* `Failure.Kind` sorts the faults of all parts into one tree of kinds.
-/

namespace Extraction

/-- A place in a source (`SourceLoc`). -/
structure Location where
  /-- The line, counted from one. -/
  line : Nat
  /-- The number of characters before the place on its line. -/
  column : Nat
  /-- The path of the source, if it came from a file. -/
  path : Option String
deriving DecidableEq, Repr

/-- What a failure knows of the place that it is about. -/
structure Place where
  /-- The line, counted from one. -/
  line : Option Int
  /-- The number of characters before the place on its line. -/
  column : Option Int
  /-- The path of the file. -/
  path : Option String
deriving DecidableEq, Repr

namespace Place

/-- No place at all. -/
def unknown : Place := ⟨none, none, none⟩

/-- The file at `path` as a whole. -/
def file (path : String) : Place := ⟨none, none, some path⟩

/-- The text in front of a message about `place`: path, line and column as far as they are known,
each followed by a colon, and then a space. A column counts only with a line, and an empty path not
at all. -/
def label (place : Place) : String :=
  let path := match place.path with
    | some path => if path.isEmpty then "" else path ++ ":"
    | none => ""
  let line := match place.line, place.column with
    | some line, some column => toString line ++ ":" ++ toString column ++ ":"
    | some line, none => toString line ++ ":"
    | none, _ => ""
  let all := path ++ line
  if all.isEmpty then "" else all ++ " "

end Place

/-- `location` as the place of a failure. -/
def Location.place (location : Location) : Place :=
  ⟨some location.line, some location.column, location.path⟩

/-- The place that a location gives, if there is one (`_loc`). -/
def Place.ofLocation? : Option Location → Place
  | some location => location.place
  | none => .unknown

/-- A fault, and the place that it is about (`MungeError`). -/
structure Failure (φ : Type) where
  /-- What is wrong. -/
  fault : φ
  /-- Where it is wrong. -/
  place : Place
deriving DecidableEq, Repr

/-- The whole message of `failure`, with its fault in the given `wording`. -/
def Failure.text {φ : Type} (failure : Failure φ) (wording : φ → String) : String :=
  failure.place.label ++ wording failure.fault

/-- The kinds of failures: the classes that derive from `MungeError`. -/
inductive Failure.Kind where
  | general
  | parsing
  | lexical
  | unexpectedToken
  | settings
  | execution
  | function
  | duplicateFunction
  | undefinedFunction
  | arity
  | recursiveInvocation
  | undefinedName
deriving DecidableEq, Repr

/-- What a failure may tell beyond its message. -/
inductive Failure.Detail where
  | char
  | expected
  | found
  | function
deriving DecidableEq, Repr

namespace Failure.Kind

/-- Every kind of failure. -/
def all : List Kind :=
  [.general, .parsing, .lexical, .unexpectedToken, .settings, .execution, .function,
    .duplicateFunction, .undefinedFunction, .arity, .recursiveInvocation, .undefinedName]

/-- The kinds that a kind is a case of, from the kind itself up to `MungeError`. -/
def lineage : Kind → List Kind
  | .general => [.general]
  | .parsing => [.parsing, .general]
  | .lexical => [.lexical, .parsing, .general]
  | .unexpectedToken => [.unexpectedToken, .parsing, .general]
  | .settings => [.settings, .general]
  | .execution => [.execution, .general]
  | .function => [.function, .execution, .general]
  | .duplicateFunction => [.duplicateFunction, .function, .execution, .general]
  | .undefinedFunction => [.undefinedFunction, .function, .execution, .general]
  | .arity => [.arity, .function, .execution, .general]
  | .recursiveInvocation => [.recursiveInvocation, .function, .execution, .general]
  | .undefinedName => [.undefinedName, .function, .execution, .general]

/-- What a failure of the given `kind` tells beyond its message. -/
def details (kind : Kind) : List Detail :=
  if kind = .lexical then [.char]
  else if kind = .unexpectedToken then [.expected, .found]
  else if kind.lineage.contains .function then [.function]
  else []

end Failure.Kind

end Extraction
