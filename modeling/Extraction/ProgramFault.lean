import Extraction.Program
import Extraction.Text.Quoted

/-!
# Faults of programs

Why a program cannot be run to its end. Some faults are found when a program is checked, some
when it is run, and most at either stage, in a wording of that stage.
-/

namespace Extraction

/-- Why a program cannot be run to its end: the cases of `FunctionError`, and the statement that
cannot be executed. -/
inductive ProgramFault where
  /-- A statement of this form cannot be run where it stands. -/
  | unexecutable (form : String)
  /-- A function is defined a second time. -/
  | duplicateFunction (function : String)
  /-- A function is invoked that is not defined. -/
  | undefinedFunction (function : String)
  /-- A function returns fewer values than an invocation has targets. -/
  | arity (function : String) (returned wanted : Nat)
  /-- A function is invoked while its own body is run. -/
  | recursiveInvocation (function : String)
  /-- A function returns a name that its body never assigns. -/
  | undefinedName (function name : String)
deriving DecidableEq, Repr

/-- When a fault is found. -/
inductive Stage where
  | checking
  | running
deriving DecidableEq, Repr

namespace ProgramFault

/-- The function that a fault is about. -/
def function : ProgramFault → String
  | .unexecutable _ => ""
  | .duplicateFunction function => function
  | .undefinedFunction function => function
  | .arity function _ _ => function
  | .recursiveInvocation function => function
  | .undefinedName function _ => function

/-- A fault in the words of the `stage` that finds it. -/
def message (stage : Stage) : ProgramFault → String
  | .unexecutable form => "Cannot execute " ++ form ++ " here"
  | .duplicateFunction function =>
    "Function " ++ Text.quoted function ++ " has already been defined"
  | .undefinedFunction function =>
    let advice := match stage with
      | .checking => ". Define it before invoking it."
      | .running => ""
    "Function " ++ Text.quoted function ++ " is undefined" ++ advice
  | .arity function returned wanted =>
    match stage with
    | .checking =>
      "Function " ++ Text.quoted function ++ " returns " ++ toString returned ++
        " values, you expected " ++ toString wanted
    | .running =>
      "Function " ++ Text.quoted function ++ " does not return enough values to unpack. " ++
        "Function returns " ++ toString returned ++ ", you expected " ++ toString wanted
  | .recursiveInvocation function => "Function " ++ Text.quoted function ++ " invokes itself"
  | .undefinedName function name =>
    "Function " ++ Text.quoted function ++ " returns " ++ Text.quoted name ++
      ", which its body never assigns"

/-- The kind of a fault. -/
def kind : ProgramFault → Failure.Kind
  | .unexecutable _ => .execution
  | .duplicateFunction _ => .duplicateFunction
  | .undefinedFunction _ => .undefinedFunction
  | .arity .. => .arity
  | .recursiveInvocation _ => .recursiveInvocation
  | .undefinedName .. => .undefinedName

/-- What `fault` tells beyond its message. -/
def detail (fault : ProgramFault) : Failure.Detail → String
  | .function => fault.function
  | _ => ""

end ProgramFault

end Extraction
