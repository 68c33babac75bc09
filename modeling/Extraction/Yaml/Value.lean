import Extraction.Text.Base64
import Extraction.Yaml.Number

/-!
# Values of YAML

What a text denotes: a scalar, or a collection of values.

* `Yaml.Scalar` and `Yaml.Value` are the values.
* `Yaml.Scalar.ofKind` is the scalar of a kind that is written as given.
-/

namespace Extraction.Yaml

/-- A scalar. -/
inductive Scalar where
  /-- Nothing. -/
  | absent
  /-- A text. -/
  | text (text : String)
  /-- Bytes. -/
  | binary (bytes : List UInt8)
  /-- A number, a date or a truth value, as it is written. -/
  | other (kind : Kind) (written : String)
deriving DecidableEq, Repr

/-- A value. -/
inductive Value where
  /-- A scalar. -/
  | scalar (scalar : Scalar)
  /-- A sequence. -/
  | sequence (items : List Value)
  /-- A mapping; each key stands there once. -/
  | mapping (entries : List (Scalar × Value))
  /-- A set; each member stands there once. -/
  | set (members : List Scalar)
  /-- A collection that stands within itself. -/
  | loop

namespace Scalar

/-- The scalar, unless there is a fault. -/
def orFault (fault? : Option Fault) (scalar : Scalar) : Except Fault Scalar :=
  match fault? with
  | some fault => .error fault
  | none => .ok scalar

/-- What is wrong with a truth value. -/
def truthFault? (text : String) : Option Fault :=
  let word := String.ofList (Text.smallLetters text.toList)
  if Kind.truthWords.contains word then none else some (.noTruth text)

/-- What is wrong with a date. A line feed at its end does not count. -/
def dateFault? (text : String) : Option Fault :=
  let cs := text.toList
  let line := if cs.getLast? = some '\n' then cs.dropLast else cs
  match Date.read? line with
  | some date => date.fault?.map .badDate
  | none => some (.noDate text)

/-- The scalar of a kind that is written as given. The two kinds of special keys denote nothing by
themselves. -/
def ofKind (kind : Kind) (text : String) : Except Fault Scalar :=
  match kind with
  | .absent => .ok .absent
  | .text => .ok (.text text)
  | .truth => orFault (truthFault? text) (.other kind text)
  | .integer => orFault (integerFault? text) (.other kind text)
  | .fraction => orFault (fractionFault? text) (.other kind text)
  | .date => orFault (dateFault? text) (.other kind text)
  | .binary =>
    let letters := text.toList
    match if letters.all fun c => c.toNat < 0x80 then Text.Base64.decode? letters else none with
    | some bytes => .ok (.binary bytes)
    | none => .error .malformed
  | .merge => .error .malformed
  | .default => .error .malformed

/-- The text of a scalar that is one, or of bytes that are one. -/
def text? : Scalar → Option String
  | .text s => some s
  | .binary bytes => String.fromUTF8? ⟨bytes.toArray⟩
  | _ => none

end Scalar

namespace Value

/-- The text, if a value is one. -/
def text? : Value → Option String
  | .scalar (.text s) => some s
  | _ => none

/-- The entries of a mapping with a further one. The last entry of a key counts. -/
def put (entries : List (Scalar × Value)) (key : Scalar) (value : Value) :
    List (Scalar × Value) :=
  match entries with
  | [] => [(key, value)]
  | entry :: entries =>
    if entry.1 = key then (key, value) :: entries else entry :: put entries key value

/-- The entries of which the last one of each key counts. -/
def putAll (entries : List (Scalar × Value)) : List (Scalar × Value) :=
  entries.foldl (fun entries (key, value) => put entries key value) []

end Value

end Extraction.Yaml
