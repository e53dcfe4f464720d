import RowScript.Json.Tree
import RowScript.Text.Quoted

/-!
Why a text is not the JSON form of what is asked for. Either it is no JSON, or
it ends too early, or it is fine so far but of the wrong shape.
-/

namespace RowScript.Json

/-- What stands where something else was expected. -/
inductive Found where
  | null
  | bool (b : Bool)
  | integer (n : Int)
  | float (x : Binary64)
  | text (content : String)
  | sequence
  | map
deriving DecidableEq

def Found.describe : Found → String
  | null => "null"
  | bool b => "boolean `" ++ String.ofList (boolText b) ++ "`"
  | integer n => "integer `" ++ n.repr ++ "`"
  | float x => "floating point `" ++ String.ofList x.jsonNumber ++ "`"
  | text content => "string " ++ String.ofList (Text.quoted content.toList)
  | sequence => "sequence"
  | map => "map"

inductive Mismatch where
  | wrongType (found : Found) (expected : String)
  | wrongLength (length : Nat) (expected : String)
  | missingField (name : String)
  | duplicateField (name : String)
  | unknownVariant (name : String) (known : List String)
deriving DecidableEq

def Mismatch.message : Mismatch → String
  | wrongType found expected => "invalid type: " ++ found.describe ++ ", expected " ++ expected
  | wrongLength length expected =>
    "invalid length " ++ length.repr ++ ", expected " ++ expected
  | missingField name => "missing field `" ++ name ++ "`"
  | duplicateField name => "duplicate field `" ++ name ++ "`"
  | unknownVariant name known =>
    "unknown variant `" ++ name ++ "`, expected one of " ++
      ", ".intercalate (known.map fun k => "`" ++ k ++ "`")

inductive Error where
  /-- The text is no JSON. -/
  | malformed
  /-- The text ends inside a value. -/
  | unfinished
  /-- The text is JSON so far, but of the wrong shape, which shows when so many
  characters are left. -/
  | mismatch (cause : Mismatch) (left : Nat)
deriving DecidableEq

/-- The line of the end of a text, from one, and the number of bytes that it has. -/
def lastLine (text : List Char) : Nat × Nat :=
  (text.count '\n' + 1, Text.byteLength (text.reverse.takeWhile (· != '\n')))

/-- The error as a message about the text it was found in. -/
def Error.describe (source : String) : Error → String
  | malformed => "no JSON text"
  | unfinished => "the text ends inside a value"
  | mismatch cause left =>
    let (line, column) := lastLine (source.toList.take (source.length - left))
    cause.message ++ " at line " ++ line.repr ++ " column " ++ column.repr

end RowScript.Json
