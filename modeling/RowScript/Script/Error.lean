import RowScript.Token.Basic
import RowScript.Token.Error

/-!
Why a script, or one directive of it, cannot be configured. An error either
names its line or is raised by a directive that does not know where it stands;
the second kind is given its line once, by whoever knows it.
-/

namespace RowScript

inductive ScriptError where
  | token (line : Nat) (cause : TokenError)
  | unknownDirective (name : String) (line : Nat)
  | statement (line : Nat) (cause : ScriptError)
  | missingArgument (directive slot usage : String)
  | typeMismatch (directive slot : String) (expected found : TokenKind) (usage : String)
  | unexpectedArgument (directive extra usage : String)
  | invalidArgument (directive slot reason : String)
  | invalidDefinition (directive reason : String)
deriving DecidableEq

namespace ScriptError

/-- Whether the error already names a line. -/
def isPlaced : ScriptError → Bool
  | token _ _ | unknownDirective _ _ | statement _ _ => true
  | _ => false

/-- The error with a line. One that names its line already keeps it. -/
def atLine (line : Nat) (e : ScriptError) : ScriptError :=
  if e.isPlaced then e else statement line e

def message : ScriptError → String
  | token line cause => "line " ++ line.repr ++ ": " ++ cause.message
  | unknownDirective name line =>
    "line " ++ line.repr ++ ": unknown directive '" ++ name ++ "'"
  | statement line cause => "line " ++ line.repr ++ ": " ++ cause.message
  | missingArgument directive slot usage =>
    directive ++ ": missing required argument '" ++ slot ++ "' (usage: " ++ usage ++ ")"
  | typeMismatch directive slot expected found usage =>
    directive ++ ": argument '" ++ slot ++ "' expects " ++ expected.name ++ ", found " ++
      found.name ++ " (usage: " ++ usage ++ ")"
  | unexpectedArgument directive extra usage =>
    directive ++ ": unexpected extra argument '" ++ extra ++ "' (usage: " ++ usage ++ ")"
  | invalidArgument directive slot reason =>
    directive ++ ": invalid value for '" ++ slot ++ "': " ++ reason
  | invalidDefinition directive reason =>
    directive ++ ": invalid usage definition: " ++ reason

/-- The messages of the errors behind this one, outermost first. -/
def causes : ScriptError → List String
  | token _ cause => [cause.message]
  | statement _ cause => cause.message :: cause.causes
  | _ => []

end ScriptError

end RowScript
