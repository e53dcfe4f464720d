import RowScript.Script.Error

/-!
The arguments of one invocation by name of slot, and their typed readers. A
reader fails when the slot holds nothing, and when it holds another kind of
token than the reader is for.
-/

namespace RowScript

structure Arguments where
  directive : String
  /-- The usage line, for messages. -/
  usage : String
  /-- Slot names with their tokens, in the order of the slots. -/
  values : List (String × Token)
deriving DecidableEq

namespace Arguments

def size (a : Arguments) : Nat := a.values.length

def isEmpty (a : Arguments) : Bool := a.values.isEmpty

def value? (a : Arguments) (slot : String) : Option Token :=
  a.values.lookup slot

def contains (a : Arguments) (slot : String) : Bool :=
  (a.value? slot).isSome

def mismatch (a : Arguments) (slot : String) (expected : TokenKind) (found : Token) :
    ScriptError :=
  .typeMismatch a.directive slot expected found.kind a.usage

/-- What `read` makes of the token in a slot; `expected` names the kind that
`read` is for. -/
def reading {α : Type} (a : Arguments) (slot : String) (expected : TokenKind)
    (read : Token → Option α) : Except ScriptError α :=
  match a.value? slot with
  | none => .error (.missingArgument a.directive slot a.usage)
  | some token =>
    match read token with
    | some x => .ok x
    | none => .error (a.mismatch slot expected token)

end Arguments

namespace Token

def column? : Token → Option String
  | column name => some name
  | _ => none

/-- The names of a list of columns; a single column is a list of one. -/
def columns? : Token → Option (List String)
  | columnList names => some names
  | column name => some [name]
  | _ => none

def identifier? : Token → Option String
  | identifier word => some word
  | _ => none

def text? : Token → Option String
  | text content => some content
  | _ => none

def numeric? : Token → Option Numeric
  | numeric value => some value
  | _ => none

def boolean? : Token → Option Bool
  | boolean value => some value
  | _ => none

end Token

namespace Arguments

def column (a : Arguments) (slot : String) : Except ScriptError String :=
  a.reading slot .column Token.column?

def columns (a : Arguments) (slot : String) : Except ScriptError (List String) :=
  a.reading slot .columnList Token.columns?

def identifier (a : Arguments) (slot : String) : Except ScriptError String :=
  a.reading slot .identifier Token.identifier?

def text (a : Arguments) (slot : String) : Except ScriptError String :=
  a.reading slot .text Token.text?

def numeric (a : Arguments) (slot : String) : Except ScriptError Numeric :=
  a.reading slot .numeric Token.numeric?

def boolean (a : Arguments) (slot : String) : Except ScriptError Bool :=
  a.reading slot .boolean Token.boolean?

end Arguments

end RowScript
