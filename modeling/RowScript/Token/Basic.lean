import RowScript.Decimal.Layout
import RowScript.Decimal.Numeral
import RowScript.Text.Basic

/-!
The arguments of a directive as the script writes them: typed literals, their
kinds, and the text that stands for each of them.
-/

namespace RowScript

/-- The kinds of argument that a directive can ask for. -/
inductive TokenKind where
  | column
  | columnList
  | identifier
  | text
  | numeric
  | boolean
deriving DecidableEq

namespace TokenKind

/-- Whether an argument of kind `found` may stand where this kind is asked for. A
single column may stand for a list of columns, and nothing else is widened. -/
def accepts (kind found : TokenKind) : Bool :=
  kind = found || (kind = columnList && found = column)

def name : TokenKind → String
  | column => "column"
  | columnList => "column-list"
  | identifier => "identifier"
  | text => "text"
  | numeric => "numeric"
  | boolean => "boolean"

end TokenKind

/-- A numeric literal: a word if it is written as an integer and fits, otherwise
a double. -/
inductive Numeric where
  | int (n : Int64)
  | float (x : Binary64)
deriving DecidableEq

namespace Numeric

def ofNumeral (n : Numeral) : Numeric :=
  match n.toInt?.bind int64? with
  | some word => int word
  | none => float n.toBinary64

def toBinary64 : Numeric → Binary64
  | int n => Binary64.ofInt n.toInt
  | float x => x

def toInt64? : Numeric → Option Int64
  | int n => some n
  | float _ => none

def display : Numeric → String
  | int n => n.toInt.repr
  | float x => x.plain

end Numeric

inductive Token where
  | column (name : String)
  | columnList (names : List String)
  | identifier (word : String)
  | text (content : String)
  | numeric (value : Numeric)
  | boolean (value : Bool)
deriving DecidableEq

namespace Token

def kind : Token → TokenKind
  | column _ => .column
  | columnList _ => .columnList
  | identifier _ => .identifier
  | text _ => .text
  | numeric _ => .numeric
  | boolean _ => .boolean

/-- The content of a single-quoted text. Backslashes are doubled first, as those that go before
the single quotes are not to be doubled. -/
def escape (content : List Char) : List Char :=
  Text.replace '\'' ['\\', '\''] (Text.replace '\\' ['\\', '\\'] content)

def booleanText (b : Bool) : String :=
  if b then "true" else "false"

def display : Token → String
  | column name => ":" ++ name
  | columnList names => ",".intercalate (names.map (":" ++ ·))
  | identifier word => word
  | text content => "'" ++ String.ofList (escape content.toList) ++ "'"
  | numeric value => value.display
  | boolean value => booleanText value

end Token

end RowScript
