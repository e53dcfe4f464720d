import RowScript.Calendar.Rfc3339
import RowScript.Decimal.Layout
import RowScript.Token.Basic

/-!
The values of columns. A map keeps its entries in ascending order of the keys.
-/

namespace RowScript

inductive Value where
  | null
  | bool (b : Bool)
  | int (n : Int64)
  | float (x : Binary64)
  | text (content : String)
  | timestamp (t : Instant)
  | array (items : List Value)
  | map (entries : List (String × Value))

namespace Value

def isNull : Value → Bool
  | null => true
  | _ => false

/-- The word for the kind of a value. -/
def kind : Value → String
  | null => "null"
  | bool _ => "boolean"
  | int _ => "int"
  | float _ => "float"
  | text _ => "string"
  | timestamp _ => "timestamp"
  | array _ => "array"
  | map _ => "map"

def text? : Value → Option String
  | text content => some content
  | _ => none

def timestamp? : Value → Option Instant
  | timestamp t => some t
  | _ => none

mutual

/-- The text that stands for a value in messages. -/
def display : Value → String
  | null => "null"
  | bool b => Token.booleanText b
  | int n => n.toInt.repr
  | float x => x.plain
  | text content => content
  | timestamp t => Rfc3339.write t
  | array items => "[" ++ ", ".intercalate (displayItems items) ++ "]"
  | map entries => "\x7b" ++ ", ".intercalate (displayEntries entries) ++ "\x7d"

def displayItems : List Value → List String
  | [] => []
  | item :: items => item.display :: displayItems items

def displayEntries : List (String × Value) → List String
  | [] => []
  | (key, value) :: entries => (key ++ ": " ++ value.display) :: displayEntries entries

end

end Value

end RowScript
