import RowScript.Dictionary
import RowScript.Json.Reader
import RowScript.Value.Basic

/-!
Values as JSON. A timestamp is written as its text and comes back as text. A map
is written in the order of its keys, and read in any order.
-/

namespace RowScript.Value

mutual

def toJson : Value → Json.Tree
  | null => .null
  | bool b => .bool b
  | int n => .int n
  | float x => .float x
  | text content => .text content
  | timestamp t => .text (Rfc3339.write t)
  | array items => .array (itemsToJson items)
  | map entries => .object (entriesToJson entries)

def itemsToJson : List Value → List Json.Tree
  | [] => []
  | item :: items => item.toJson :: itemsToJson items

def entriesToJson : List (String × Value) → List (String × Json.Tree)
  | [] => []
  | (key, value) :: entries => (key, value.toJson) :: entriesToJson entries

end

/-- An integer beyond a signed word is a double. -/
def ofNumber : Json.Number → Value
  | .integer n =>
    match int64? n with
    | some word => int word
    | none => float (Binary64.ofInt n)
  | .float x => float x

def ofScalar : Json.Scalar → Value
  | .null => null
  | .bool b => bool b
  | .number n => ofNumber n
  | .text content => text content

/-- A value that nests at most `depth` levels of arrays and maps. -/
def read : Nat → Json.Reader Value
  | depth, source =>
    match Json.skipBlank source with
    | '[' :: rest =>
      match depth with
      | 0 => .error .malformed
      | depth + 1 =>
        match Json.array (read depth) rest with
        | .error e => .error e
        | .ok (items, rest) => .ok (array items, rest)
    | '\x7b' :: rest =>
      match depth with
      | 0 => .error .malformed
      | depth + 1 =>
        let member (entries : List (String × Value)) (key : String) :
            Json.Reader (List (String × Value)) := fun source =>
          match Json.memberValue (read depth) source with
          | .error e => .error e
          | .ok (value, rest) => .ok (Entries.insert key value entries, rest)
        match Json.object member [] rest with
        | .error e => .error e
        | .ok (entries, rest) => .ok (map entries, rest)
    | source =>
      match Json.scalar source with
      | .error e => .error e
      | .ok (x, rest) => .ok (ofScalar x, rest)

def ofJson (source : String) : Except Json.Error Value :=
  Json.readAll (read Json.maxDepth) source.toList

end RowScript.Value
