import RowScript.Row.Basic
import RowScript.Value.Json

/-!
Rows as JSON: an object for a row, the members in the order of the columns, and
an array for a batch. Of two members with one name the later value counts.
-/

namespace RowScript.Row

def toJson (r : Row) : Json.Tree :=
  .object (Value.entriesToJson r.columns)

/-- A row whose values nest at most `depth` levels. -/
def read (depth : Nat) : Json.Reader Row := fun source =>
  match Json.skipBlank source with
  | [] => .error .unfinished
  | '\x7b' :: rest =>
    let member (row : Row) (name : String) : Json.Reader Row := fun source =>
      match Json.memberValue (Value.read depth) source with
      | .error e => .error e
      | .ok (value, rest) => .ok (row.set name value, rest)
    Json.object member empty rest
  | source => .error (Json.wrongType "an object of column names to values" source)

def allToJson (rows : List Row) : Json.Tree :=
  .array (rows.map toJson)

/-- The rows of a JSON array. The array and the row are the first two levels. -/
def allOfJson (source : String) : Except Json.Error (List Row) :=
  Json.readAll (Json.arrayValue (read (Json.maxDepth - 2))) source.toList

end RowScript.Row
