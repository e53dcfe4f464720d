import RowScript.Calendar.Field
import RowScript.Row.Basic

/-!
What directives do to a single row. A row without the columns that a
transformation needs, or with values of another kind in them, is left as it is;
only renaming can fail, where it would lose a column.
-/

namespace RowScript.Row

/-- Write a part of the timestamp in one column into another column. -/
def extractField (source destination : String) (field : DateField) (r : Row) : Row :=
  match r.value? source with
  | some (.timestamp t) => r.set destination (.int (Int64.ofInt (field.of t)))
  | _ => r

/-- Turn the text of a column into the timestamp that it stands for. The flag
tells that the column holds something that is no text of a timestamp. -/
def parseTimestamp (column : String) (r : Row) : Row × Bool :=
  match r.value? column with
  | none | some .null => (r, false)
  | some (.text content) =>
    match Rfc3339.read? (Text.trim content.toList) with
    | some t => (r.set column (.timestamp t), false)
    | none => (r, true)
  | some _ => (r, true)

/-- Give a column another name, unless a different column already has it. -/
def renameColumn? (source target : String) (r : Row) : Option Row :=
  match r.find? source with
  | none => some r
  | some index =>
    let (done, renamed) := r.rename index target
    if done then some renamed else none

/-- Leave out the columns of the given names. -/
def dropColumns (names : List String) (r : Row) : Row :=
  ⟨r.columns.filter (·.1 ∉ names),
    List.Nodup.sublist (List.filter_sublist.map Prod.fst) r.nodup⟩

/-- Whether a column is missing, null or holds the empty text. -/
def isBlankAt (column : String) (r : Row) : Bool :=
  match r.value? column with
  | none | some .null => true
  | some (.text content) => content.isEmpty
  | some _ => false

/-- Put a text into a blank column. -/
def fillBlank (column content : String) (r : Row) : Row :=
  if r.isBlankAt column then r.set column (.text content) else r

end RowScript.Row
