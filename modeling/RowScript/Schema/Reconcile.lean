import RowScript.Pipeline.Error
import RowScript.Row.Basic
import RowScript.Schema.Basic

/-!
Fitting rows to a schema. Every field takes the value of the column of its name,
turned into its type; a column that is missing or null fits only a nullable
field, and columns that the schema does not name are left out. A batch fits if
all its rows do.
-/

namespace RowScript

namespace Value

/-- The truth value that a text stands for, in any case of letters. -/
def boolOfText? (content : String) : Option Bool :=
  let word := String.ofList (Text.lower (Text.trim content.toList))
  if word = "true" then some true
  else if word = "false" then some false
  else none

/-- The value turned into a type, if the type can hold it. Texts are read without
the white space around them. -/
def coerce? : FieldType → Value → Option Value
  | .boolean, bool b => some (bool b)
  | .boolean, text content => (boolOfText? content).map bool
  | .int, int n => (int32? n.toInt).map int
  | .int, text content => ((integer? (Text.trim content.toList)).bind int32?).map int
  | .long, int n => some (int n)
  | .long, text content => ((integer? (Text.trim content.toList)).bind int64?).map int
  | .float, int n | .double, int n => some (float (.ofInt n.toInt))
  | .float, float x | .double, float x => some (float x)
  | .float, text content | .double, text content =>
    (Binary64.ofText? (Text.trim content.toList)).map float
  | .string, array _ | .string, map _ => none
  | .string, value => some (text value.display)
  | .timestamp, timestamp t => some (timestamp t)
  | .timestamp, text content => (Rfc3339.read? (Text.trim content.toList)).map timestamp
  | .timestamp, int n => (Instant.ofMillis? n.toInt).map timestamp
  | _, _ => none

end Value

namespace Schema

/-- What keeps a value out of a field. -/
inductive Misfit where
  | missing
  | unconvertible (value : Value) (type : FieldType)

def Misfit.reason : Misfit → String
  | missing => "missing value for non-nullable field"
  | unconvertible value type =>
    "cannot convert " ++ value.kind ++ " '" ++ value.display ++ "' to " ++ type.label

/-- The value of a field for what its column holds. -/
def fieldValue (field : Field) (held : Option Value) : Except Misfit Value :=
  match held with
  | none | some .null => if field.nullable then .ok .null else .error .missing
  | some value =>
    match value.coerce? field.type with
    | some fitted => .ok fitted
    | none => .error (.unconvertible value field.type)

/-- The entries of a record for the given fields, or the first field that the row
does not fit. `index` is the number of the row, for the error. -/
def reconcileFields (index : Nat) (row : Row) :
    List Field → Except RunError (List (String × Value))
  | [] => .ok []
  | field :: fields =>
    match fieldValue field (row.value? field.name) with
    | .error misfit => .error (.reconcile index field.name misfit.reason)
    | .ok value =>
      match reconcileFields index row fields with
      | .error e => .error e
      | .ok entries => .ok ((field.name, value) :: entries)

/-- The record of one row. -/
def reconcileRow (s : Schema) (index : Nat) (row : Row) : Except RunError Record :=
  match reconcileFields index row s.fields with
  | .error e => .error e
  | .ok entries => .ok ⟨entries⟩

/-- The records of consecutive rows, the first of which has the given number. -/
def reconcileFrom (s : Schema) (index : Nat) : List Row → Except RunError (List Record)
  | [] => .ok []
  | row :: rows =>
    match s.reconcileRow index row with
    | .error e => .error e
    | .ok record =>
      match s.reconcileFrom (index + 1) rows with
      | .error e => .error e
      | .ok records => .ok (record :: records)

/-- The records of a batch, or the first row that does not fit. -/
def reconcile (s : Schema) (rows : List Row) : Except RunError (List Record) :=
  s.reconcileFrom 0 rows

end Schema

end RowScript
