import RowScript.Value.Json

/-!
Schemas of output: named fields with a type, in order, and records, which have
one value for each field of their schema.
-/

namespace RowScript

inductive FieldType where
  | boolean
  | int
  | long
  | float
  | double
  | string
  | timestamp
deriving DecidableEq

namespace FieldType

def all : List FieldType := [boolean, int, long, float, double, string, timestamp]

/-- The word for a type in a schema. -/
def keyword : FieldType → String
  | boolean => "boolean"
  | int => "int"
  | long => "long"
  | float => "float"
  | double => "double"
  | string => "string"
  | timestamp => "timestamp"

/-- The word for a type in messages. -/
def label : FieldType → String
  | boolean => "Boolean"
  | int => "Int"
  | long => "Long"
  | float => "Float"
  | double => "Double"
  | string => "String"
  | timestamp => "Timestamp"

def ofKeyword? (word : String) : Option FieldType :=
  all.find? (·.keyword == word)

end FieldType

structure Field where
  name : String
  type : FieldType
  nullable : Bool
deriving DecidableEq

structure Schema where
  name : String
  fields : List Field
deriving DecidableEq

def Schema.field? (s : Schema) (name : String) : Option Field :=
  s.fields.find? (·.name == name)

/-- A row that fits a schema: the value of each field, in the order of the
fields. -/
structure Record where
  entries : List (String × Value)

namespace Record

def get? (r : Record) (name : String) : Option Value :=
  r.entries.lookup name

def size (r : Record) : Nat := r.entries.length

def isEmpty (r : Record) : Bool := r.entries.isEmpty

def toJson (r : Record) : Json.Tree :=
  .object (Value.entriesToJson r.entries)

def allToJson (records : List Record) : Json.Tree :=
  .array (records.map toJson)

end Record

end RowScript
