import RowScript.Schema.Basic

/-!
Schemas as JSON objects with a name and fields, and fields with a name, a type
and whether they are nullable. Both may also be written as arrays of their
parts. Members of other names are passed over.
-/

namespace RowScript

namespace Field

def toJson (f : Field) : Json.Tree :=
  .object [("name", .text f.name), ("type", .text f.type.keyword), ("nullable", .bool f.nullable)]

end Field

namespace FieldType

def ofWord (word : String) (rest : List Char) : Except Json.Error FieldType :=
  match ofKeyword? word with
  | some type => .ok type
  | none => .error (.mismatch (.unknownVariant word (all.map keyword)) rest.length)

/-- A type: its keyword, or an object that has the keyword as its only key and
null as its value. -/
def read : Json.Reader FieldType := fun source =>
  match Json.skipBlank source with
  | [] => .error .unfinished
  | '"' :: rest => do
    let (word, rest) ← Json.string rest
    return (← ofWord word rest, rest)
  | '\x7b' :: rest => do
    let (word, rest) ← Json.textValue "variant identifier" rest
    let type ← ofWord word rest
    let rest ← Json.expectColon rest
    match Json.skipBlank rest with
    | [] => .error .unfinished
    | 'n' :: rest => return (type, ← Json.closeObject (← Json.expectWord ['u', 'l', 'l'] rest))
    | rest => .error (Json.wrongType "unit" rest)
  | _ => .error .malformed

end FieldType

namespace Field

/-- The members of a field read so far. -/
structure Parts where
  name : Option String
  type : Option FieldType
  nullable : Option Bool

def member (parts : Parts) (key : String) : Json.Reader Parts := fun source => do
  match key with
  | "name" =>
    if parts.name.isSome then .error (.mismatch (.duplicateField "name") source.length)
    let (name, rest) ← Json.memberValue (Json.textValue "a string") source
    return ({ parts with name := some name }, rest)
  | "type" =>
    if parts.type.isSome then .error (.mismatch (.duplicateField "type") source.length)
    let (type, rest) ← Json.memberValue FieldType.read source
    return ({ parts with type := some type }, rest)
  | "nullable" =>
    if parts.nullable.isSome then .error (.mismatch (.duplicateField "nullable") source.length)
    let (nullable, rest) ← Json.memberValue Json.boolValue source
    return ({ parts with nullable := some nullable }, rest)
  | _ =>
    let (_, rest) ← Json.memberValue (Json.skip source.length) source
    return (parts, rest)

/-- A field that does not say whether it is nullable is not. -/
def ofParts (parts : Parts) (left : Nat) : Except Json.Error Field :=
  match parts.name, parts.type with
  | none, _ => .error (.mismatch (.missingField "name") left)
  | _, none => .error (.mismatch (.missingField "type") left)
  | some name, some type => .ok ⟨name, type, parts.nullable.getD false⟩

def readParts : Json.Reader Field := fun source => do
  match ← Json.next ']' true source with
  | .closed rest => .error (.mismatch (.wrongLength 0 "struct Field with 3 elements") rest.length)
  | .more source =>
    let (name, rest) ← Json.textValue "a string" source
    match ← Json.next ']' false rest with
    | .closed rest => .error (.mismatch (.wrongLength 1 "struct Field with 3 elements") rest.length)
    | .more source =>
      let (type, rest) ← FieldType.read source
      match ← Json.next ']' false rest with
      | .closed rest => return (⟨name, type, false⟩, rest)
      | .more source =>
        let (nullable, rest) ← Json.boolValue source
        return (⟨name, type, nullable⟩, ← Json.closeArray rest)

def read : Json.Reader Field := fun source =>
  match Json.skipBlank source with
  | [] => .error .unfinished
  | '[' :: rest => readParts rest
  | '\x7b' :: rest => do
    let (parts, rest) ← Json.object member ⟨none, none, none⟩ rest
    return (← ofParts parts rest.length, rest)
  | source => .error (Json.wrongType "struct Field" source)

end Field

namespace Schema

def toJson (s : Schema) : Json.Tree :=
  .object [("name", .text s.name), ("fields", .array (s.fields.map Field.toJson))]

/-- The members of a schema read so far. -/
structure Parts where
  name : Option String
  fields : Option (List Field)

def member (parts : Parts) (key : String) : Json.Reader Parts := fun source => do
  match key with
  | "name" =>
    if parts.name.isSome then .error (.mismatch (.duplicateField "name") source.length)
    let (name, rest) ← Json.memberValue (Json.textValue "a string") source
    return ({ parts with name := some name }, rest)
  | "fields" =>
    if parts.fields.isSome then .error (.mismatch (.duplicateField "fields") source.length)
    let (fields, rest) ← Json.memberValue (Json.arrayValue Field.read) source
    return ({ parts with fields := some fields }, rest)
  | _ =>
    let (_, rest) ← Json.memberValue (Json.skip source.length) source
    return (parts, rest)

def ofParts (parts : Parts) (left : Nat) : Except Json.Error Schema :=
  match parts.name, parts.fields with
  | none, _ => .error (.mismatch (.missingField "name") left)
  | _, none => .error (.mismatch (.missingField "fields") left)
  | some name, some fields => .ok ⟨name, fields⟩

def readParts : Json.Reader Schema := fun source => do
  match ← Json.next ']' true source with
  | .closed rest => .error (.mismatch (.wrongLength 0 "struct Schema with 2 elements") rest.length)
  | .more source =>
    let (name, rest) ← Json.textValue "a string" source
    match ← Json.next ']' false rest with
    | .closed rest => .error (.mismatch (.wrongLength 1 "struct Schema with 2 elements") rest.length)
    | .more source =>
      let (fields, rest) ← Json.arrayValue Field.read source
      return (⟨name, fields⟩, ← Json.closeArray rest)

def read : Json.Reader Schema := fun source =>
  match Json.skipBlank source with
  | [] => .error .unfinished
  | '[' :: rest => readParts rest
  | '\x7b' :: rest => do
    let (parts, rest) ← Json.object member ⟨none, none⟩ rest
    return (← ofParts parts rest.length, rest)
  | source => .error (Json.wrongType "struct Schema" source)

def ofJson (source : String) : Except Json.Error Schema :=
  Json.readAll read source.toList

end Schema

end RowScript
