import RowScript.Schema.Basic
import RowScript.Yaml.Document

/-!
Schemas as YAML documents: a mapping with a name and fields. Keys of other names
are passed over.
-/

namespace RowScript

def Field.ofYaml? (node : Yaml.Node) : Option Field := do
  let entries ← node.entries?
  let name ← (← Yaml.required? "name" entries).text?
  let type ← FieldType.ofKeyword? (← (← Yaml.required? "type" entries).text?)
  match ← Yaml.optional? "nullable" entries with
  | none => return ⟨name, type, false⟩
  | some nullable => return ⟨name, type, ← nullable.bool?⟩

def Schema.ofYaml? (source : String) : Option Schema := do
  let entries ← (← Yaml.read? source).entries?
  let name ← (← Yaml.required? "name" entries).text?
  let fields ← (← Yaml.required? "fields" entries).items?
  return ⟨name, ← fields.mapM Field.ofYaml?⟩

end RowScript
