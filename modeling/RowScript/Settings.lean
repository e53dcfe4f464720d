import RowScript.Dictionary
import RowScript.Yaml.Document

/-!
The settings of the command line, as YAML documents. Everything may be left out.
-/

namespace RowScript

structure Settings where
  /-- The name that pipelines get. -/
  pipelineName : String
  /-- What directives can see of the settings. -/
  properties : Dictionary String
  /-- The file of the output schema, where the command line does not name one. -/
  schema : Option String

namespace Settings

def default : Settings := ⟨"wrangler", .empty, none⟩

def ofYaml? (source : String) : Option Settings := do
  let entries ← (← Yaml.read? source).entries?
  let pipelineName ← match ← Yaml.optional? "pipeline_name" entries with
    | none => some default.pipelineName
    | some node => node.text?
  let properties ← match ← Yaml.optional? "properties" entries with
    | none => some []
    | some node => do
      (← node.entries?).mapM fun (key, value) => do return (key, ← value.text?)
  let schema ← match ← Yaml.optional? "schema" entries with
    | none => some none
    | some node => if node.isNull then some none else node.text?.map some
  return ⟨pipelineName, .ofList properties, schema⟩

end Settings

end RowScript
