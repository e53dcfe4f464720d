/-!
YAML documents as trees. Settings and schemas are read from them by what they
ask for, so a scalar keeps its text and whether it was written plainly; an empty
plain scalar stands for a value that was left out.
-/

namespace RowScript.Yaml

inductive Node where
  | scalar (content : String) (plain : Bool)
  | sequence (items : List Node)
  | mapping (entries : List (Node × Node))

namespace Node

/-- The node of a value that was left out. -/
def missing : Node := scalar "" true

/-- The text of a scalar, whatever it looks like. -/
def text? : Node → Option String
  | scalar content _ => some content
  | _ => none

/-- A truth value: one of two words, written plainly. -/
def bool? : Node → Option Bool
  | scalar content true =>
    if content ∈ ["true", "True", "TRUE"] then some true
    else if content ∈ ["false", "False", "FALSE"] then some false
    else none
  | _ => none

/-- The items of a sequence, none for a value that was left out. -/
def items? : Node → Option (List Node)
  | sequence items => some items
  | scalar "" true => some []
  | _ => none

/-- The entries of a mapping whose keys are texts, none for a value that was left
out. -/
def entries? : Node → Option (List (String × Node))
  | mapping entries => entries.mapM fun (key, value) => key.text?.map fun key => (key, value)
  | scalar "" true => some []
  | _ => none

/-- Whether the node says that there is no value. -/
def isNull : Node → Bool
  | scalar content true => content ∈ ["", "~", "null", "Null", "NULL"]
  | _ => false

end Node

/-- The value of a key that may be absent. That a key stands twice is no answer. -/
def optional? (key : String) (entries : List (String × Node)) : Option (Option Node) :=
  match entries.filter (·.1 = key) with
  | [] => some none
  | [(_, node)] => some (some node)
  | _ => none

/-- The value of a key that stands exactly once. -/
def required? (key : String) (entries : List (String × Node)) : Option Node :=
  (optional? key entries).join

end RowScript.Yaml
