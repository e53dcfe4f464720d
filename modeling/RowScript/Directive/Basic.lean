import RowScript.Context
import RowScript.Pipeline.Error
import RowScript.Row.Basic
import RowScript.Usage.Basic

/-!
What a kind of directive has to offer. A directive is first asked for its usage,
then prepared once with the arguments of its invocation, and then run on any
number of batches.
-/

namespace RowScript

class Directive (δ : Type) where
  /-- The name by which scripts call the directive. -/
  name : δ → String
  /-- The arguments that it asks for. -/
  define : δ → Except ScriptError Usage
  /-- The directive with its arguments taken. Where that fails, the directive may
  have taken a part of them. -/
  prepare : Arguments → δ → δ × Except ScriptError Unit
  /-- The directive behind a batch, what was counted, and the rows that the batch
  becomes, in order. -/
  execute : δ → Context → List Row → δ × Context × Except ExecutionError (List Row)

end RowScript
