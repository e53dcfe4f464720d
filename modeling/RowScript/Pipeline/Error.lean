/-!
What can go wrong with rows: in a directive, which may name the row, or in
fitting a row to the output schema.
-/

namespace RowScript

/-- A condition that a directive cannot pass over. -/
structure ExecutionError where
  directive : String
  row : Option Nat
  reason : String
deriving DecidableEq

namespace ExecutionError

def atRow (row : Nat) (e : ExecutionError) : ExecutionError :=
  { e with row := some row }

def message (e : ExecutionError) : String :=
  let place := match e.row with
    | some row => " (row " ++ row.repr ++ ")"
    | none => ""
  e.directive ++ place ++ ": " ++ e.reason

end ExecutionError

/-- Why a batch has no result. -/
inductive RunError where
  | notConfigured
  | execution (step : Nat) (cause : ExecutionError)
  | reconcile (row : Nat) (column reason : String)
deriving DecidableEq

namespace RunError

def directive? : RunError → Option String
  | execution _ cause => some cause.directive
  | _ => none

def row? : RunError → Option Nat
  | execution _ cause => cause.row
  | reconcile row _ _ => some row
  | notConfigured => none

def message : RunError → String
  | notConfigured => "Pipeline executed before being configured"
  | execution step cause => "Step " ++ step.repr ++ " failed: " ++ cause.message
  | reconcile row column reason =>
    "Row " ++ row.repr ++ ", column '" ++ column ++ "': " ++ reason

/-- The messages of the errors behind this one, outermost first. -/
def causes : RunError → List String
  | execution _ cause => [cause.message]
  | _ => []

end RunError

end RowScript
