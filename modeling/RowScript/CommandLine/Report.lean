import RowScript.Pipeline.Error
import RowScript.Script.Error
import RowScript.Text.Basic

/-!
Reports of failures: what could not be done, and why, outermost first.
-/

namespace RowScript.CommandLine

structure Report where
  message : String
  causes : List String
deriving DecidableEq

namespace Report

/-- The report of something that failed because of something else. -/
def within (message : String) (r : Report) : Report :=
  ⟨message, r.message :: r.causes⟩

def ofScriptError (e : ScriptError) : Report := ⟨e.message, e.causes⟩

def ofRunError (e : RunError) : Report := ⟨e.message, e.causes⟩

/-- The lines of a cause, behind its number if it has one. -/
def numberedLines (number : Option Nat) (cause : String) : List String :=
  let head := match number with
    | none => "    "
    | some n => String.ofList (List.replicate (4 - n.repr.length) ' ') ++ n.repr ++ ": "
  match cause.splitOn "\n" with
  | [] => []
  | line :: lines =>
    (head ++ line) :: lines.map (String.ofList (List.replicate head.length ' ') ++ ·)

/-- The lines of the causes, which are numbered if there are several. -/
def causeLines (r : Report) : List String :=
  match r.causes with
  | [cause] => numberedLines none cause
  | causes => (causes.mapIdx fun i cause => numberedLines (some i) cause).flatten

def headline (r : Report) : String := "Error: " ++ r.message

/-- The report as text. -/
def text (r : Report) : String :=
  let causes := if r.causes.isEmpty then [] else "" :: "Caused by:" :: r.causeLines
  String.join ((r.headline :: causes).map (· ++ "\n"))

end Report

end RowScript.CommandLine
