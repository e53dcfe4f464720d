import RowScript.Directive.Basic
import RowScript.Row.Transform

/-!
The directives that every script can use. Each of them treats the rows of a batch
one by one, so all that a directive holds is its configuration, and running does
not change it.
-/

namespace RowScript

/-- What is known about a directive beside its usage. -/
structure Info where
  name : String
  description : String
  categories : List String
deriving DecidableEq

inductive BuiltIn where
  /-- Write a part of a timestamp into another column. -/
  | getDate (source destination : String) (field : DateField)
  /-- Turn text into a timestamp. -/
  | parseAsDate (column : String)
  | rename (source target : String)
  | drop (columns : List String)
  /-- Put a text where a column is missing, null or empty. -/
  | fill (column content : String)
deriving DecidableEq

namespace BuiltIn

def name : BuiltIn → String
  | getDate .. => "get-date"
  | parseAsDate .. => "parse-as-date"
  | rename .. => "rename"
  | drop .. => "drop"
  | fill .. => "fill-null-or-empty"

def slots : BuiltIn → List Slot
  | getDate .. =>
    [.required "source" .column, .required "destination" .column, .trailing "op" .identifier]
  | parseAsDate .. => [.required "column" .column]
  | rename .. => [.required "source" .column, .required "target" .column]
  | drop .. => [.required "columns" .columnList]
  | fill .. => [.required "column" .column, .required "value" .text]

def define (d : BuiltIn) : Except ScriptError Usage :=
  Usage.build d.name d.slots

/-- The part of a timestamp that the arguments ask for, milliseconds if they do
not say. -/
def fieldOf (a : Arguments) : Except ScriptError DateField :=
  if a.contains "op" then
    match a.identifier "op" with
    | .error e => .error e
    | .ok keyword =>
      match DateField.ofKeyword? keyword with
      | some field => .ok field
      | none => .error (.invalidArgument "get-date" "op"
          ("unknown date operation '" ++ keyword ++ "'"))
  else .ok .milliseconds

/-- The text that the arguments give to fill with. -/
def contentOf (a : Arguments) : Except ScriptError String :=
  match a.text "value" with
  | .error e => .error e
  | .ok content =>
    if content.isEmpty then
      .error (.invalidArgument "fill-null-or-empty" "value" "fill value must not be empty")
    else .ok content

/-- The arguments are taken in the order of the slots. Those in front of one that
cannot be used stay taken. -/
def prepare (a : Arguments) : BuiltIn → BuiltIn × Except ScriptError Unit
  | getDate source destination field =>
    match a.column "source" with
    | .error e => (getDate source destination field, .error e)
    | .ok source =>
      match a.column "destination" with
      | .error e => (getDate source destination field, .error e)
      | .ok destination =>
        match fieldOf a with
        | .error e => (getDate source destination field, .error e)
        | .ok field => (getDate source destination field, .ok ())
  | parseAsDate column =>
    match a.column "column" with
    | .error e => (parseAsDate column, .error e)
    | .ok column => (parseAsDate column, .ok ())
  | rename source target =>
    match a.column "source" with
    | .error e => (rename source target, .error e)
    | .ok source =>
      match a.column "target" with
      | .error e => (rename source target, .error e)
      | .ok target => (rename source target, .ok ())
  | drop columns =>
    match a.columns "columns" with
    | .error e => (drop columns, .error e)
    | .ok columns => (drop columns, .ok ())
  | fill column content =>
    match a.column "column" with
    | .error e => (fill column content, .error e)
    | .ok column =>
      match contentOf a with
      | .error e => (fill column content, .error e)
      | .ok content => (fill column content, .ok ())

/-- The counter of values that are no text of a timestamp. -/
def skippedCounter : String := "parse-as-date.skipped"

/-- The rows with a column renamed, the first of which has the given number. -/
def renameFrom (source target : String) (index : Nat) :
    List Row → Except ExecutionError (List Row)
  | [] => .ok []
  | row :: rows =>
    match row.renameColumn? source target with
    | none => .error ⟨"rename", some index,
        "cannot rename '" ++ source ++ "': column '" ++ target ++ "' already exists"⟩
    | some row =>
      match renameFrom source target (index + 1) rows with
      | .error e => .error e
      | .ok rows => .ok (row :: rows)

def execute (d : BuiltIn) (c : Context) (rows : List Row) :
    Context × Except ExecutionError (List Row) :=
  match d with
  | getDate source destination field => (c, .ok (rows.map (·.extractField source destination field)))
  | parseAsDate column =>
    let skipped := rows.countP fun row => (row.parseTimestamp column).2
    (if skipped = 0 then c else c.increment skippedCounter skipped,
      .ok (rows.map fun row => (row.parseTimestamp column).1))
  | rename source target => (c, renameFrom source target 0 rows)
  | drop columns => (c, .ok (rows.map (·.dropColumns columns)))
  | fill column content => (c, .ok (rows.map (·.fillBlank column content)))

instance : Directive BuiltIn where
  name := name
  define := define
  prepare := prepare
  execute d c rows := (d, d.execute c rows)

/-- The directives before their configuration, with what is known about them. -/
def catalog : List (Info × BuiltIn) := [
  (⟨"get-date", "Extracts a calendar field from a timestamp column into another column",
    ["date"]⟩, getDate "" "" .milliseconds),
  (⟨"parse-as-date", "Parses RFC 3339 text in a column into a timestamp",
    ["date", "parser"]⟩, parseAsDate ""),
  (⟨"rename", "Renames a column", ["column"]⟩, rename "" ""),
  (⟨"drop", "Removes one or more columns", ["column"]⟩, drop []),
  (⟨"fill-null-or-empty", "Fills missing, null or empty values of a column with fixed text",
    ["column", "data-quality"]⟩, fill "" "")]

end BuiltIn

end RowScript
