import RowScript.CommandLine.Command
import RowScript.CommandLine.Help
import RowScript.CommandLine.Host
import RowScript.CommandLine.Report
import RowScript.Pipeline.Basic
import RowScript.Row.Json
import RowScript.Schema.Yaml
import RowScript.Settings

/-!
Carrying out commands. A command reads the world through a host, so the same code
runs on a machine and on a table of files. What it writes is collected and given
back with the way it ended.
-/

namespace RowScript.CommandLine

/-- What a command writes to standard output and standard error. -/
structure Output where
  text : String
  notes : String
deriving DecidableEq

inductive Ending where
  | done (output : Output)
  | failed (report : Report)
  | refused (refusal : Refusal)
deriving DecidableEq

def Ending.exitCode : Ending → Nat
  | done _ => 0
  | failed _ => 1
  | refused refusal => refusal.exitCode

/-- What is written in the end. -/
def Ending.output : Ending → Output
  | done output => output
  | failed report => ⟨"", report.text⟩
  | refused .displayVersion => ⟨versionText, ""⟩
  | refused .displayHelp => ⟨helpText, ""⟩
  | refused _ => ⟨"", helpText⟩

/-- A step of a command: it reads the world, and may fail with a report. -/
abbrev Act (m : Type → Type) := ExceptT Report m

section

variable {m : Type → Type} [Monad m]

/-- The text of a file, or a report that starts with `failure`. -/
def readOr (failure : String) (read : m (Except FileError String)) : Act m String := do
  match ← (read : m _) with
  | .ok text => return text
  | .error e => throw ⟨failure, [e.message]⟩

def settingsOf (source : String) : Except Report Settings :=
  match Settings.ofYaml? source with
  | some settings => .ok settings
  | none => .error ⟨"invalid settings", []⟩

/-- The settings of the first of the given files that is there. -/
def firstSettings (host : Host m) : List String → Act m Settings
  | [] => return .default
  | path :: paths => do
    if ← (host.fileExists path : m Bool) then
      match ← (host.readFile path : m _) with
      | .error e => throw ⟨"Failed to load configuration", [e.message]⟩
      | .ok source =>
        match settingsOf source with
        | .ok settings => return settings
        | .error r => throw (r.within "Failed to load configuration")
    else firstSettings host paths

/-- The settings of the named file, or of one of the usual files. -/
def loadSettings (host : Host m) : Option String → Act m Settings
  | none => firstSettings host host.settingsFiles
  | some path => do
    let failure (r : Report) : Report :=
      (r.within ("Failed to load config from " ++ path)).within "Failed to load configuration"
    match ← (host.readFile path : m _) with
    | .error e => throw (failure ⟨e.message, []⟩)
    | .ok source =>
      match settingsOf source with
      | .ok settings => return settings
      | .error r => throw (failure r)

def environment (settings : Settings) : Environment BuiltIn :=
  ⟨settings.pipelineName, .standard, settings.properties⟩

/-- The pipeline of a script file, or a report that starts with `failure`. -/
def configured (host : Host m) (settings : Settings) (script failure : String) :
    Act m (Pipeline BuiltIn) := do
  let source ← readOr ("Failed to read script " ++ script) (host.readFile script)
  let outcome := Pipeline.new.configure 0 source (environment settings)
  match outcome.result with
  | .ok () => return outcome.pipeline
  | .error e => throw ((Report.ofScriptError e).within failure)

def readRows (host : Host m) (input : Option String) : Act m (List Row) := do
  let source ← match input with
    | some path => readOr ("Failed to read input " ++ path) (host.readFile path)
    | none => readOr "Failed to read rows from stdin" host.readInput
  match Row.allOfJson source with
  | .ok rows => return rows
  | .error e => throw ⟨"Input must be a JSON array of objects", [e.describe source]⟩

def readSchema (host : Host m) (path : String) : Act m Schema := do
  let source ← readOr ("Failed to read schema from " ++ path) (host.readFile path)
  match Schema.ofYaml? source with
  | some schema => return schema
  | none => throw ⟨"Failed to parse schema", ["invalid schema"]⟩

def raise {α : Type} : Except RunError α → Act m α
  | .ok x => return x
  | .error e => throw (.ofRunError e)

/-- The counters of a context, one a line. -/
def counterLines (c : Context) : String :=
  String.join (c.counters.entries.map fun (name, count) => name ++ " " ++ count.repr ++ "\n")

def run (host : Host m) (settings : Settings) (script : String) (input schema : Option String)
    (stats : Bool) : Act m Output := do
  let pipeline ← configured host settings script "Failed to configure pipeline"
  let rows ← readRows host input
  let (document, context) ← match schema.or settings.schema with
    | some path => do
      let schema ← readSchema host path
      let outcome := pipeline.execute rows schema
      pure (Record.allToJson (← raise outcome.result), outcome.pipeline.context)
    | none => do
      let outcome := pipeline.executeRows rows
      pure (Row.allToJson (← raise outcome.result), outcome.pipeline.context)
  return ⟨document.toWide ++ "\n", if stats then counterLines context else ""⟩

def check (host : Host m) (settings : Settings) (script : String) : Act m Output := do
  let pipeline ← configured host settings script "Script is invalid"
  return ⟨"✓ " ++ pipeline.size.repr ++ " directive(s) configured: " ++
    ", ".intercalate pipeline.directives ++ "\n", ""⟩

/-- A name filled up to twenty characters. -/
def column (name : String) : String :=
  name ++ String.ofList (List.replicate (20 - name.length) ' ')

def list (settings : Settings) : Output :=
  let registry := (environment settings).registry
  let line (name : String) : String :=
    column name ++ " " ++ ((registry.info? name).map (·.description)).getD "" ++ "\n"
  ⟨String.join (registry.names.map line), ""⟩

def usage (settings : Settings) (directive : String) : Except Report Output :=
  match (environment settings).registry.usage? directive with
  | some usage => .ok ⟨usage.line ++ "\n", ""⟩
  | none => .error ⟨"Unknown directive: " ++ directive, []⟩

def perform (host : Host m) (i : Invocation) : Act m Output := do
  let settings ← loadSettings host i.config
  match i.command with
  | .run script input schema stats => run host settings script input schema stats
  | .check script => check host settings script
  | .list => return list settings
  | .usage directive =>
    match usage settings directive with
    | .ok output => return output
    | .error r => throw r

/-- Carry out a command line. -/
def execute (host : Host m) (words : List String) : m Ending := do
  match parse words with
  | .error refusal => return .refused refusal
  | .ok invocation =>
    match ← (perform host invocation).run with
    | .ok output => return .done output
    | .error report => return .failed report

end

end RowScript.CommandLine
