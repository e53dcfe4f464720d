import RowScript.CommandLine.Grammar

/-!
The commands of the program and their command lines.
-/

namespace RowScript.CommandLine

inductive Command where
  /-- Run a script over rows. Without an input file the rows come from standard
  input, and without a schema they are written as they are. -/
  | run (script : String) (input schema : Option String) (stats : Bool)
  /-- Configure a script without running it. -/
  | check (script : String)
  /-- List the directives. -/
  | list
  /-- Show the usage of a directive. -/
  | usage (directive : String)
deriving DecidableEq

structure Invocation where
  /-- The file of the settings. -/
  config : Option String
  command : Command
deriving DecidableEq

def helpSwitch : Switch := ⟨"help", some 'h', .help⟩

def rootGrammar : Grammar where
  switches := [⟨"config", some 'c', .path⟩, helpSwitch, ⟨"version", some 'V', .version⟩]
  positionals := []
  subcommands := ["run", "check", "list", "usage", "help"]

def runGrammar : Grammar where
  switches := [⟨"script", some 's', .path⟩, ⟨"input", some 'i', .path⟩, ⟨"schema", none, .path⟩,
    ⟨"stats", none, .flag⟩, helpSwitch]
  positionals := []
  subcommands := []

def checkGrammar : Grammar := ⟨[helpSwitch], [⟨"script", true⟩], []⟩

def listGrammar : Grammar := ⟨[helpSwitch], [], []⟩

def usageGrammar : Grammar := ⟨[helpSwitch], [⟨"directive", false⟩], []⟩

/-- The values that the words of a subcommand give. -/
def subcommandValues (g : Grammar) (words : List String) : Except Refusal Matches :=
  match g.read .start words with
  | .error e => .error e
  | .ok (m, _) => m.settle

def Matches.required (m : Matches) (name : String) : Except Refusal String :=
  match m.value? name with
  | some value => .ok value
  | none => .error .missingRequiredArgument

/-- The command of a subcommand's name and the words behind it. -/
def commandOf (name : String) (words : List String) : Except Refusal Command :=
  match name with
  | "run" => do
    let m ← subcommandValues runGrammar words
    return .run (← m.required "script") (m.value? "input") (m.value? "schema")
      (m.value? "stats").isSome
  | "check" => do
    let m ← subcommandValues checkGrammar words
    return .check (← m.required "script")
  | "list" => do
    let _ ← subcommandValues listGrammar words
    return .list
  | "usage" => do
    let m ← subcommandValues usageGrammar words
    return .usage (← m.required "directive")
  | _ => .error .invalidSubcommand

/-- What asking for help gives: the words may name one subcommand. -/
def helpOn : List String → Refusal
  | [] => .displayHelp
  | [name] => if rootGrammar.subcommands.contains name then .displayHelp else .invalidSubcommand
  | _ => .invalidSubcommand

/-- The invocation that the words of a command line give. -/
def parse (words : List String) : Except Refusal Invocation :=
  match rootGrammar.read .start words with
  | .error e => .error e
  | .ok (_, some ("help", words)) => .error (helpOn words)
  | .ok (m, some (name, words)) => do
    let command ← commandOf name words
    let m ← m.settle
    return ⟨m.value? "config", command⟩
  | .ok (m, none) => do
    let m ← m.settle
    .error (if m.values.isEmpty then .displayHelpOnMissingArgument else .missingSubcommand)

end RowScript.CommandLine
