/-!
Command lines: options with a value, flags, positional arguments and the names of
subcommands. Words are taken from left to right. A word that gives the value of
an argument is only kept with it at first; the argument is settled when the next
one begins or the words end, so a word that nobody knows is reported before a bad
value in front of it.
-/

namespace RowScript.CommandLine

/-- Why a command line is not carried out. -/
inductive Refusal where
  | displayHelp
  | displayVersion
  | displayHelpOnMissingArgument
  | missingSubcommand
  | missingRequiredArgument
  | unknownArgument
  | invalidSubcommand
  | invalidValue
  | argumentConflict
  | tooManyValues
deriving DecidableEq

/-- Help and version were asked for; everything else is a mistake. -/
def Refusal.exitCode : Refusal → Nat
  | displayHelp | displayVersion => 0
  | _ => 2

/-- What an option does. -/
inductive Action where
  /-- Takes the path of a file. -/
  | path
  | flag
  | help
  | version
deriving DecidableEq

/-- What a word with dashes names. -/
structure Switch where
  name : String
  short : Option Char
  action : Action

structure Positional where
  name : String
  isPath : Bool

structure Grammar where
  switches : List Switch
  positionals : List Positional
  subcommands : List String

/-- An argument whose value is not settled yet. -/
structure Pending where
  name : String
  isPath : Bool
  value : Option String

/-- What the words so far have given. -/
structure Matches where
  values : List (String × String)
  pending : Option Pending
  /-- Number of positional arguments so far. -/
  positionals : Nat
  /-- Whether only positional arguments follow. -/
  trailing : Bool

namespace Matches

def start : Matches := ⟨[], none, 0, false⟩

def value? (m : Matches) (name : String) : Option String :=
  m.values.lookup name

/-- Keep a value under the name of its argument, which must not have one yet. -/
def add (m : Matches) (name value : String) : Except Refusal Matches :=
  if (m.value? name).isSome then .error .argumentConflict
  else .ok { m with values := m.values ++ [(name, value)] }

/-- Settle the argument that is still open. An option must have got a value, and a
path must not be empty. -/
def settle (m : Matches) : Except Refusal Matches :=
  match m.pending with
  | none => .ok m
  | some p =>
    match p.value with
    | none => .error .invalidValue
    | some value =>
      match { m with pending := none }.add p.name value with
      | .error e => .error e
      | .ok m => if p.isPath && value.isEmpty then .error .invalidValue else .ok m

/-- Whether an option waits for its value. -/
def isWaiting (m : Matches) : Bool :=
  m.pending.any (·.value.isNone)

/-- Begin an argument. -/
def begin (m : Matches) (p : Pending) : Except Refusal Matches :=
  match m.settle with
  | .error e => .error e
  | .ok m => .ok { m with pending := some p }

/-- An argument that comes with its value. -/
def attach (m : Matches) (name value : String) : Except Refusal Matches :=
  match m.begin ⟨name, true, some value⟩ with
  | .error e => .error e
  | .ok m => m.settle

end Matches

namespace Switch

/-- Take a switch that has no value in the same word. -/
def take (o : Switch) (m : Matches) : Except Refusal Matches :=
  match o.action with
  | .path => m.begin ⟨o.name, true, none⟩
  | .flag =>
    match m.settle with
    | .error e => .error e
    | .ok m => m.add o.name ""
  | .help =>
    match m.settle with
    | .error e => .error e
    | .ok _ => .error .displayHelp
  | .version =>
    match m.settle with
    | .error e => .error e
    | .ok _ => .error .displayVersion

end Switch

namespace Grammar

/-- A word that starts with two dashes, without them. The value may stand behind
an equals sign. -/
def takeLong (g : Grammar) (m : Matches) (word : List Char) : Except Refusal Matches :=
  let name := word.takeWhile (· != '=')
  match g.switches.find? (·.name.toList = name) with
  | none => .error .unknownArgument
  | some o =>
    match word.drop name.length, o.action with
    | [], _ => o.take m
    | _ :: value, .path => m.attach o.name (String.ofList value)
    | _ :: _, _ => .error .tooManyValues

/-- A word that starts with one dash, without it. Flags may stand together; the
rest of the word behind an option with a value is that value, also behind an
equals sign. -/
def takeShort (g : Grammar) (m : Matches) : List Char → Except Refusal Matches
  | [] => .ok m
  | c :: rest =>
    match g.switches.find? (·.short = some c) with
    | none => .error .unknownArgument
    | some o =>
      match o.action, rest with
      | .path, [] => o.take m
      | .path, '=' :: value => m.attach o.name (String.ofList value)
      | .path, value => m.attach o.name (String.ofList value)
      | _, rest =>
        match o.take m with
        | .error e => .error e
        | .ok m => g.takeShort m rest

/-- The error for a word that stands where no positional argument is left. -/
def surplus (g : Grammar) (m : Matches) (word : String) : Refusal :=
  if m.trailing && g.subcommands.contains word then .unknownArgument
  else if g.subcommands.isEmpty then .unknownArgument
  else .invalidSubcommand

def takePositional (g : Grammar) (m : Matches) (word : String) : Except Refusal Matches :=
  match g.positionals[m.positionals]? with
  | none => .error (g.surplus m word)
  | some p => { m with positionals := m.positionals + 1 }.begin ⟨p.name, p.isPath, some word⟩

/-- Read words up to the name of a subcommand. The name and the words behind it
are given back. -/
def read (g : Grammar) (m : Matches) :
    List String → Except Refusal (Matches × Option (String × List String))
  | [] => .ok (m, none)
  | word :: words =>
    let next : Except Refusal Matches :=
      match word.toList with
      | ['-', '-'] => if m.trailing then g.takePositional m word else .ok { m with trailing := true }
      | '-' :: '-' :: name => if m.trailing then g.takePositional m word else g.takeLong m name
      | '-' :: c :: rest =>
        if m.trailing then g.takePositional m word else g.takeShort m (c :: rest)
      | _ =>
        if m.isWaiting && !m.trailing then
          .ok { m with pending := m.pending.map fun p => { p with value := some word } }
        else g.takePositional m word
    if !m.trailing && !m.isWaiting && g.subcommands.contains word then .ok (m, some (word, words))
    else
      match next with
      | .error e => .error e
      | .ok m => g.read m words

end Grammar

end RowScript.CommandLine
