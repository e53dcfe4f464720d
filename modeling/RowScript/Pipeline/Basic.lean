import RowScript.Directive.Registry
import RowScript.Schema.Reconcile
import RowScript.Script.Basic

/-!
Pipelines: the directives of a script, configured and run one after the other
over batches of rows. Configuring starts from nothing, and leaves nothing behind
unless every statement of the script succeeds.

Every operation also tells what happened to the instances of directives. An
instance is known by a serial number; `configure` is given the first number that
is still free.
-/

namespace RowScript

/-- Something that happened to an instance of a directive. -/
inductive Event (δ : Type) where
  | created (serial : Nat) (directive : δ)
  /-- The directive was given its arguments, and took them or not. This is how it
  was before. -/
  | prepared (serial : Nat) (directive : δ) (arguments : Arguments) (taken : Bool)
  /-- The directive was run on a batch of that many rows. -/
  | executed (serial : Nat) (directive : δ) (rows : Nat)
  | destroyed (serial : Nat) (directive : δ)

/-- An instance of a directive in a pipeline. -/
structure Step (δ : Type) where
  /-- The line of its statement. -/
  line : Nat
  serial : Nat
  directive : δ

/-- What scripts are configured with. -/
structure Environment (δ : Type) where
  name : String
  registry : Registry δ
  properties : Dictionary String

def Environment.context {δ : Type} (e : Environment δ) : Context :=
  .start e.name e.properties

/-- Whether a pipeline can run. -/
inductive Stage where
  | unconfigured
  | configured
deriving DecidableEq

structure Pipeline (δ : Type) where
  stage : Stage
  steps : List (Step δ)
  context : Context

namespace Pipeline

variable {δ : Type}

/-- A pipeline that was never configured. -/
def new : Pipeline δ := ⟨.unconfigured, [], .empty⟩

instance : Inhabited (Pipeline δ) := ⟨new⟩

def isConfigured (p : Pipeline δ) : Bool :=
  match p.stage with
  | .unconfigured => false
  | .configured => true

def size (p : Pipeline δ) : Nat := p.steps.length

def isEmpty (p : Pipeline δ) : Bool := p.steps.isEmpty

/-- The names of the directives, in the order in which they run. -/
def directives [Directive δ] (p : Pipeline δ) : List String :=
  p.steps.map (Directive.name ·.directive)

/-- What an operation leaves: the pipeline, what happened to its directives, and
the answer. -/
structure Outcome (δ α : Type) where
  pipeline : Pipeline δ
  events : List (Event δ)
  result : α

def destroyAll (steps : List (Step δ)) : List (Event δ) :=
  steps.map fun step => .destroyed step.serial step.directive

/-- What came of one or more statements: the steps that are held, also by a
statement that failed after its step was taken in. -/
structure Construction (δ : Type) where
  events : List (Event δ)
  steps : List (Step δ)
  result : Except ScriptError Unit

/-- Make the step of a statement. The step is held before it is prepared. -/
def construct [Directive δ] (registry : Registry δ) (serial : Nat) (s : Statement) :
    Construction δ :=
  match registry.usage? s.name, registry.create? s.name with
  | some usage, some fresh =>
    let created : Event δ := .created serial fresh
    match s.tokens with
    | .error e => ⟨[created], [], .error e⟩
    | .ok tokens =>
      match usage.bind tokens with
      | .error e => ⟨[created], [], .error (e.atLine s.line)⟩
      | .ok arguments =>
        let (directive, result) := Directive.prepare arguments fresh
        ⟨[created, .prepared serial fresh arguments result.toBool], [⟨s.line, serial, directive⟩],
          result.mapError (·.atLine s.line)⟩
  | _, _ => ⟨[], [], .error (.unknownDirective s.name s.line)⟩

/-- Make the steps of statements, up to the first that fails. -/
def constructAll [Directive δ] (registry : Registry δ) (serial : Nat) :
    List Statement → Construction δ
  | [] => ⟨[], [], .ok ()⟩
  | s :: statements =>
    let first := construct registry serial s
    match first.result with
    | .error e => ⟨first.events, first.steps, .error e⟩
    | .ok () =>
      let rest := constructAll registry (serial + 1) statements
      ⟨first.events ++ rest.events, first.steps ++ rest.steps, rest.result⟩

/-- Destroy the directives and forget everything. -/
def close (p : Pipeline δ) : Outcome δ Unit :=
  ⟨new, destroyAll p.steps, ()⟩

/-- Configure for a script. `serial` is the number of the first new instance. -/
def configure [Directive δ] (serial : Nat) (script : String) (e : Environment δ)
    (p : Pipeline δ) : Outcome δ (Except ScriptError Unit) :=
  let closed := p.close
  match Script.parse script with
  | .error error => ⟨closed.pipeline, closed.events, .error error⟩
  | .ok statements =>
    let c := constructAll e.registry serial statements
    match c.result with
    | .error error =>
      ⟨closed.pipeline, closed.events ++ c.events ++ destroyAll c.steps, .error error⟩
    | .ok () => ⟨⟨.configured, c.steps, e.context⟩, closed.events ++ c.events, .ok ()⟩

/-- The counter of the rows that directives of a name gave out. -/
def rowsCounter (name : String) : String := "directive." ++ name ++ ".rows"

/-- What came of running steps, which may have changed their directives. -/
structure Run (δ : Type) where
  events : List (Event δ)
  steps : List (Step δ)
  context : Context
  result : Except RunError (List Row)

/-- Run steps one after the other, the first of which has the number `index`. -/
def runSteps [Directive δ] (index : Nat) (c : Context) (rows : List Row) :
    List (Step δ) → Run δ
  | [] => ⟨[], [], c, .ok rows⟩
  | step :: steps =>
    let event : Event δ := .executed step.serial step.directive rows.length
    match Directive.execute step.directive c rows with
    | (directive, c, .error cause) =>
      ⟨[event], { step with directive } :: steps, c, .error (.execution index cause)⟩
    | (directive, c, .ok rows) =>
      let c := c.increment (rowsCounter (Directive.name directive)) rows.length
      let rest := runSteps (index + 1) c rows steps
      ⟨event :: rest.events, { step with directive } :: rest.steps, rest.context, rest.result⟩

/-- Run the directives over a batch. Rows that came in are counted at once, and
rows that went out when all directives are done. -/
def executeRows [Directive δ] (rows : List Row) (p : Pipeline δ) :
    Outcome δ (Except RunError (List Row)) :=
  match p.stage with
  | .unconfigured => ⟨p, [], .error .notConfigured⟩
  | .configured =>
    let run := runSteps 0 (p.context.increment "rows.in" rows.length) rows p.steps
    match run.result with
    | .error e => ⟨⟨p.stage, run.steps, run.context⟩, run.events, .error e⟩
    | .ok out =>
      ⟨⟨p.stage, run.steps, run.context.increment "rows.out" out.length⟩, run.events, .ok out⟩

/-- Run the directives over a batch and fit what comes out to a schema. -/
def execute [Directive δ] (rows : List Row) (schema : Schema) (p : Pipeline δ) :
    Outcome δ (Except RunError (List Record)) :=
  let run := p.executeRows rows
  ⟨run.pipeline, run.events, run.result.bind schema.reconcile⟩

/-- Add to a counter of the pipeline's context. -/
def increment (name : String) (amount : Nat) (p : Pipeline δ) : Pipeline δ :=
  { p with context := p.context.increment name amount }

end Pipeline

end RowScript
