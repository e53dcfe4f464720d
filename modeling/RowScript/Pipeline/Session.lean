import RowScript.Pipeline.Basic

/-!
Sessions: a pipeline through all that is done with it, one operation after the
other. A session numbers the instances of directives as they are created, so its
log tells the life of each of them.
-/

namespace RowScript

namespace Event

variable {δ : Type}

inductive Kind where
  | created
  | prepared
  | executed
  | destroyed
deriving DecidableEq

def kind : Event δ → Kind
  | created .. => .created
  | prepared .. => .prepared
  | executed .. => .executed
  | destroyed .. => .destroyed

/-- The instance that the event is about. -/
def serial : Event δ → Nat
  | created serial .. | prepared serial .. | executed serial .. | destroyed serial .. => serial

/-- The instances that events of a kind are about, in the order of the events. -/
def serials (kind : Kind) (events : List (Event δ)) : List Nat :=
  (events.filter (·.kind = kind)).map (·.serial)

/-- The events about one instance. -/
def about (serial : Nat) (events : List (Event δ)) : List (Event δ) :=
  events.filter (·.serial = serial)

end Event

/-- What can be done with a pipeline. -/
inductive Operation (δ : Type) where
  | configure (script : String) (e : Environment δ)
  | executeRows (rows : List Row)
  | execute (rows : List Row) (schema : Schema)
  | close
  | increment (counter : String) (amount : Nat)

namespace Operation

variable {δ : Type}

/-- Whether the directives that are held are destroyed, whatever comes of it. -/
def tearsDown : Operation δ → Bool
  | configure .. | close => true
  | _ => false

/-- The pipeline behind an operation, and what happened to directives. `serial` is
the number of the first new instance. -/
def apply [Directive δ] (serial : Nat) (p : Pipeline δ) :
    Operation δ → Pipeline δ × List (Event δ)
  | configure script e =>
    let done := p.configure serial script e
    (done.pipeline, done.events)
  | executeRows rows =>
    let done := p.executeRows rows
    (done.pipeline, done.events)
  | execute rows schema =>
    let done := p.execute rows schema
    (done.pipeline, done.events)
  | close => (p.close.pipeline, p.close.events)
  | increment counter amount => (p.increment counter amount, [])

end Operation

structure Session (δ : Type) where
  pipeline : Pipeline δ
  /-- The number of the next instance. -/
  next : Nat
  log : List (Event δ)

namespace Session

variable {δ : Type}

def start : Session δ := ⟨.new, 0, []⟩

/-- The log of a session that ends with dropping the pipeline, which closes it. -/
def dropped (s : Session δ) : List (Event δ) :=
  s.log ++ s.pipeline.close.events

variable [Directive δ]

/-- What an operation does to directives. -/
def events (s : Session δ) (op : Operation δ) : List (Event δ) :=
  (op.apply s.next s.pipeline).2

def perform (s : Session δ) (op : Operation δ) : Session δ :=
  ⟨(op.apply s.next s.pipeline).1, s.next + (Event.serials .created (s.events op)).length,
    s.log ++ s.events op⟩

def run (s : Session δ) (history : List (Operation δ)) : Session δ :=
  history.foldl perform s

end Session

end RowScript
