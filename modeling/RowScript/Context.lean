import RowScript.Dictionary
import RowScript.Value.Basic

/-!
What directives can see and count while they run: the name and the properties of
their pipeline, counters, and tables to look values up in.
-/

namespace RowScript

structure Context where
  pipeline : String
  properties : Dictionary String
  counters : Dictionary Nat
  lookups : Dictionary (Dictionary Value)

namespace Context

/-- The context of a pipeline at its start. -/
def start (pipeline : String) (properties : Dictionary String) : Context :=
  ⟨pipeline, properties, .empty, .empty⟩

/-- The context of no pipeline. -/
def empty : Context := start "" .empty

instance : Inhabited Context := ⟨empty⟩

def property? (c : Context) (key : String) : Option String :=
  c.properties.find? key

/-- A counter that was never counted is zero. -/
def counter (c : Context) (name : String) : Nat :=
  (c.counters.find? name).getD 0

/-- Add to a counter. Adding nothing still makes the counter known. -/
def increment (c : Context) (name : String) (amount : Nat) : Context :=
  { c with counters := c.counters.insert name (c.counter name + amount) }

def addLookup (c : Context) (name : String) (table : Dictionary Value) : Context :=
  { c with lookups := c.lookups.insert name table }

def lookup? (c : Context) (name : String) : Option (Dictionary Value) :=
  c.lookups.find? name

end Context

end RowScript
