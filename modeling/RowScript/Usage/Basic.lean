import RowScript.Usage.Arguments

/-!
The arguments that a directive asks for, and the binding of tokens to them. A
usage has slots of different names, the required ones in front; binding fills
them from left to right, and both rules together make a slot's place in the
usage the place of its token in the invocation.
-/

namespace RowScript

/-- One argument that a directive asks for. -/
structure Slot where
  name : String
  kind : TokenKind
  optional : Bool
deriving DecidableEq

namespace Slot

def required (name : String) (kind : TokenKind) : Slot := ⟨name, kind, false⟩

def trailing (name : String) (kind : TokenKind) : Slot := ⟨name, kind, true⟩

def label (s : Slot) : String :=
  let part := "<" ++ s.name ++ ":" ++ s.kind.name ++ ">"
  if s.optional then "[" ++ part ++ "]" else part

end Slot

namespace Usage

/-- What is wrong with a list of slots. -/
inductive Fault where
  | duplicate (slot : String)
  | requiredBehindOptional (slot : String)
deriving DecidableEq

def Fault.reason : Fault → String
  | duplicate slot => "duplicate argument '" ++ slot ++ "'"
  | requiredBehindOptional slot =>
    "required argument '" ++ slot ++ "' follows an optional one"

/-- The first fault of a list of slots that stands behind slots of the names
`seen`, of which one was optional if `optionalSeen`. -/
def fault? (seen : List String) (optionalSeen : Bool) : List Slot → Option Fault
  | [] => none
  | slot :: slots =>
    if slot.name ∈ seen then some (.duplicate slot.name)
    else if !slot.optional && optionalSeen then some (.requiredBehindOptional slot.name)
    else fault? (slot.name :: seen) (slot.optional || optionalSeen) slots

end Usage

/-- The arguments that a directive asks for, in order. -/
structure Usage where
  directive : String
  slots : List Slot
  faultless : Usage.fault? [] false slots = none
deriving DecidableEq

namespace Usage

/-- The usage with the given slots, unless they have a fault. -/
def build (directive : String) (slots : List Slot) : Except ScriptError Usage :=
  match h : fault? [] false slots with
  | none => .ok ⟨directive, slots, h⟩
  | some fault => .error (.invalidDefinition directive fault.reason)

/-- Number of slots that cannot be left out. -/
def required (u : Usage) : Nat :=
  (u.slots.filter (!·.optional)).length

/-- The usage as one line. -/
def line (u : Usage) : String :=
  " ".intercalate (u.directive :: u.slots.map Slot.label)

/-- A token as its slot keeps it: a single column in the slot of a list becomes
a list of one. -/
def widen : TokenKind → Token → Token
  | .columnList, .column name => .columnList [name]
  | _, token => token

/-- The tokens by slot name. A slot beyond the last token must be optional, and
no token may stand beyond the last slot. -/
def bindSlots (u : Usage) : List Slot → List Token → Except ScriptError (List (String × Token))
  | [], [] => .ok []
  | [], extra :: _ => .error (.unexpectedArgument u.directive extra.display u.line)
  | slot :: slots, [] =>
    if slot.optional then u.bindSlots slots []
    else .error (.missingArgument u.directive slot.name u.line)
  | slot :: slots, token :: tokens =>
    if slot.kind.accepts token.kind then
      match u.bindSlots slots tokens with
      | .error e => .error e
      | .ok values => .ok ((slot.name, widen slot.kind token) :: values)
    else .error (.typeMismatch u.directive slot.name slot.kind token.kind u.line)

/-- The arguments that the tokens of an invocation give. -/
def bind (u : Usage) (tokens : List Token) : Except ScriptError Arguments :=
  match u.bindSlots u.slots tokens with
  | .error e => .error e
  | .ok values => .ok ⟨u.directive, u.line, values⟩

end Usage

end RowScript
