import Mathlib.Data.List.Basic
import RowScript.Pipeline.Basic

/-!
Which statement a failed configuration blames. Every statement has a verdict of its own,
a directive or an error with its line, that does not depend on the statements around it. A
configuration goes through the statements as long as they give directives, so what it
reports is the verdict on the first that does not.
-/

namespace RowScript

namespace Arguments

theorem reading_unplaced {α : Type} {a : Arguments} {slot : String} {kind : TokenKind}
    {read : Token → Option α} {e : ScriptError} (h : a.reading slot kind read = .error e) :
    e.isPlaced = false := by
  rw [reading] at h
  split at h
  · cases h
    rfl
  · split at h
    · cases h
    · cases h
      rfl

end Arguments

namespace Usage

theorem bindSlots_unplaced {u : Usage} {slots : List Slot} {tokens : List Token}
    {e : ScriptError} (h : u.bindSlots slots tokens = .error e) : e.isPlaced = false := by
  fun_induction bindSlots u slots tokens with
  | case1 => cases h
  | case2 | case4 | case7 =>
      cases h
      rfl
  | case3 _ _ _ ih => exact ih h
  | case5 slot slots token tokens haccepts cause hrest ih =>
      cases h
      exact ih hrest
  | case6 => cases h

theorem bind_unplaced {u : Usage} {tokens : List Token} {e : ScriptError}
    (h : u.bind tokens = .error e) : e.isPlaced = false := by
  rw [bind] at h
  split at h
  · rename_i hslots
    cases h
    exact bindSlots_unplaced hslots
  · cases h

end Usage

namespace BuiltIn

theorem fieldOf_unplaced {a : Arguments} {e : ScriptError} (h : fieldOf a = .error e) :
    e.isPlaced = false := by
  rw [fieldOf] at h
  split at h
  · split at h
    · rename_i hread
      cases h
      exact Arguments.reading_unplaced hread
    · split at h
      · cases h
      · cases h
        rfl
  · cases h

theorem contentOf_unplaced {a : Arguments} {e : ScriptError} (h : contentOf a = .error e) :
    e.isPlaced = false := by
  rw [contentOf] at h
  split at h
  · rename_i hread
    cases h
    exact Arguments.reading_unplaced hread
  · split at h
    · cases h
      rfl
    · cases h

theorem unplaced_of_eq {d taken : BuiltIn} {cause e : ScriptError}
    (h : (d, (.error cause : Except ScriptError Unit)) = (taken, .error e))
    (hcause : cause.isPlaced = false) : e.isPlaced = false := by
  cases h
  exact hcause

/-- No built-in directive knows where it stands in a script. -/
theorem prepare_unplaced {a : Arguments} {d taken : BuiltIn} {e : ScriptError}
    (h : prepare a d = (taken, .error e)) : e.isPlaced = false := by
  cases d with
  | getDate source destination field =>
      rw [prepare] at h
      split at h
      next hsource => exact unplaced_of_eq h (Arguments.reading_unplaced hsource)
      next =>
          split at h
          next hdestination => exact unplaced_of_eq h (Arguments.reading_unplaced hdestination)
          next =>
              split at h
              next hfield => exact unplaced_of_eq h (fieldOf_unplaced hfield)
              next => cases h
  | parseAsDate column | drop columns =>
      rw [prepare] at h
      split at h
      next hread => exact unplaced_of_eq h (Arguments.reading_unplaced hread)
      next => cases h
  | rename source target =>
      rw [prepare] at h
      split at h
      next hsource => exact unplaced_of_eq h (Arguments.reading_unplaced hsource)
      next =>
          split at h
          next htarget => exact unplaced_of_eq h (Arguments.reading_unplaced htarget)
          next => cases h
  | fill column content =>
      rw [prepare] at h
      split at h
      next hcolumn => exact unplaced_of_eq h (Arguments.reading_unplaced hcolumn)
      next =>
          split at h
          next hcontent => exact unplaced_of_eq h (contentOf_unplaced hcontent)
          next => cases h

end BuiltIn

section

variable {δ : Type} [Directive δ]

/-- No directive of the registry blames a line when it is prepared. -/
def Registry.Unplaced (registry : Registry δ) : Prop :=
  ∀ name r, registry.entries.find? name = some r → ∀ arguments d e,
    Directive.prepare arguments r.fresh = (d, .error e) → e.isPlaced = false

theorem Registry.unplaced_builtIn (registry : Registry BuiltIn) : registry.Unplaced :=
  fun _ _ _ _ _ _ h => BuiltIn.prepare_unplaced h

namespace Pipeline

variable {registry : Registry δ}

/-- What a statement comes to on its own: the directive that it makes, or an error with
the line of the statement. -/
inductive Verdict (registry : Registry δ) (s : Statement) : Except ScriptError δ → Prop where
  | unknown (hfind : registry.entries.find? s.name = none) :
      Verdict registry s (.error (.unknownDirective s.name s.line))
  | unread (r : Registration δ) (cause : TokenError)
      (hfind : registry.entries.find? s.name = some r)
      (htokens : tokenize s.arguments = .error cause) :
      Verdict registry s (.error (.token s.line (cause.shift s.offset)))
  | unbound (r : Registration δ) (tokens : List Token) (cause : ScriptError)
      (hfind : registry.entries.find? s.name = some r)
      (htokens : tokenize s.arguments = .ok tokens)
      (hbind : r.usage.bind tokens = .error cause) (hplain : cause.isPlaced = false) :
      Verdict registry s (.error (.statement s.line cause))
  | untaken (r : Registration δ) (tokens : List Token) (arguments : Arguments) (d : δ)
      (cause : ScriptError) (hfind : registry.entries.find? s.name = some r)
      (htokens : tokenize s.arguments = .ok tokens)
      (hbind : r.usage.bind tokens = .ok arguments)
      (hprepare : Directive.prepare arguments r.fresh = (d, .error cause))
      (hplain : cause.isPlaced = false) :
      Verdict registry s (.error (.statement s.line cause))
  | taken (r : Registration δ) (tokens : List Token) (arguments : Arguments) (d : δ)
      (hfind : registry.entries.find? s.name = some r)
      (htokens : tokenize s.arguments = .ok tokens)
      (hbind : r.usage.bind tokens = .ok arguments)
      (hprepare : Directive.prepare arguments r.fresh = (d, .ok ())) :
      Verdict registry s (.ok d)

theorem exists_verdict (h : registry.Unplaced) (s : Statement) :
    ∃ v, Verdict registry s v := by
  cases hfind : registry.entries.find? s.name with
  | none => exact ⟨_, .unknown hfind⟩
  | some r =>
      cases htokens : tokenize s.arguments with
      | error cause => exact ⟨_, .unread r cause hfind htokens⟩
      | ok tokens =>
          cases hbind : r.usage.bind tokens with
          | error cause =>
              exact ⟨_, .unbound r tokens cause hfind htokens hbind
                (Usage.bind_unplaced hbind)⟩
          | ok arguments =>
              cases hprepare : Directive.prepare arguments r.fresh with
              | mk d result =>
                  cases result with
                  | error cause =>
                      exact ⟨_, .untaken r tokens arguments d cause hfind htokens hbind hprepare
                        (h s.name r hfind arguments d cause hprepare)⟩
                  | ok =>
                      exact ⟨_, .taken r tokens arguments d hfind htokens hbind hprepare⟩

theorem atLine_of_unplaced {e : ScriptError} (h : e.isPlaced = false) (line : Nat) :
    e.atLine line = .statement line e := by
  rw [ScriptError.atLine, h, if_neg Bool.false_ne_true]

/-- A statement comes to the same wherever it stands. -/
theorem result_construct {s : Statement} {v : Except ScriptError δ} (h : Verdict registry s v)
    (serial : Nat) : (construct registry serial s).result = v.map fun _ => () := by
  rw [construct, Registry.usage?, Registry.create?]
  cases h with
  | unknown hfind =>
      rw [hfind]
      rfl
  | unread r cause hfind htokens =>
      simp only [hfind, Option.map_some, Statement.tokens, htokens]
      rfl
  | unbound r tokens cause hfind htokens hbind hplain =>
      simp only [hfind, Option.map_some, Statement.tokens, htokens, hbind,
        atLine_of_unplaced hplain]
      rfl
  | untaken r tokens arguments d cause hfind htokens hbind hprepare hplain =>
      simp only [hfind, Option.map_some, Statement.tokens, htokens, hbind, hprepare,
        Except.mapError, atLine_of_unplaced hplain]
      rfl
  | taken r tokens arguments d hfind htokens hbind hprepare =>
      simp only [hfind, Option.map_some, Statement.tokens, htokens, hbind, hprepare,
        Except.mapError]
      rfl

/-- The directive that is prepared for a statement, and with which arguments. -/
def call? (registry : Registry δ) (s : Statement) : Option (δ × Arguments) := do
  let r ← registry.entries.find? s.name
  let tokens ← (tokenize s.arguments).toOption
  let arguments ← (r.usage.bind tokens).toOption
  return (r.fresh, arguments)

/-- What was prepared, in order. -/
def preparations (events : List (Event δ)) : List (δ × Arguments) :=
  events.filterMap fun
    | .prepared _ d arguments _ => some (d, arguments)
    | _ => none

omit [Directive δ] in
theorem preparations_append (a b : List (Event δ)) :
    preparations (a ++ b) = preparations a ++ preparations b :=
  List.filterMap_append

omit [Directive δ] in
theorem preparations_destroyAll (steps : List (Step δ)) : preparations (destroyAll steps) = [] := by
  simp [preparations, destroyAll, List.filterMap_map]

theorem preparations_construct (serial : Nat) (s : Statement) :
    preparations (construct registry serial s).events = (call? registry s).toList := by
  rw [construct, Registry.usage?, Registry.create?, call?]
  cases registry.entries.find? s.name with
  | none => rfl
  | some r =>
      rw [Statement.tokens]
      cases tokenize s.arguments with
      | error cause => rfl
      | ok tokens =>
          cases hbind : r.usage.bind tokens with
          | error cause => simp [hbind, preparations, Except.toOption]
          | ok arguments => simp [hbind, preparations, Except.toOption]

/-- All of the statements make directives. -/
def AllTaken (registry : Registry δ) (statements : List Statement) : Prop :=
  ∀ s ∈ statements, ∃ d, Verdict registry s (.ok d)

/-- Statements that make directives leave the answer to what is behind them. -/
theorem constructAll_append {before : List Statement} (h : AllTaken registry before)
    (serial : Nat) (rest : List Statement) :
    (constructAll registry serial (before ++ rest)).result =
        (constructAll registry (serial + before.length) rest).result ∧
      preparations (constructAll registry serial (before ++ rest)).events =
        before.filterMap (call? registry) ++
          preparations (constructAll registry (serial + before.length) rest).events := by
  induction before generalizing serial with
  | nil => exact ⟨rfl, rfl⟩
  | cons s before ih =>
      obtain ⟨⟨d, hd⟩, hbefore⟩ := List.forall_mem_cons.mp h
      obtain ⟨hresult, hprepared⟩ := ih hbefore (serial + 1)
      rw [List.cons_append, constructAll, result_construct hd serial, List.length_cons,
        ← Nat.add_assoc, Nat.add_right_comm]
      refine ⟨hresult, ?_⟩
      simp only [Except.map]
      rw [preparations_append, preparations_construct, hprepared, ← List.append_assoc,
        List.filterMap_cons]
      cases call? registry s <;> rfl

/-- The first statement that makes no directive ends a construction. -/
theorem constructAll_of_error {s : Statement} {cause : ScriptError}
    (h : Verdict registry s (.error cause)) (serial : Nat) (behind : List Statement) :
    (constructAll registry serial (s :: behind)).result = .error cause ∧
      preparations (constructAll registry serial (s :: behind)).events =
        (call? registry s).toList := by
  rw [constructAll, result_construct h serial]
  exact ⟨rfl, preparations_construct serial s⟩

theorem constructAll_of_allTaken {statements : List Statement}
    (h : AllTaken registry statements) (serial : Nat) :
    (constructAll registry serial statements).result = .ok () := by
  have hall := (constructAll_append h serial []).1
  rwa [List.append_nil] at hall

/-- The first statement that makes no directive, with what is in front of it. -/
structure Blames (registry : Registry δ) (statements before : List Statement) (s : Statement)
    (cause : ScriptError) : Prop where
  stands : ∃ behind, statements = before ++ s :: behind
  before : AllTaken registry before
  verdict : Verdict registry s (.error cause)

theorem allTaken_or_blames (h : registry.Unplaced) (statements : List Statement) :
    AllTaken registry statements ∨
      ∃ before s cause, Blames registry statements before s cause := by
  induction statements with
  | nil => exact .inl nofun
  | cons s statements ih =>
      obtain ⟨cause | d, hs⟩ := exists_verdict h s
      · exact .inr ⟨[], s, cause, ⟨statements, rfl⟩, nofun, hs⟩
      · rcases ih with hall | ⟨before, first, cause, ⟨behind, rfl⟩, hbefore, hfirst⟩
        · exact .inl (List.forall_mem_cons.mpr ⟨⟨d, hs⟩, hall⟩)
        · exact .inr ⟨s :: before, first, cause, ⟨behind, rfl⟩,
            List.forall_mem_cons.mpr ⟨⟨d, hs⟩, hbefore⟩, hfirst⟩

theorem constructAll_of_blames {statements before : List Statement} {s : Statement}
    {cause : ScriptError} (h : Blames registry statements before s cause) (serial : Nat) :
    (constructAll registry serial statements).result = .error cause ∧
      preparations (constructAll registry serial statements).events =
        (before ++ [s]).filterMap (call? registry) := by
  obtain ⟨⟨behind, rfl⟩, hbefore, hs⟩ := h
  obtain ⟨hresult, hprepared⟩ := constructAll_append hbefore serial (s :: behind)
  obtain ⟨herror, hlast⟩ := constructAll_of_error hs (serial + before.length) behind
  refine ⟨hresult.trans herror, ?_⟩
  rw [hprepared, hlast, List.filterMap_append]
  cases hcall : call? registry s <;> simp [hcall]

/-- What the configuration of a script answers, and what it prepares until then. -/
structure Diagnosis (registry : Registry δ) (script : String)
    (c : Outcome δ (Except ScriptError Unit)) : Prop where
  unparsed : ∀ cause, Script.parse script = .error cause →
    c.result = .error cause ∧ preparations c.events = []
  ok_iff : ∀ statements, Script.parse script = .ok statements →
    (c.result = .ok () ↔ AllTaken registry statements)
  error_iff : ∀ statements, Script.parse script = .ok statements → ∀ cause,
    (c.result = .error cause ↔ ∃ before s, Blames registry statements before s cause)
  prepared : ∀ statements, Script.parse script = .ok statements → ∀ before s cause,
    Blames registry statements before s cause →
      preparations c.events = (before ++ [s]).filterMap (call? registry)

theorem result_configure {script : String} {statements : List Statement}
    (h : Script.parse script = .ok statements) (serial : Nat) (e : Environment δ)
    (p : Pipeline δ) :
    (p.configure serial script e).result = (constructAll e.registry serial statements).result := by
  rw [configure, h]
  cases hresult : (constructAll e.registry serial statements).result with
  | error cause => simp only [hresult]
  | ok => simp only [hresult]

theorem preparations_configure {script : String} {statements : List Statement}
    (h : Script.parse script = .ok statements) (serial : Nat) (e : Environment δ)
    (p : Pipeline δ) :
    preparations (p.configure serial script e).events =
      preparations (constructAll e.registry serial statements).events := by
  rw [configure, h]
  cases hresult : (constructAll e.registry serial statements).result with
  | error cause =>
      simp only [hresult, close, preparations_append, preparations_destroyAll, List.nil_append,
        List.append_nil]
  | ok =>
      simp only [hresult, close, preparations_append, preparations_destroyAll, List.nil_append]

/-- A configuration goes well exactly if every statement makes a directive on its own.
Otherwise it reports what the first that makes none comes to on its own, and no
statement behind that one has a directive prepared. -/
theorem configure_diagnosis {e : Environment δ} (h : e.registry.Unplaced) (serial : Nat)
    (script : String) (p : Pipeline δ) :
    Diagnosis e.registry script (p.configure serial script e) where
  unparsed cause hparse := by
    rw [configure, hparse]
    exact ⟨rfl, preparations_destroyAll p.steps⟩
  ok_iff statements hparse := by
    rw [result_configure hparse]
    refine ⟨fun hok => ?_, fun hall => constructAll_of_allTaken hall serial⟩
    obtain hall | ⟨before, s, cause, hblames⟩ := allTaken_or_blames h statements
    · exact hall
    · have herror := (constructAll_of_blames hblames serial).1
      exact absurd (hok.symm.trans herror) (by simp)
  error_iff statements hparse cause := by
    rw [result_configure hparse]
    refine ⟨fun herror => ?_, fun ⟨before, s, hblames⟩ =>
      (constructAll_of_blames hblames serial).1⟩
    obtain hall | ⟨before, s, found, hblames⟩ := allTaken_or_blames h statements
    · have hok := constructAll_of_allTaken hall serial
      exact absurd (hok.symm.trans herror) (by simp)
    · have hfound := (constructAll_of_blames hblames serial).1
      obtain rfl : found = cause := Except.error.inj (hfound.symm.trans herror)
      exact ⟨before, s, hblames⟩
  prepared statements hparse before s cause hblames := by
    rw [preparations_configure hparse]
    exact (constructAll_of_blames hblames serial).2

/-- There is no such operation, so the second statement is at fault, and that the third
names no directive goes unsaid. -/
theorem configure_diagnosis_of_unknown_operation :
    Registry.standard.Unplaced ∧
      ∃ before s, Blames Registry.standard
        [⟨1, "drop", ":a", 5⟩, ⟨1, "get-date", ":b :c eon", 18⟩, ⟨2, "nothing", ":d", 8⟩]
        before s (.statement 1 (.invalidArgument "get-date" "op"
          "unknown date operation 'eon'")) := by
  have hplain := Registry.unplaced_builtIn Registry.standard
  have h := @configure_diagnosis BuiltIn _ ⟨"", .standard, .empty⟩ hplain 0
    "drop :a; get-date :b :c eon\nnothing :d" new
  exact ⟨hplain, (h.error_iff _ (by decide +kernel) _).mp (by decide +kernel)⟩

end Pipeline

end

end RowScript
