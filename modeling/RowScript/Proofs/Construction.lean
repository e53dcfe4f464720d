import Mathlib.Data.List.Forall2
import RowScript.Pipeline.Basic
import RowScript.Proofs.Lines

/-!
What statements make. The directive of a statement depends on the statement's name and
arguments alone; its line and the serial numbers are only written down. So statements
that succeed make the same directives wherever they stand.
-/

namespace RowScript.Pipeline

variable {δ : Type} [Directive δ] {registry : Registry δ}

/-- The directive that a statement makes, if it makes one. -/
def made? (registry : Registry δ) (s : Statement) : Option δ :=
  match registry.usage? s.name, registry.create? s.name with
  | some usage, some fresh =>
    match s.tokens with
    | .error _ => none
    | .ok tokens =>
      match usage.bind tokens with
      | .error _ => none
      | .ok arguments =>
        match Directive.prepare arguments fresh with
        | (_, .error _) => none
        | (directive, .ok ()) => some directive
  | _, _ => none

theorem made?_down (count : Nat) (s : Statement) :
    made? registry (s.down count) = made? registry s := by
  simp only [made?, Statement.tokens, Statement.down]
  cases registry.usage? s.name <;> cases registry.create? s.name <;>
    cases tokenize s.arguments <;> rfl

/-- Whether a statement names a directive but cannot give it its arguments, as they are
no tokens or not what the directive asks for. -/
def refused (registry : Registry δ) (s : Statement) : Bool :=
  match registry.usage? s.name, registry.create? s.name with
  | some usage, some _ =>
    match s.tokens with
    | .error _ => true
    | .ok tokens => !(usage.bind tokens).toBool
  | _, _ => false

/-- What can come of a statement whose instance has the given number. -/
inductive Attempt (registry : Registry δ) (serial : Nat) (s : Statement) :
    Construction δ → Prop where
  | unknown (e : ScriptError) (hrefused : refused registry s = false)
      (hmade : made? registry s = none) : Attempt registry serial s ⟨[], [], .error e⟩
  | refused (fresh : δ) (e : ScriptError) (hrefused : refused registry s = true)
      (hmade : made? registry s = none) :
      Attempt registry serial s ⟨[.created serial fresh], [], .error e⟩
  | failed (fresh d : δ) (arguments : Arguments) (e : ScriptError)
      (hrefused : refused registry s = false) (hmade : made? registry s = none) :
      Attempt registry serial s ⟨[.created serial fresh, .prepared serial fresh arguments false],
        [⟨s.line, serial, d⟩], .error e⟩
  | taken (fresh d : δ) (arguments : Arguments) (hmade : made? registry s = some d) :
      Attempt registry serial s ⟨[.created serial fresh, .prepared serial fresh arguments true],
        [⟨s.line, serial, d⟩], .ok ()⟩

theorem attempt_construct (registry : Registry δ) (serial : Nat) (s : Statement) :
    Attempt registry serial s (construct registry serial s) := by
  rw [construct]
  cases husage : registry.usage? s.name with
  | none => exact .unknown _ (by simp [refused, husage]) (by simp [made?, husage])
  | some usage =>
      cases hcreate : registry.create? s.name with
      | none =>
          exact .unknown _ (by simp [refused, husage, hcreate]) (by simp [made?, husage, hcreate])
      | some fresh =>
          cases htokens : s.tokens with
          | error e =>
              exact .refused fresh e (by simp [refused, husage, hcreate, htokens])
                (by simp [made?, husage, hcreate, htokens])
          | ok tokens =>
              simp only
              have hrefused : refused registry s = !(usage.bind tokens).toBool := by
                simp [refused, husage, hcreate, htokens]
              cases hbind : usage.bind tokens with
              | error e =>
                  exact .refused fresh _ (by rw [hrefused, hbind]; rfl)
                    (by simp [made?, husage, hcreate, htokens, hbind])
              | ok arguments =>
                  rw [hbind] at hrefused
                  simp only
                  cases hprepare : Directive.prepare arguments fresh with
                  | mk d result =>
                      cases result with
                      | error e =>
                          exact .failed fresh d arguments _ hrefused
                            (by simp [made?, husage, hcreate, htokens, hbind, hprepare])
                      | ok =>
                          exact .taken fresh d arguments
                            (by simp [made?, husage, hcreate, htokens, hbind, hprepare])

/-- A statement that makes a directive makes one step with it, and any other fails. -/
theorem construct_cases (registry : Registry δ) (serial : Nat) (s : Statement) :
    (∃ d, made? registry s = some d ∧ (construct registry serial s).result = .ok () ∧
      (construct registry serial s).steps = [⟨s.line, serial, d⟩]) ∨
    (made? registry s = none ∧ ∃ e, (construct registry serial s).result = .error e) := by
  have h := attempt_construct registry serial s
  generalize construct registry serial s = c at h ⊢
  cases h with
  | unknown e _ hmade | refused _ e _ hmade | failed _ _ _ e _ hmade =>
      exact .inr ⟨hmade, e, rfl⟩
  | taken _ d _ hmade => exact .inl ⟨d, hmade, rfl, rfl⟩

theorem construct_of_made {s : Statement} {d : δ} (h : made? registry s = some d)
    (serial : Nat) :
    (construct registry serial s).result = .ok () ∧
      (construct registry serial s).steps = [⟨s.line, serial, d⟩] := by
  obtain ⟨d', hd', hspec⟩ | ⟨hnone, -⟩ := construct_cases registry serial s
  · obtain rfl : d = d' := Option.some.inj (h.symm.trans hd')
    exact hspec
  · exact absurd (h.symm.trans hnone) (by simp)

theorem exists_made {s : Statement} {serial : Nat}
    (h : (construct registry serial s).result = .ok ()) : ∃ d, made? registry s = some d := by
  obtain ⟨d, hd, -⟩ | ⟨-, e, he⟩ := construct_cases registry serial s
  · exact ⟨d, hd⟩
  · exact absurd (h.symm.trans he) (by simp)

/-- Statements are made into steps if each of them makes a directive, and the steps hold
these directives in their order. -/
theorem constructAll_iff {serial : Nat} {statements : List Statement} {ds : List δ} :
    (constructAll registry serial statements).result = .ok () ∧
        (constructAll registry serial statements).steps.map (·.directive) = ds ↔
      List.Forall₂ (fun s d => made? registry s = some d) statements ds := by
  induction statements generalizing serial ds with
  | nil => simp [constructAll, eq_comm]
  | cons s statements ih =>
      rw [List.forall₂_cons_left_iff]
      simp only [← @ih (serial + 1)]
      constructor
      · intro ⟨hresult, hsteps⟩
        rw [constructAll] at hresult hsteps
        split at hresult
        next => simp at hresult
        next hfirst =>
            obtain ⟨d, hd⟩ := exists_made hfirst
            simp only [hfirst, (construct_of_made hd serial).2] at hsteps
            exact ⟨d, _, hd, ⟨hresult, rfl⟩, hsteps.symm⟩
      · intro ⟨d, _, hd, ⟨hresult, hrest⟩, hds⟩
        subst hrest hds
        obtain ⟨hfirst, hsteps⟩ := construct_of_made hd serial
        rw [constructAll]
        simp only [hfirst, hsteps]
        exact ⟨hresult, rfl⟩

/-- The step that a statement makes, but for its number. -/
def Makes (registry : Registry δ) (s : Statement) (step : Step δ) : Prop :=
  step.line = s.line ∧ made? registry s = some step.directive

theorem makes_of_constructAll {serial : Nat} {statements : List Statement}
    (h : (constructAll registry serial statements).result = .ok ()) :
    List.Forall₂ (Makes registry) statements
      (constructAll registry serial statements).steps := by
  induction statements generalizing serial with
  | nil => exact .nil
  | cons s statements ih =>
      rw [constructAll] at h ⊢
      obtain ⟨d, hd, hfirst, hsteps⟩ | ⟨-, e, hfirst⟩ := construct_cases registry serial s
      · simp only [hfirst] at h ⊢
        rw [hsteps]
        exact .cons ⟨rfl, hd⟩ (ih h)
      · simp [hfirst] at h

end RowScript.Pipeline
