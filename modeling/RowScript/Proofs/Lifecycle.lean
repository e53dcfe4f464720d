import Mathlib.Data.List.Induction
import RowScript.Pipeline.Session
import RowScript.Proofs.Construction

/-!
The stages of a pipeline. Only configuring and closing move a pipeline from one stage to
the other, and both start with the same empty pipeline, so the last of them alone decides
what a pipeline can do and what it holds, however it was used before.
-/

namespace RowScript

namespace Pipeline

variable {δ : Type} [Directive δ]

theorem executeRows_of_idle {p : Pipeline δ} (h : p.isConfigured = false) (rows : List Row) :
    p.executeRows rows = ⟨p, [], .error .notConfigured⟩ := by
  obtain ⟨stage, steps, context⟩ := p
  cases stage with
  | unconfigured => rfl
  | configured => exact absurd h.symm Bool.false_ne_true

theorem execute_of_idle {p : Pipeline δ} (h : p.isConfigured = false) (rows : List Row)
    (schema : Schema) : p.execute rows schema = ⟨p, [], .error .notConfigured⟩ := by
  rw [execute, executeRows_of_idle h]
  rfl

theorem executeRows_of_ready {p : Pipeline δ} (h : p.isConfigured = true)
    (rows : List Row) :
    (p.executeRows rows).pipeline.stage = .configured ∧
      (p.executeRows rows).pipeline.steps =
        (runSteps 0 (p.context.increment "rows.in" rows.length) rows p.steps).steps ∧
      (p.executeRows rows).events =
        (runSteps 0 (p.context.increment "rows.in" rows.length) rows p.steps).events := by
  obtain ⟨stage, steps, context⟩ := p
  cases stage with
  | unconfigured => exact absurd h Bool.false_ne_true
  | configured =>
      rw [executeRows]
      simp only
      cases (runSteps 0 (context.increment "rows.in" rows.length) rows steps).result <;>
        exact ⟨rfl, rfl, rfl⟩

theorem executeRows_keeps_stage (p : Pipeline δ) (rows : List Row) :
    (p.executeRows rows).pipeline.isConfigured = p.isConfigured := by
  cases h : p.isConfigured with
  | false => rw [executeRows_of_idle h, h]
  | true => rw [isConfigured, (executeRows_of_ready h rows).1]

theorem configure_cases (serial : Nat) (script : String) (e : Environment δ) (p : Pipeline δ) :
    (∃ error, (p.configure serial script e).result = .error error ∧
      (p.configure serial script e).pipeline = new) ∨
    ((p.configure serial script e).result = .ok () ∧
      ∃ statements, Script.parse script = .ok statements ∧
        ∃ steps, (p.configure serial script e).pipeline = ⟨.configured, steps, e.context⟩ ∧
          List.Forall₂ (Makes e.registry) statements steps) := by
  rw [configure]
  cases Script.parse script with
  | error error => exact .inl ⟨error, rfl, rfl⟩
  | ok statements =>
      simp only
      cases hresult : (constructAll e.registry serial statements).result with
      | error error => exact .inl ⟨error, rfl, rfl⟩
      | ok => exact .inr ⟨rfl, statements, rfl, _, rfl, makes_of_constructAll hresult⟩

theorem isConfigured_configure (serial : Nat) (script : String) (e : Environment δ)
    (p : Pipeline δ) :
    (p.configure serial script e).pipeline.isConfigured = true ↔
      (p.configure serial script e).result = .ok () := by
  obtain ⟨error, hresult, hnew⟩ | ⟨hresult, _, _, _, hpipeline, _⟩ :=
    configure_cases serial script e p
  · rw [hresult, hnew]
    simp [new, isConfigured]
  · rw [hresult, hpipeline]
    simp [isConfigured]

/-- What was there before reaches the events of a configuration and nothing else. -/
theorem configure_eq_new (serial : Nat) (script : String) (e : Environment δ)
    (p : Pipeline δ) :
    (p.configure serial script e).result = (new.configure serial script e).result ∧
      (p.configure serial script e).pipeline = (new.configure serial script e).pipeline := by
  rw [configure, configure]
  cases Script.parse script with
  | error error => exact ⟨rfl, rfl⟩
  | ok statements =>
      simp only
      cases (constructAll e.registry serial statements).result <;> exact ⟨rfl, rfl⟩

end Pipeline

namespace Session

open Pipeline

variable {δ : Type} [Directive δ]

/-- A session after a history, from its start. -/
def after (history : List (Operation δ)) : Session δ := start.run history

@[simp] theorem after_nil : after ([] : List (Operation δ)) = start := rfl

@[simp] theorem after_concat (history : List (Operation δ)) (op : Operation δ) :
    after (history ++ [op]) = (after history).perform op := by
  rw [after, run, List.foldl_append]
  rfl

/-- Whether a script is accepted in a session. -/
def Accepts (s : Session δ) (script : String) (e : Environment δ) : Prop :=
  (s.pipeline.configure s.next script e).result = .ok ()

instance (s : Session δ) (script : String) (e : Environment δ) :
    Decidable (s.Accepts script e) :=
  inferInstanceAs (Decidable (_ = _))

/-- An operation that tears down decides on its own whether the pipeline can run, and any
other leaves that as it was. -/
theorem isConfigured_perform_iff (s : Session δ) (op : Operation δ) :
    (s.perform op).pipeline.isConfigured = true ↔
      (∃ script e, op = .configure script e ∧ s.Accepts script e) ∨
        (op.tearsDown = false ∧ s.pipeline.isConfigured = true) := by
  cases op with
  | configure script e =>
      rw [perform, Operation.apply, isConfigured_configure]
      constructor
      · intro haccepts
        exact .inl ⟨script, e, rfl, haccepts⟩
      · rintro (⟨_, _, hop, haccepts⟩ | ⟨hkeeps, _⟩)
        · cases hop
          exact haccepts
        · simp [Operation.tearsDown] at hkeeps
  | executeRows rows | execute rows =>
      have hsame := executeRows_keeps_stage s.pipeline rows
      simp [perform, Operation.apply, Operation.tearsDown, execute, hsame]
  | close => simp [perform, Operation.apply, Operation.tearsDown, close, new, isConfigured]
  | increment => simp [perform, Operation.apply, Operation.tearsDown, increment, isConfigured]

/-- The last of all configurations and closings of a history is a configuration that
succeeded. -/
def Standing (history : List (Operation δ)) : Prop :=
  ∃ before script e behind, history = before ++ .configure script e :: behind ∧
    (∀ op ∈ behind, op.tearsDown = false) ∧ (after before).Accepts script e

theorem not_standing_nil : ¬Standing ([] : List (Operation δ)) := by
  intro ⟨_, _, _, _, h, _⟩
  simp at h

theorem standing_concat_iff {history : List (Operation δ)} {op : Operation δ} :
    Standing (history ++ [op]) ↔
      (∃ script e, op = .configure script e ∧ (after history).Accepts script e) ∨
        (op.tearsDown = false ∧ Standing history) := by
  constructor
  · intro ⟨before, script, e, behind, hsplit, hkeeps, haccepts⟩
    rcases List.eq_nil_or_concat behind with rfl | ⟨rest, last, rfl⟩
    · obtain ⟨rfl, rfl⟩ := List.append_inj' hsplit rfl |>.imp id List.singleton_inj.mp
      exact .inl ⟨script, e, rfl, haccepts⟩
    · rw [List.concat_eq_append, ← List.cons_append, ← List.append_assoc] at hsplit
      obtain ⟨rfl, rfl⟩ := List.append_inj' hsplit rfl |>.imp id List.singleton_inj.mp
      have hrest : ∀ other ∈ rest, other.tearsDown = false :=
        fun other hother => hkeeps other (by simp [hother])
      exact .inr ⟨hkeeps op (by simp), before, script, e, rest, rfl, hrest, haccepts⟩
  · rintro (⟨script, e, rfl, haccepts⟩ | ⟨hkeeps, before, script, e, behind, rfl, hbehind, haccepts⟩)
    · exact ⟨history, script, e, [], rfl, by simp, haccepts⟩
    · refine ⟨before, script, e, behind ++ [op], by simp, ?_, haccepts⟩
      exact List.forall_mem_append.mpr ⟨hbehind, List.forall_mem_singleton.mpr hkeeps⟩

theorem isConfigured_after_iff (history : List (Operation δ)) :
    (after history).pipeline.isConfigured = true ↔ Standing history := by
  induction history using List.reverseRecOn with
  | nil => simp [not_standing_nil, start, new, isConfigured]
  | append_singleton history op ih =>
      rw [after_concat, isConfigured_perform_iff, standing_concat_iff, ih]

/-- A pipeline that cannot run holds nothing. -/
def Idle (p : Pipeline δ) : Prop := p.isConfigured = false → p.steps = []

theorem idle_perform {s : Session δ} (h : Idle s.pipeline) (op : Operation δ) :
    Idle (s.perform op).pipeline := by
  cases op with
  | configure script e =>
      intro hidle
      rw [perform, Operation.apply] at hidle ⊢
      obtain ⟨_, _, hnew⟩ | ⟨_, _, _, _, hpipeline, _⟩ :=
        configure_cases s.next script e s.pipeline
      · rw [hnew]
        rfl
      · rw [hpipeline] at hidle
        exact absurd hidle.symm Bool.false_ne_true
  | executeRows rows | execute rows =>
      intro hidle
      have hbefore : s.pipeline.isConfigured = false :=
        (executeRows_keeps_stage s.pipeline rows).symm.trans hidle
      simpa only [perform, Operation.apply, execute, executeRows_of_idle hbefore] using h hbefore
  | close => exact fun _ => rfl
  | increment => exact h

theorem idle_after (history : List (Operation δ)) : Idle (after history).pipeline := by
  induction history using List.reverseRecOn with
  | nil => exact fun _ => rfl
  | append_singleton history op ih =>
      rw [after_concat]
      exact idle_perform ih op

/-- The pipeline that a history leaves, in what it can do and in what can be made of it. -/
structure Lifecycle (history : List (Operation δ)) : Prop where
  configured_iff : (after history).pipeline.isConfigured = true ↔ Standing history
  idle : (after history).pipeline.isConfigured = false →
    (after history).pipeline.steps = [] ∧
      ∀ rows,
        (after history).pipeline.executeRows rows =
          ⟨(after history).pipeline, [], .error .notConfigured⟩ ∧
        ∀ schema, (after history).pipeline.execute rows schema =
          ⟨(after history).pipeline, [], .error .notConfigured⟩
  closed : (after history).pipeline.close.pipeline = new
  failed : ∀ serial script e error,
    ((after history).pipeline.configure serial script e).result = .error error →
      ((after history).pipeline.configure serial script e).pipeline = new
  anew : ∀ serial script e,
    ((after history).pipeline.configure serial script e).result =
        (new.configure serial script e).result ∧
      ((after history).pipeline.configure serial script e).pipeline =
        (new.configure serial script e).pipeline
  built : ∀ serial script e,
    ((after history).pipeline.configure serial script e).result = .ok () →
      ∃ statements, Script.parse script = .ok statements ∧
        ∃ steps, ((after history).pipeline.configure serial script e).pipeline =
            ⟨.configured, steps, ⟨e.name, e.properties, .empty, .empty⟩⟩ ∧
          List.Forall₂ (Makes e.registry) statements steps

/-- After any history a pipeline can run exactly if the last configuration or closing was
a configuration that succeeded. Otherwise it holds nothing and refuses to run without a
trace. Closing it, or failing to configure it, leaves a new pipeline, and configuring it
is configuring a new one. -/
theorem lifecycle (history : List (Operation δ)) : Lifecycle history where
  configured_iff := isConfigured_after_iff history
  idle hidle := ⟨idle_after history hidle, fun rows =>
    ⟨executeRows_of_idle hidle rows, execute_of_idle hidle rows⟩⟩
  closed := rfl
  failed serial script e error herror := by
    obtain ⟨_, _, hnew⟩ | ⟨hok, _⟩ :=
      configure_cases serial script e (after history).pipeline
    · exact hnew
    · exact absurd (herror.symm.trans hok) (by simp)
  anew serial script e := configure_eq_new serial script e _
  built serial script e hok := by
    obtain ⟨_, herror, _⟩ | ⟨_, hbuilt⟩ :=
      configure_cases serial script e (after history).pipeline
    · exact absurd (herror.symm.trans hok) (by simp)
    · exact hbuilt

end Session

end RowScript
