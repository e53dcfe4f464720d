import RowScript.Proofs.Instances
import RowScript.Proofs.Lifecycle

/-!
Who destroys an instance. Configuring, running and closing each keep the ledger of a
session, so a pipeline always answers for the instances that it prepared: it holds them or
has destroyed them, and it runs only those that it holds.
-/

namespace RowScript

open Event

variable {δ : Type}

namespace Pipeline

/-- Constructions start the lives of new instances and end none of them. -/
structure Built (serial : Nat) (c : Construction δ) : Prop where
  ledger : Ledger c.events (c.steps.map (·.serial))
    (serial + (serials .created c.events).length)
  above : ∀ e ∈ c.events, serial ≤ e.serial
  destroyed : serials .destroyed c.events = []
  ready : c.result = .ok () →
    ∀ n ∈ c.steps.map (·.serial), Open n true (about n c.events)

theorem Built.prepared {serial : Nat} {c : Construction δ} (h : Built serial c) :
    serials .prepared c.events = c.steps.map (·.serial) := by
  rw [h.ledger.balance, h.destroyed, List.nil_append]

theorem built_nil (serial : Nat) : Built serial (⟨[], [], .ok ()⟩ : Construction δ) :=
  ⟨.nil serial, nofun, rfl, nofun⟩

theorem Built.append {serial : Nat} {first rest : Construction δ}
    (h : Built serial first) (hfirst : first.result = .ok ())
    (hrest : Built (serial + (serials .created first.events).length) rest) :
    Built serial ⟨first.events ++ rest.events, first.steps ++ rest.steps, rest.result⟩ where
  ledger := by
    rw [List.map_append, serials_append, List.length_append, ← Nat.add_assoc]
    exact h.ledger.append hrest.ledger hrest.above hrest.destroyed (Nat.le_add_right _ _)
  above e he := by
    rcases List.mem_append.mp he with he | he
    · exact h.above e he
    · exact Nat.le_trans (Nat.le_add_right _ _) (hrest.above e he)
  destroyed := by rw [serials_append, h.destroyed, hrest.destroyed, List.append_nil]
  ready hok n hn := by
    rw [List.map_append] at hn
    rcases List.mem_append.mp hn with hn | hn
    · rw [about_append_of_lt hrest.above (h.ledger.lt_of_mem hn)]
      exact h.ready hfirst n hn
    · rw [about_append_of_ge h.ledger.below (hrest.ledger.le_of_mem hrest.above hn)]
      exact hrest.ready hok n hn

variable [Directive δ]

theorem Attempt.built {registry : Registry δ} {serial : Nat} {s : Statement}
    {c : Construction δ} (h : Attempt registry serial s c) : Built serial c := by
  have habove (fresh : δ) (arguments : Arguments) (taken : Bool) :
      ∀ e ∈ [.created serial fresh, .prepared serial fresh arguments taken],
        serial ≤ Event.serial e := by simp [Event.serial]
  cases h with
  | unknown e => exact ⟨.nil serial, by simp, rfl, by simp⟩
  | refused fresh e =>
      exact ⟨.refused serial fresh, by simp [Event.serial], rfl, by simp⟩
  | failed fresh d arguments e =>
      exact ⟨.prepared serial fresh arguments false, habove fresh arguments false, rfl, by simp⟩
  | taken fresh d arguments =>
      refine ⟨.prepared serial fresh arguments true, habove fresh arguments true, rfl, ?_⟩
      intro _ n hn
      obtain rfl := List.mem_singleton.mp hn
      rw [about_of_all (by simp [Event.serial])]
      exact .prepared fresh arguments true

theorem built_constructAll (registry : Registry δ) (serial : Nat)
    (statements : List Statement) :
    Built serial (constructAll registry serial statements) := by
  induction statements generalizing serial with
  | nil => exact built_nil serial
  | cons s statements ih =>
      have h := attempt_construct registry serial s
      rw [constructAll]
      generalize construct registry serial s = first at h ⊢
      have hbuilt := h.built
      cases h with
      | unknown | refused | failed => exact hbuilt
      | taken => exact hbuilt.append rfl (ih (serial + 1))

/-- What a configuration makes of a script, which is nothing if the script cannot be read. -/
def attempted (registry : Registry δ) (serial : Nat) (script : String) : Construction δ :=
  constructAll registry serial ((Script.parse script).toOption.getD [])

/-- A configuration ends what was held and builds something new, and keeps it exactly if
it succeeds. -/
theorem configure_eq_attempted (serial : Nat) (script : String) (e : Environment δ)
    (p : Pipeline δ) :
    ((∃ error, (p.configure serial script e).result = .error error) ∧
      (p.configure serial script e).pipeline = new ∧
      (p.configure serial script e).events = destroyAll p.steps ++
        (attempted e.registry serial script).events ++
        destroyAll (attempted e.registry serial script).steps) ∨
    ((p.configure serial script e).result = .ok () ∧
      (attempted e.registry serial script).result = .ok () ∧
      (p.configure serial script e).pipeline =
        ⟨.configured, (attempted e.registry serial script).steps, e.context⟩ ∧
      (p.configure serial script e).events =
        destroyAll p.steps ++ (attempted e.registry serial script).events) := by
  rw [configure, attempted]
  cases Script.parse script with
  | error error =>
      refine .inl ⟨⟨error, rfl⟩, rfl, ?_⟩
      simp [close, destroyAll, Except.toOption, constructAll]
  | ok statements =>
      simp only [Except.toOption, Option.getD_some]
      cases hresult : (constructAll e.registry serial statements).result with
      | error error => exact .inl ⟨⟨error, rfl⟩, rfl, rfl⟩
      | ok => exact .inr ⟨rfl, rfl, rfl, rfl⟩

theorem serials_runSteps (index : Nat) (c : Context) (rows : List Row)
    (steps : List (Step δ)) :
    (runSteps index c rows steps).steps.map (·.serial) = steps.map (·.serial) := by
  induction steps generalizing index c rows with
  | nil => rfl
  | cons step steps ih =>
      rw [runSteps]
      split
      · rfl
      · exact congrArg (step.serial :: ·) (ih _ _ _)

theorem executed_of_mem_runSteps {index : Nat} {c : Context} {rows : List Row}
    {steps : List (Step δ)} {e : Event δ} (h : e ∈ (runSteps index c rows steps).events) :
    e.kind = .executed ∧ e.serial ∈ steps.map (·.serial) := by
  induction steps generalizing index c rows with
  | nil => simp [runSteps] at h
  | cons step steps ih =>
      rw [runSteps] at h
      split at h
      · rw [List.mem_singleton.mp h]
        exact ⟨rfl, List.mem_cons_self⟩
      · rcases List.mem_cons.mp h with rfl | h
        · exact ⟨rfl, List.mem_cons_self⟩
        · exact (ih h).imp id (List.mem_cons_of_mem _)

end Pipeline

namespace Session

open Pipeline

/-- The instances that the pipeline of a session holds, in the order of its steps. -/
def held (s : Session δ) : List Nat := s.pipeline.steps.map (·.serial)

/-- A session whose books are in order and whose pipeline can be run. -/
structure Sound (s : Session δ) : Prop where
  ledger : Ledger s.log s.held s.next
  ready : ∀ n ∈ s.held, Open n true (about n s.log)

variable [Directive δ]

/-- What configuring and closing destroy: first what was held, and then, where a
configuration fails, what it prepared. -/
theorem destroyed_events {s : Session δ} {op : Operation δ} :
    serials .destroyed (s.events op) =
      if op.tearsDown then
        s.held ++ if (s.perform op).pipeline.isConfigured then []
          else serials .prepared (s.events op)
      else [] := by
  have hnone (rows : List Row) : serials .destroyed (s.pipeline.executeRows rows).events = [] := by
    cases h : s.pipeline.isConfigured with
    | false => rw [executeRows_of_idle h]; rfl
    | true =>
        rw [(executeRows_of_ready h rows).2.2]
        exact serials_of_other (fun _ he => (executed_of_mem_runSteps he).1) (by decide)
  cases op with
  | configure script e =>
      have hbuilt : Built s.next (attempted e.registry s.next script) :=
        built_constructAll e.registry s.next _
      obtain ⟨_, hpipeline, hevents⟩ | ⟨_, _, hpipeline, hevents⟩ :=
        configure_eq_attempted s.next script e s.pipeline
      · simp [events, perform, Operation.apply, Operation.tearsDown, hpipeline, hevents,
          hbuilt.destroyed, hbuilt.prepared, serials_destroyAll, new, isConfigured, held]
      · simp [events, perform, Operation.apply, Operation.tearsDown, hpipeline, hevents,
          hbuilt.destroyed, isConfigured, held]
  | close =>
      simp [events, perform, Operation.apply, Operation.tearsDown, close, serials_destroyAll,
        new, isConfigured, held]
  | executeRows rows => exact hnone rows
  | execute rows => exact hnone rows
  | increment => rfl

theorem sound_configure {s : Session δ} (h : s.Sound) (script : String) (e : Environment δ) :
    (s.perform (.configure script e)).Sound := by
  have hbuilt : Built s.next (attempted e.registry s.next script) :=
    built_constructAll e.registry s.next _
  have hclosed : Ledger (s.log ++ destroyAll s.pipeline.steps) [] s.next := h.ledger.destroy
  have hledger := hclosed.append hbuilt.ledger hbuilt.above hbuilt.destroyed
    (Nat.le_add_right _ _)
  obtain ⟨_, hpipeline, hevents⟩ | ⟨_, hok, hpipeline, hevents⟩ :=
    configure_eq_attempted s.next script e s.pipeline
  · constructor
    · simpa [held, perform, events, Operation.apply, hpipeline, hevents, new,
        serials_destroyAll] using hledger.destroy
    · simp [held, perform, Operation.apply, hpipeline, new]
  · constructor
    · simpa [held, perform, events, Operation.apply, hpipeline, hevents,
        serials_destroyAll] using hledger
    · intro n hn
      have hnew : n ∈ (attempted e.registry s.next script).steps.map (·.serial) := by
        simpa [held, perform, Operation.apply, hpipeline] using hn
      have hge : s.next ≤ n := hbuilt.ledger.le_of_mem hbuilt.above hnew
      rw [perform, events, Operation.apply, hevents, ← List.append_assoc,
        about_append_of_ge hclosed.below hge]
      exact hbuilt.ready hok n hnew

theorem sound_executeRows {s : Session δ} (h : s.Sound) (rows : List Row) :
    (s.perform (.executeRows rows)).Sound := by
  cases hstage : s.pipeline.isConfigured with
  | false =>
      have hsame : s.perform (.executeRows rows) = s := by
        simp [perform, events, Operation.apply, executeRows_of_idle hstage, serials]
      rw [hsame]
      exact h
  | true =>
      obtain ⟨-, hsteps, hevents⟩ := executeRows_of_ready hstage rows
      have huses : ∀ e ∈ s.events (.executeRows rows),
          e.kind = .executed ∧ e.serial ∈ s.held := by
        intro e he
        rw [events, Operation.apply, hevents] at he
        exact executed_of_mem_runSteps he
      have hheld : (s.perform (.executeRows rows)).held = s.held := by
        rw [held, perform, Operation.apply, hsteps]
        exact serials_runSteps _ _ _ _
      have hnext : (s.perform (.executeRows rows)).next = s.next := by
        rw [perform, serials_of_other (fun e he => (huses e he).1) (by decide)]
        rfl
      obtain ⟨hledger, hready⟩ := h.ledger.use h.ready huses
      constructor
      · rw [hheld, hnext]
        exact hledger
      · rw [hheld]
        exact hready

theorem sound_perform {s : Session δ} (h : s.Sound) (op : Operation δ) :
    (s.perform op).Sound := by
  cases op with
  | configure script e => exact sound_configure h script e
  | executeRows rows | execute rows => exact sound_executeRows h rows
  | close =>
      constructor
      · simpa [held, perform, events, Operation.apply, close, new, serials_destroyAll]
          using h.ledger.destroy
      · simp [held, perform, Operation.apply, close, new]
  | increment counter amount =>
      have hlog : (s.perform (.increment counter amount)).log = s.log := List.append_nil _
      refine ⟨?_, ?_⟩
      · rw [hlog]
        exact h.ledger
      · rw [hlog]
        exact h.ready

theorem sound_after (history : List (Operation δ)) : (after history).Sound := by
  induction history using List.reverseRecOn with
  | nil => exact ⟨.nil 0, nofun⟩
  | append_singleton history op ih =>
      rw [after_concat]
      exact sound_perform ih op

/-- What becomes of the directives of a pipeline after any history, and once the pipeline
is dropped. -/
structure Accounted (history : List (Operation δ)) : Prop where
  balance : (serials .prepared (after history).log).length =
    (serials .destroyed (after history).log).length + (after history).pipeline.size
  held : serials .prepared (after history).log =
    serials .destroyed (after history).log ++ (after history).held
  torn : ∀ op, serials .destroyed ((after history).events op) =
    if op.tearsDown then
      (after history).held ++ if ((after history).perform op).pipeline.isConfigured then []
        else serials .prepared ((after history).events op)
    else []
  lives : ∀ n, Life n (about n (after history).dropped)
  dropped : serials .destroyed (after history).dropped =
    serials .prepared (after history).dropped

/-- Every directive that is prepared is destroyed exactly once and never used afterwards. At
any time the prepared instances are the destroyed ones, in the order in which they were
made, and behind them those that are held; in the end none is left, and the events about
each instance are those of a whole life. -/
theorem accounted (history : List (Operation δ)) : Accounted history := by
  have hsound := sound_after history
  have hended : Ledger (after history).dropped [] (after history).next :=
    hsound.ledger.destroy
  refine ⟨?_, hsound.ledger.balance, fun op => destroyed_events, ?_, ?_⟩
  · rw [hsound.ledger.balance, List.length_append, Session.held, List.length_map]
    rfl
  · exact fun n => hended.over_of_not_mem n (by simp)
  · rw [hended.balance, List.append_nil]

end Session

end RowScript
