import Mathlib.Order.Bounds.Defs
import RowScript.Proofs.Accounting
import RowScript.Proofs.Columns

/-!
Where a run fails. A directive stops at the first row that it cannot turn into another one,
and a run stops at the first directive that does so. Rows therefore compete for the error:
it tells of those that get stuck earliest, and of these the one in front. As directives
keep the rows in their places, a row has one number at every step.
-/

namespace RowScript

namespace Row

/-- One column has the first name, and another one the second. -/
def Collides (source target : String) (r : Row) : Prop :=
  ∃ a b : Nat, a ≠ b ∧ r.names[a]? = some source ∧ r.names[b]? = some target

variable {r : Row} {source target : String}

theorem renameColumn?_eq_none_iff :
    r.renameColumn? source target = none ↔ r.Collides source target := by
  cases hfind : r.find? source with
  | none =>
      rw [renameColumn?, hfind]
      refine iff_of_false (by simp) ?_
      rintro ⟨a, -, -, ha, -⟩
      rw [find?_eq_some_iff.mpr ha] at hfind
      cases hfind
  | some index =>
      have hindex := find?_eq_some_iff.mp hfind
      have hwidth : index < r.width := by
        simpa [width, names, Columns.names] using (List.getElem?_eq_some_iff.mp hindex).1
      rw [renameColumn?_of_find? hfind, ite_eq_right_iff, fst_rename_iff]
      simp only [hwidth, true_and, reduceCtorEq, imp_false, not_forall, not_not, exists_prop]
      constructor
      · rintro ⟨b, hne, hb⟩
        exact ⟨index, b, hne.symm, hindex, hb⟩
      · rintro ⟨a, b, hne, ha, hb⟩
        obtain rfl : index = a := Option.some.inj (hfind.symm.trans (find?_eq_some_iff.mpr ha))
        exact ⟨b, hne.symm, hb⟩

end Row

namespace BuiltIn

variable {d : BuiltIn} {row : Row} {rows : List Row}

theorem collides_of_transform {cause : ExecutionError} (h : d.transform row = .error cause) :
    ∃ source target, d = rename source target ∧ row.Collides source target ∧
      cause = ⟨"rename", none,
        "cannot rename '" ++ source ++ "': column '" ++ target ++ "' already exists"⟩ := by
  cases d with
  | rename source target =>
      rw [transform] at h
      split at h
      next hnone =>
          exact ⟨source, target, rfl, Row.renameColumn?_eq_none_iff.mp hnone,
            (Except.error.inj h).symm⟩
      next => cases h
  | getDate | parseAsDate | drop | fill => cases h

theorem first_of_transformFrom {index : Nat} {cause : ExecutionError}
    (h : d.transformFrom index rows = .error cause) :
    ∃ i row error, rows[i]? = some row ∧ d.transform row = .error error ∧
      cause = error.atRow (index + i) ∧
      ∀ j other error, rows[j]? = some other → d.transform other = .error error → i ≤ j := by
  induction rows generalizing index with
  | nil => cases h
  | cons row rows ih =>
      rw [transformFrom] at h
      cases hrow : d.transform row with
      | error error =>
          rw [hrow] at h
          cases h
          exact ⟨0, row, error, rfl, hrow, rfl, fun j _ _ _ _ => Nat.zero_le j⟩
      | ok done =>
          cases hrows : d.transformFrom (index + 1) rows with
          | ok rest =>
              rw [hrow, hrows] at h
              cases h
          | error error =>
              rw [hrow, hrows] at h
              cases h
              obtain ⟨i, failed, error, hget, hfailed, rfl, hfirst⟩ := ih hrows
              refine ⟨i + 1, failed, error, hget, hfailed, by rw [Nat.add_right_comm]; rfl, ?_⟩
              intro j other error hother hfails
              cases j with
              | zero =>
                  obtain rfl : row = other := Option.some.inj hother
                  rw [hrow] at hfails
                  cases hfails
              | succ j => exact Nat.succ_le_succ (hfirst j other error hother hfails)

end BuiltIn

namespace Pipeline

/-- Directives turn a row into another one, up to a step whose directive fails with that. -/
inductive Stuck : List BuiltIn → Row → Nat → Row → ExecutionError → Prop where
  | here {d : BuiltIn} {chain : List BuiltIn} {row : Row} {cause : ExecutionError}
      (h : d.transform row = .error cause) : Stuck (d :: chain) row 0 row cause
  | later {d : BuiltIn} {chain : List BuiltIn} {row middle reached : Row} {step : Nat}
      {cause : ExecutionError} (hfirst : d.transform row = .ok middle)
      (hrest : Stuck chain middle step reached cause) :
      Stuck (d :: chain) row (step + 1) reached cause

section

variable {chain : List BuiltIn} {row reached : Row} {step : Nat} {cause : ExecutionError}

theorem Stuck.fails (h : Stuck chain row step reached cause) :
    ∃ d, chain[step]? = some d ∧ Becomes (chain.take step) row reached ∧
      d.transform reached = .error cause := by
  induction h with
  | here h => exact ⟨_, rfl, rfl, h⟩
  | later hfirst _ ih =>
      obtain ⟨d, hd, hreached, hfails⟩ := ih
      exact ⟨d, hd, ⟨_, hfirst, hreached⟩, hfails⟩

theorem Stuck.not_becomes (h : Stuck chain row step reached cause) (done : Row) :
    ¬Becomes chain row done := by
  induction h with
  | here h =>
      intro ⟨middle, hmiddle, _⟩
      rw [h] at hmiddle
      cases hmiddle
  | later hfirst _ ih =>
      intro ⟨middle, hmiddle, hrest⟩
      obtain rfl := Except.ok.inj (hfirst.symm.trans hmiddle)
      exact ih hrest

theorem Stuck.outcome_singleton (h : Stuck chain row step reached cause) (index : Nat) :
    outcome index chain [row] = .error (.execution (index + step) (cause.atRow 0)) := by
  induction h generalizing index with
  | here h => simp [outcome, BuiltIn.transformFrom, h]
  | later hfirst _ ih =>
      simp [outcome, BuiltIn.transformFrom, hfirst, ih, Nat.add_assoc, Nat.add_comm 1]

/-- A run that fails tells of a row that gets stuck, and every other row that does so gets
stuck at a later step, or at the same step behind it. -/
theorem stuck_of_outcome {index : Nat} {rows : List Row} {e : RunError}
    (h : outcome index chain rows = .error e) :
    ∃ step i row reached cause, e = .execution (index + step) (cause.atRow i) ∧
      rows[i]? = some row ∧ Stuck chain row step reached cause ∧
      ∀ j other step' reached cause, rows[j]? = some other →
        Stuck chain other step' reached cause → step < step' ∨ step = step' ∧ i ≤ j := by
  induction chain generalizing index rows with
  | nil => cases h
  | cons d chain ih =>
      rw [outcome] at h
      cases hd : d.transformFrom 0 rows with
      | error cause =>
          rw [hd] at h
          cases h
          obtain ⟨i, row, error, hrow, hfails, rfl, hfirst⟩ := BuiltIn.first_of_transformFrom hd
          refine ⟨0, i, row, row, error, by rw [Nat.zero_add]; rfl, hrow, .here hfails, ?_⟩
          intro j other step' reached cause hother hstuck
          cases hstuck with
          | here h => exact .inr ⟨rfl, hfirst j other _ hother h⟩
          | later => exact .inl (Nat.succ_pos _)
      | ok done =>
          rw [hd] at h
          have hdone := BuiltIn.transformFrom_eq_ok_iff.mp hd
          obtain ⟨step, i, middle, reached, cause, rfl, hmiddle, hstuck, hfirst⟩ := ih h
          obtain ⟨row, hrow, hturns⟩ := exists_getElem? hdone.flip hmiddle
          refine ⟨step + 1, i, row, reached, cause, by rw [Nat.add_right_comm]; rfl, hrow,
            .later hturns hstuck, ?_⟩
          intro j other step' reached cause hother hlater
          obtain ⟨turned, hturned, hother⟩ := exists_getElem? hdone hother
          cases hlater with
          | here h =>
              rw [h] at hother
              cases hother
          | later hmiddle hrest =>
              obtain rfl := Except.ok.inj (hother.symm.trans hmiddle)
              have := hfirst j _ _ _ _ hturned hrest
              omega

end

/-- A row of the batch, given to the pipeline alone, fails at the step. -/
def FailsAt (p : Pipeline BuiltIn) (rows : List Row) (i step : Nat) : Prop :=
  ∃ row cause, rows[i]? = some row ∧
    (p.executeRows [row]).result = .error (.execution step cause)

/-- Of all steps at which rows fail the step is the first one, and of all rows that fail
there the row is the first one. The step renames a column of that row to what another
column of it is called. -/
structure Pinpoints (p : Pipeline BuiltIn) (rows : List Row) (step i : Nat)
    (source target : String) : Prop where
  earliest : IsLeast {s | ∃ j, p.FailsAt rows j s} step
  foremost : IsLeast {j | p.FailsAt rows j step} i
  directive : p.chain[step]? = some (.rename source target)
  collision : ∃ row reached, rows[i]? = some row ∧
    ((p.upTo step).executeRows [row]).result = .ok [reached] ∧ reached.Collides source target

section Configured

variable {p : Pipeline BuiltIn} (h : p.isConfigured = true) {rows : List Row}
include h

theorem failsAt_iff {i step : Nat} : p.FailsAt rows i step ↔
    ∃ row reached cause, rows[i]? = some row ∧ Stuck p.chain row step reached cause := by
  constructor
  · intro ⟨row, cause, hrow, hresult⟩
    rw [(executeRows_of_configured h [row]).1] at hresult
    obtain ⟨step', j, other, reached, cause', he, hother, hstuck, -⟩ := stuck_of_outcome hresult
    obtain ⟨rfl, -⟩ := RunError.execution.inj he
    obtain rfl : row = other := List.mem_singleton.mp (List.mem_of_getElem? hother) |>.symm
    exact ⟨row, reached, cause', hrow, by rwa [Nat.zero_add]⟩
  · intro ⟨row, reached, cause, hrow, hstuck⟩
    refine ⟨row, cause.atRow 0, hrow, ?_⟩
    rw [(executeRows_of_configured h [row]).1, hstuck.outcome_singleton, Nat.zero_add]

theorem executeRows_fails_iff : (∃ e, (p.executeRows rows).result = .error e) ↔
    ∃ i step, p.FailsAt rows i step := by
  rw [(executeRows_of_configured h rows).1]
  simp only [failsAt_iff h]
  constructor
  · intro ⟨e, he⟩
    obtain ⟨step, i, row, reached, cause, -, hrow, hstuck, -⟩ := stuck_of_outcome he
    exact ⟨i, step, row, reached, cause, hrow, hstuck⟩
  · intro ⟨i, step, row, reached, cause, hrow, hstuck⟩
    cases hout : outcome 0 p.chain rows with
    | error e => exact ⟨e, rfl⟩
    | ok out =>
        obtain ⟨done, -, hdone⟩ := exists_getElem? (outcome_eq_ok_iff.mp hout) hrow
        exact absurd hdone (hstuck.not_becomes done)

theorem pinpoints_of_error {e : RunError} (he : (p.executeRows rows).result = .error e) :
    ∃ step i source target, Pinpoints p rows step i source target ∧
      e = .execution step ⟨"rename", some i,
        "cannot rename '" ++ source ++ "': column '" ++ target ++ "' already exists"⟩ := by
  rw [(executeRows_of_configured h rows).1] at he
  obtain ⟨step, i, row, reached, cause, rfl, hrow, hstuck, hfirst⟩ := stuck_of_outcome he
  obtain ⟨d, hd, hreached, hfails⟩ := hstuck.fails
  obtain ⟨source, target, rfl, hcollides, rfl⟩ := BuiltIn.collides_of_transform hfails
  have hself : p.FailsAt rows i step := (failsAt_iff h).mpr ⟨row, reached, _, hrow, hstuck⟩
  have hleast (j step' : Nat) (hj : p.FailsAt rows j step') :
      step < step' ∨ step = step' ∧ i ≤ j := by
    obtain ⟨other, _, _, hother, hlater⟩ := (failsAt_iff h).mp hj
    exact hfirst j other step' _ _ hother hlater
  refine ⟨step, i, source, target, ⟨⟨⟨i, hself⟩, ?_⟩, ⟨hself, ?_⟩, hd, ?_⟩, by
    rw [Nat.zero_add]; rfl⟩
  · intro step' ⟨j, hj⟩
    have := hleast j step' hj
    omega
  · intro j hj
    have := hleast j step hj
    omega
  · refine ⟨row, reached, hrow, ?_, hcollides⟩
    rw [executeRows_eq_ok_iff (p := p.upTo step) h, chain_upTo]
    exact .cons hreached .nil

end Configured

theorem result_congr {p q : Pipeline BuiltIn} (hp : p.isConfigured = true)
    (hq : q.isConfigured = true) (hchain : p.chain = q.chain) (rows : List Row) :
    (p.executeRows rows).result = (q.executeRows rows).result ∧
      ∀ schema, (p.execute rows schema).result = (q.execute rows schema).result := by
  have hrows : (p.executeRows rows).result = (q.executeRows rows).result := by
    rw [(executeRows_of_configured hp rows).1, hchain, (executeRows_of_configured hq rows).1]
  exact ⟨hrows, fun schema => congrArg (·.bind schema.reconcile) hrows⟩

end Pipeline

namespace Session

open Pipeline

theorem perform_of_not_tearsDown {s : Session BuiltIn} (h : s.pipeline.isConfigured = true)
    (op : Operation BuiltIn) (hop : op.tearsDown = false) :
    (s.perform op).pipeline.isConfigured = true ∧
      (s.perform op).pipeline.steps = s.pipeline.steps := by
  refine ⟨(isConfigured_perform_iff s op).mpr (.inr ⟨hop, h⟩), ?_⟩
  cases op with
  | configure | close => cases hop
  | executeRows rows | execute rows =>
      have hkeeps : (s.pipeline.executeRows rows).pipeline.steps = s.pipeline.steps := by
        rw [(executeRows_of_configured h rows).2]
      exact hkeeps
  | increment => rfl

theorem run_of_not_tearsDown {s : Session BuiltIn} (h : s.pipeline.isConfigured = true)
    {history : List (Operation BuiltIn)} (hhistory : ∀ op ∈ history, op.tearsDown = false) :
    (s.run history).pipeline.isConfigured = true ∧
      (s.run history).pipeline.steps = s.pipeline.steps := by
  induction history generalizing s with
  | nil => exact ⟨h, rfl⟩
  | cons op history ih =>
      obtain ⟨hop, hrest⟩ := List.forall_mem_cons.mp hhistory
      obtain ⟨hready, hsteps⟩ := perform_of_not_tearsDown h op hop
      obtain ⟨hlast, hsame⟩ := ih hready hrest
      exact ⟨hlast, hsame.trans hsteps⟩

/-- What a failing batch says and leaves, in a session whose pipeline was configured with
the script. -/
structure Traced (script : String) (e : Environment BuiltIn) (s : Session BuiltIn)
    (rows : List Row) : Prop where
  fails_iff : (∃ error, (s.pipeline.executeRows rows).result = .error error) ↔
    ∃ i step, s.pipeline.FailsAt rows i step
  tells : ∀ error, (s.pipeline.executeRows rows).result = .error error →
    ∃ step i source target, s.pipeline.Pinpoints rows step i source target ∧
      error = .execution step ⟨"rename", some i,
        "cannot rename '" ++ source ++ "': column '" ++ target ++ "' already exists"⟩
  stays : (s.perform (.executeRows rows)).pipeline.isConfigured = true ∧
    (s.perform (.executeRows rows)).pipeline.steps = s.pipeline.steps
  afresh : ∀ later : List (Operation BuiltIn), (∀ op ∈ later, op.tearsDown = false) →
    ∀ fresh, Fresh script e fresh → ∀ next,
      (((s.perform (.executeRows rows)).run later).pipeline.executeRows next).result =
          (fresh.executeRows next).result ∧
        ∀ schema,
          (((s.perform (.executeRows rows)).run later).pipeline.execute next schema).result =
            (fresh.execute next schema).result

/-- Whatever was run before, a batch fails exactly if one of its rows fails alone. The error
names the earliest step of all at which rows fail and the row in front of those that fail
there, by its number in the batch, and the columns of that row that are in each other's way.
The pipeline stays as it is, and no later batch can tell it from a fresh one. -/
theorem traced_of_accepts {before : List (Operation BuiltIn)} {script : String}
    {e : Environment BuiltIn} (h : (after before).Accepts script e)
    {behind : List (Operation BuiltIn)} (hbehind : ∀ op ∈ behind, op.tearsDown = false)
    (rows : List Row) :
    Traced script e (((after before).perform (.configure script e)).run behind) rows := by
  have hfresh : Fresh script e ((after before).perform (.configure script e)).pipeline :=
    ⟨_, _, h, rfl⟩
  obtain ⟨hready, hsteps⟩ := run_of_not_tearsDown hfresh.made.1 hbehind
  have hstays := perform_of_not_tearsDown hready (.executeRows rows) rfl
  refine ⟨executeRows_fails_iff hready, fun _ => pinpoints_of_error hready, hstays, ?_⟩
  intro later hlater fresh hother next
  obtain ⟨hlast, hsame⟩ := run_of_not_tearsDown hstays.1 hlater
  refine result_congr hlast hother.made.1 ?_ next
  rw [chain, hsame, hstays.2, hsteps]
  exact hfresh.chain_eq hother

/-- The row in front gets stuck at the second step, and the two behind it at the first one,
so the error tells of the second row. -/
theorem traced_of_accepts_of_competing_rows :
    (after []).Accepts "rename :a :b; rename :c :d" ⟨"", Registry.standard, .empty⟩ ∧
      (∀ op ∈ ([.executeRows [.empty], .increment "n" 1] : List (Operation BuiltIn)),
        op.tearsDown = false) ∧
      ∃ (s : Session BuiltIn) (rows : List Row) (step i : Nat) (source target : String),
        s = ((after []).perform (.configure "rename :a :b; rename :c :d"
          ⟨"", .standard, .empty⟩)).run [.executeRows [.empty], .increment "n" 1] ∧
        rows = [.ofList [("c", .null), ("d", .null)], .ofList [("a", .null), ("b", .null)],
          .ofList [("b", .null), ("a", .null)]] ∧
        s.pipeline.FailsAt rows 0 1 ∧ s.pipeline.Pinpoints rows step i source target ∧
        step = 0 ∧ i = 1 ∧ (s.perform (.executeRows rows)).pipeline.isConfigured = true := by
  have haccepts : (after []).Accepts "rename :a :b; rename :c :d"
      ⟨"", Registry.standard, .empty⟩ := by decide +kernel
  have hbehind : ∀ op ∈ ([.executeRows [.empty], .increment "n" 1] : List (Operation BuiltIn)),
      op.tearsDown = false := by simp [Operation.tearsDown]
  have h := traced_of_accepts haccepts hbehind [.ofList [("c", .null), ("d", .null)],
    .ofList [("a", .null), ("b", .null)], .ofList [("b", .null), ("a", .null)]]
  obtain ⟨step, i, source, target, hpinpoints, herror⟩ := h.tells (.execution 0 ⟨"rename", some 1,
    "cannot rename 'a': column 'b' already exists"⟩) (by decide +kernel)
  obtain ⟨hstep, hcause⟩ := RunError.execution.inj herror
  have hrow : some 1 = some i := congrArg ExecutionError.row hcause
  refine ⟨haccepts, hbehind, _, _, step, i, source, target, rfl, rfl, ⟨_, ⟨"rename", some 0,
    "cannot rename 'c': column 'd' already exists"⟩, rfl, ?_⟩, hpinpoints, hstep.symm,
    (Option.some.inj hrow).symm, h.stays.1⟩
  decide +kernel

end Session

end RowScript
