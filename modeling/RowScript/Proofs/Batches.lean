import RowScript.Pipeline.Basic
import RowScript.Proofs.Reconciliation
import RowScript.Proofs.RowLocality

/-!
Batches in parts. Steps are run over a batch as they are run over its rows, and charge
what they charge to the parts, so nothing tells a batch from its parts run one after the
other: not the rows, not the records and not the pipeline that is left.
-/

namespace RowScript.Pipeline

open Context

/-- The rows that a batch becomes in directives one after the other, the first of which
is the step of the given number. -/
def outcome (index : Nat) : List BuiltIn → List Row → Except RunError (List Row)
  | [], rows => .ok rows
  | d :: chain, rows =>
    match d.transformFrom 0 rows with
    | .error cause => .error (.execution index cause)
    | .ok done => outcome (index + 1) chain done

/-- What directives charge to the context, up to the first that fails. -/
def runCharges : List BuiltIn → List Row → List (String × Nat)
  | [], _ => []
  | d :: chain, rows =>
    d.charges rows ++
      match d.transformFrom 0 rows with
      | .error _ => []
      | .ok done => (rowsCounter d.name, done.length) :: runCharges chain done

/-- What a whole batch charges to the context. -/
def batchCharges (chain : List BuiltIn) (rows : List Row) : List (String × Nat) :=
  ("rows.in", rows.length) :: (runCharges chain rows ++
    match outcome 0 chain rows with
    | .error _ => []
    | .ok out => [("rows.out", out.length)])

/-- The directives of a pipeline in their order. -/
def chain (p : Pipeline BuiltIn) : List BuiltIn := p.steps.map (·.directive)

theorem runSteps_eq (index : Nat) (c : Context) (rows : List Row) (steps : List (Step BuiltIn)) :
    (runSteps index c rows steps).result = outcome index (steps.map (·.directive)) rows ∧
      (runSteps index c rows steps).context =
        c.charge (runCharges (steps.map (·.directive)) rows) ∧
      (runSteps index c rows steps).steps = steps := by
  induction steps generalizing index c rows with
  | nil => exact ⟨rfl, rfl, rfl⟩
  | cons step steps ih =>
      have hexecute : Directive.execute step.directive c rows = (step.directive,
          c.charge (step.directive.charges rows), step.directive.transformFrom 0 rows) :=
        congrArg (step.directive, ·) (BuiltIn.execute_eq step.directive c rows)
      rw [runSteps, List.map_cons, outcome, runCharges, hexecute]
      cases step.directive.transformFrom 0 rows with
      | error cause => exact ⟨rfl, by rw [List.append_nil], rfl⟩
      | ok done =>
          refine ⟨(ih _ _ _).1, ?_, congrArg (step :: ·) (ih _ _ _).2.2⟩
          rw [charge_append]
          exact (ih _ _ _).2.1

/-- What directives make of one row. -/
def Becomes : List BuiltIn → Row → Row → Prop
  | [], row, done => row = done
  | d :: chain, row, done => ∃ middle, d.transform row = .ok middle ∧ Becomes chain middle done

theorem outcome_eq_ok_iff {index : Nat} {chain : List BuiltIn} {rows out : List Row} :
    outcome index chain rows = .ok out ↔ List.Forall₂ (Becomes chain) rows out := by
  induction chain generalizing index rows with
  | nil =>
      have hsame : Becomes [] = Eq := by
        funext row done
        rfl
      rw [hsame, List.forall₂_eq_eq_eq, outcome, Except.ok.injEq]
  | cons d chain ih =>
      have hpasses : Becomes (d :: chain) = fun row done =>
          ∃ middle, d.transform row = .ok middle ∧ Becomes chain middle done := by
        funext row done
        rfl
      rw [hpasses, ← forall₂_comp_iff, outcome]
      simp only [← @BuiltIn.transformFrom_eq_ok_iff d 0 rows]
      cases d.transformFrom 0 rows with
      | error cause => simp
      | ok mid => simp [ih]

theorem merges_runCharges {index : Nat} {chain : List BuiltIn} {a b x y : List Row}
    (ha : outcome index chain a = .ok x) (hb : outcome index chain b = .ok y) :
    Merges (runCharges chain (a ++ b)) (runCharges chain a) (runCharges chain b) := by
  induction chain generalizing index a b with
  | nil => exact merges_nil
  | cons d chain ih =>
      rw [outcome] at ha hb
      rw [runCharges, runCharges, runCharges]
      cases hfirst : d.transformFrom 0 a with
      | error cause => rw [hfirst] at ha; simp at ha
      | ok u =>
          cases hsecond : d.transformFrom 0 b with
          | error cause => rw [hsecond] at hb; simp at hb
          | ok v =>
              rw [hfirst] at ha
              rw [hsecond] at hb
              have hwhole : d.transformFrom 0 (a ++ b) = .ok (u ++ v) :=
                BuiltIn.transformFrom_eq_ok_iff.mpr (List.rel_append
                  (BuiltIn.transformFrom_eq_ok_iff.mp hfirst)
                  (BuiltIn.transformFrom_eq_ok_iff.mp hsecond))
              rw [hwhole]
              refine (BuiltIn.merges_charges a b).append ?_
              simp only [List.length_append]
              exact (merges_single _ _ _).append (ih ha hb)

theorem merges_batchCharges {chain : List BuiltIn} {a b x y : List Row}
    (ha : outcome 0 chain a = .ok x) (hb : outcome 0 chain b = .ok y) :
    Merges (batchCharges chain (a ++ b)) (batchCharges chain a) (batchCharges chain b) := by
  have hwhole : outcome 0 chain (a ++ b) = .ok (x ++ y) :=
    outcome_eq_ok_iff.mpr
      (List.rel_append (outcome_eq_ok_iff.mp ha) (outcome_eq_ok_iff.mp hb))
  simp only [batchCharges, ha, hb, hwhole, List.length_append]
  exact (merges_single _ _ _).append ((merges_runCharges ha hb).append (merges_single _ _ _))

theorem executeRows_of_configured {p : Pipeline BuiltIn} (h : p.isConfigured = true)
    (rows : List Row) :
    (p.executeRows rows).result = outcome 0 p.chain rows ∧
      (p.executeRows rows).pipeline =
        ⟨p.stage, p.steps, p.context.charge (batchCharges p.chain rows)⟩ := by
  obtain ⟨stage, steps, context⟩ := p
  cases stage with
  | unconfigured => exact absurd h Bool.false_ne_true
  | configured =>
      obtain ⟨hresult, hcontext, hsteps⟩ :=
        runSteps_eq 0 (context.increment "rows.in" rows.length) rows steps
      simp only [executeRows, hresult, batchCharges, chain]
      cases outcome 0 (steps.map (·.directive)) rows with
      | error e =>
          refine ⟨rfl, ?_⟩
          rw [List.append_nil, hcontext, hsteps]
          rfl
      | ok out =>
          refine ⟨rfl, ?_⟩
          rw [hcontext, hsteps, charge_cons, charge_append]
          rfl

theorem executeRows_of_not_configured {p : Pipeline BuiltIn} (h : p.isConfigured = false)
    (rows : List Row) : (p.executeRows rows).result = .error .notConfigured := by
  obtain ⟨stage, steps, context⟩ := p
  cases stage with
  | unconfigured => rfl
  | configured => exact absurd h.symm Bool.false_ne_true

theorem executeRows_eq_ok_iff {p : Pipeline BuiltIn} (h : p.isConfigured = true)
    (rows out : List Row) :
    (p.executeRows rows).result = .ok out ↔ List.Forall₂ (Becomes p.chain) rows out := by
  rw [(executeRows_of_configured h rows).1, outcome_eq_ok_iff]

theorem execute_eq_ok_iff {p : Pipeline BuiltIn} (h : p.isConfigured = true) (schema : Schema)
    (rows : List Row) (records : List Record) :
    (p.execute rows schema).result = .ok records ↔
      List.Forall₂ (fun row record => ∃ done, Becomes p.chain row done ∧
        schema.reconcileRow 0 done = .ok record) rows records := by
  rw [← forall₂_comp_iff]
  simp only [← executeRows_eq_ok_iff h, ← @Schema.reconcileFrom_eq_ok_iff schema 0]
  rw [execute]
  cases (p.executeRows rows).result with
  | error e => simp [Except.bind]
  | ok out => simp [Except.bind, Schema.reconcile]

/-- A way to run a batch takes two batches at once as it takes them one after the
other, and one row to one answer. -/
structure Splits {α : Type}
    (run : List Row → Pipeline BuiltIn → Outcome BuiltIn (Except RunError (List α)))
    (p : Pipeline BuiltIn) (a b : List Row) : Prop where
  success : ∀ out, (run (a ++ b) p).result = .ok out ↔
    ∃ x y, (run a p).result = .ok x ∧ (run b (run a p).pipeline).result = .ok y ∧ out = x ++ y
  rows : ∀ out, (run (a ++ b) p).result = .ok out →
    List.Forall₂ (fun row done => (run [row] p).result = .ok [done]) (a ++ b) out
  pipeline : ∀ out, (run (a ++ b) p).result = .ok out →
    (run (a ++ b) p).pipeline = (run b (run a p).pipeline).pipeline

section Splits

variable {α : Type} {run : List Row → Pipeline BuiltIn → Outcome BuiltIn (Except RunError (List α))}
  {p : Pipeline BuiltIn} {a b : List Row}

theorem splits_of_error (h : ∀ rows, ∃ e, (run rows p).result = .error e) : Splits run p a b := by
  have hnever (rows : List Row) (out : List α) : (run rows p).result ≠ .ok out := by
    intro hok
    obtain ⟨e, he⟩ := h rows
    exact absurd (he.symm.trans hok) (by simp)
  refine ⟨fun out => ⟨fun hok => absurd hok (hnever _ _), ?_⟩,
    fun out hok => absurd hok (hnever _ _), fun out hok => absurd hok (hnever _ _)⟩
  intro ⟨x, y, hx, _, _⟩
  exact absurd hx (hnever _ _)

theorem splits_of_rows {R : Row → α → Prop}
    (h : ∀ rows out, (run rows p).result = .ok out ↔ List.Forall₂ R rows out)
    (hafter : ∀ out, (run b (run a p).pipeline).result = .ok out ↔ List.Forall₂ R b out)
    (hpipeline : ∀ x y, List.Forall₂ R a x → List.Forall₂ R b y →
      (run (a ++ b) p).pipeline = (run b (run a p).pipeline).pipeline) :
    Splits run p a b := by
  constructor
  · intro out
    simp only [h, hafter]
    exact forall₂_append_iff
  · intro out hok
    refine List.Forall₂.imp ?_ ((h _ _).mp hok)
    intro row done hrow
    exact (h _ _).mpr (.cons hrow .nil)
  · intro out hok
    obtain ⟨x, y, hx, hy, -⟩ := forall₂_append_iff.mp ((h _ _).mp hok)
    exact hpipeline x y hx hy

end Splits

section Split

variable {p : Pipeline BuiltIn} (h : p.isConfigured = true) (a : List Row)
include h

theorem isConfigured_executeRows : (p.executeRows a).pipeline.isConfigured = true := by
  rw [(executeRows_of_configured h a).2]
  exact h

theorem chain_executeRows : (p.executeRows a).pipeline.chain = p.chain := by
  rw [(executeRows_of_configured h a).2]
  rfl

theorem pipeline_append {a b x y : List Row} (ha : List.Forall₂ (Becomes p.chain) a x)
    (hb : List.Forall₂ (Becomes p.chain) b y) :
    (p.executeRows (a ++ b)).pipeline =
      ((p.executeRows a).pipeline.executeRows b).pipeline := by
  have hmerges : Merges (batchCharges p.chain (a ++ b)) (batchCharges p.chain a)
      (batchCharges p.chain b) :=
    merges_batchCharges (outcome_eq_ok_iff.mpr ha) (outcome_eq_ok_iff.mpr hb)
  rw [(executeRows_of_configured h (a ++ b)).2,
    (executeRows_of_configured (isConfigured_executeRows h a) b).2, chain_executeRows h a,
    (executeRows_of_configured h a).2, hmerges.charge_eq]

end Split

/-- Batch splitting does not change anything: a pipeline in any state, whether it was
run before or not, takes two batches at once as it takes them one after the other. The
rows, the records of any schema and all counters are the same. -/
theorem executeRows_append (p : Pipeline BuiltIn) (a b : List Row) :
    Splits executeRows p a b ∧ ∀ schema, Splits (fun rows => execute rows schema) p a b := by
  cases h : p.isConfigured with
  | false =>
      have hresult := executeRows_of_not_configured h
      refine ⟨splits_of_error fun rows => ⟨_, hresult rows⟩, fun schema =>
        splits_of_error fun rows => ⟨.notConfigured, ?_⟩⟩
      rw [execute, hresult rows]
      rfl
  | true =>
      have hafter := isConfigured_executeRows h a
      have hchain := chain_executeRows h a
      constructor
      · refine splits_of_rows (executeRows_eq_ok_iff h) ?_ fun x y => pipeline_append h
        intro out
        rw [executeRows_eq_ok_iff hafter, hchain]
      · intro schema
        refine splits_of_rows (execute_eq_ok_iff h schema) ?_ ?_
        · intro out
          rw [← hchain]
          exact execute_eq_ok_iff hafter schema b out
        · intro x y hx hy
          obtain ⟨u, hu, -⟩ := forall₂_comp_iff.mpr hx
          obtain ⟨v, hv, -⟩ := forall₂_comp_iff.mpr hy
          exact pipeline_append h hu hv

end RowScript.Pipeline
