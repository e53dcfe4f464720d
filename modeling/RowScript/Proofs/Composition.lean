import RowScript.Proofs.Batches
import RowScript.Proofs.Construction

/-!
Scripts one below the other. A script of two scripts makes the directives of the first
and then those of the second, and running them is running the first ones and giving what
comes out to the second ones. What differs is where an error of the second ones says that
it happened.
-/

namespace RowScript

/-- The error of a run that other steps stand in front of. -/
def RunError.behind (count : Nat) : RunError → RunError
  | execution step cause => execution (count + step) cause
  | e => e

namespace Pipeline

open Context

section Configured

variable {δ : Type} [Directive δ] {e : Environment δ} {script : String}
  {statements : List Statement} {ds : List δ}

theorem configure_of_made (hparse : Script.parse script = .ok statements)
    (hmade : List.Forall₂ (fun s d => made? e.registry s = some d) statements ds)
    (serial : Nat) (old : Pipeline δ) :
    (configure serial script e old).result = .ok () ∧
      ∃ steps, (configure serial script e old).pipeline = ⟨.configured, steps, e.context⟩ ∧
        steps.map (·.directive) = ds := by
  obtain ⟨hresult, hsteps⟩ := (@constructAll_iff _ _ _ serial _ _).mpr hmade
  simp only [configure, hparse, hresult]
  exact ⟨trivial, _, rfl, hsteps⟩

theorem made_of_configure {serial : Nat} {old : Pipeline δ}
    (h : (configure serial script e old).result = .ok ()) :
    ∃ statements ds, Script.parse script = .ok statements ∧
      List.Forall₂ (fun s d => made? e.registry s = some d) statements ds := by
  rw [configure] at h
  split at h
  next => simp at h
  next statements hparse =>
      cases hresult : (constructAll e.registry serial statements).result with
      | error cause => simp [hresult] at h
      | ok => exact ⟨statements, _, hparse, constructAll_iff.mp ⟨hresult, rfl⟩⟩

end Configured

theorem outcome_add (count index : Nat) (chain : List BuiltIn) (rows : List Row) :
    outcome (count + index) chain rows =
      (outcome index chain rows).mapError (RunError.behind count) := by
  induction chain generalizing index rows with
  | nil => rfl
  | cons d chain ih =>
      rw [outcome, outcome]
      cases d.transformFrom 0 rows with
      | error cause => rfl
      | ok done => exact ih (index + 1) done

theorem outcome_append (index : Nat) (first second : List BuiltIn) (rows : List Row) :
    outcome index (first ++ second) rows =
      (outcome index first rows).bind (outcome (index + first.length) second) := by
  induction first generalizing index rows with
  | nil => rfl
  | cons d first ih =>
      rw [List.cons_append, outcome, outcome, List.length_cons]
      cases d.transformFrom 0 rows with
      | error cause => rfl
      | ok done =>
          have hindex : index + (first.length + 1) = index + 1 + first.length := by omega
          rw [hindex]
          exact ih (index + 1) done

theorem runCharges_append {index : Nat} {first : List BuiltIn} {rows mid : List Row}
    (h : outcome index first rows = .ok mid) (second : List BuiltIn) :
    runCharges (first ++ second) rows = runCharges first rows ++ runCharges second mid := by
  induction first generalizing index rows with
  | nil =>
      obtain rfl : rows = mid := Except.ok.inj h
      rfl
  | cons d first ih =>
      rw [outcome] at h
      rw [List.cons_append, runCharges, runCharges, List.append_assoc]
      cases hd : d.transformFrom 0 rows with
      | error cause => rw [hd] at h; simp at h
      | ok done =>
          rw [hd] at h
          simp only [ih h, List.cons_append]

theorem total_batchCharges {name : String} (hin : name ≠ "rows.in") (hout : name ≠ "rows.out")
    (chain : List BuiltIn) (rows : List Row) :
    total name (batchCharges chain rows) = total name (runCharges chain rows) := by
  rw [batchCharges, total_cons, if_neg hin, total_append]
  cases outcome 0 chain rows with
  | error e => simp
  | ok out => simp [hout]

/-- The pipelines that a script leaves where it is configured. -/
def Fresh (script : String) (e : Environment BuiltIn) (p : Pipeline BuiltIn) : Prop :=
  ∃ serial old, (configure serial script e old).result = .ok () ∧
    (configure serial script e old).pipeline = p

theorem Fresh.made {script : String} {e : Environment BuiltIn} {p : Pipeline BuiltIn}
    (h : Fresh script e p) :
    p.isConfigured = true ∧ p.context = e.context ∧
      ∃ statements, Script.parse script = .ok statements ∧
        List.Forall₂ (fun s d => made? e.registry s = some d) statements p.chain := by
  obtain ⟨serial, old, hresult, rfl⟩ := h
  obtain ⟨statements, ds, hparse, hmade⟩ := made_of_configure hresult
  obtain ⟨-, steps, hpipeline, rfl⟩ := configure_of_made hparse hmade serial old
  rw [hpipeline]
  exact ⟨rfl, rfl, statements, hparse, hmade⟩

theorem Fresh.chain_eq {script : String} {e : Environment BuiltIn} {p q : Pipeline BuiltIn}
    (hp : Fresh script e p) (hq : Fresh script e q) : p.chain = q.chain := by
  obtain ⟨-, -, statements, hparse, hmade⟩ := hp.made
  obtain ⟨-, -, others, hothers, hmade'⟩ := hq.made
  obtain rfl := Except.ok.inj (hparse.symm.trans hothers)
  have hunique : Relator.RightUnique fun s d => made? e.registry s = some d :=
    fun _ _ _ hd hother => Option.some.inj (hd.symm.trans hother)
  exact hunique.forall₂ hmade hmade'

theorem Fresh.counter_executeRows {script : String} {e : Environment BuiltIn}
    {p : Pipeline BuiltIn} (h : Fresh script e p) {name : String} (hin : name ≠ "rows.in")
    (hout : name ≠ "rows.out") (rows : List Row) :
    (p.executeRows rows).pipeline.context.counter name =
      total name (runCharges p.chain rows) := by
  obtain ⟨hconfigured, hcontext, -⟩ := h.made
  have hzero : e.context.counter name = 0 := rfl
  rw [(executeRows_of_configured hconfigured rows).2, hcontext, counter_charge, hzero,
    total_batchCharges hin hout, Nat.zero_add]

theorem directives_eq_chain (p : Pipeline BuiltIn) :
    p.directives = p.chain.map BuiltIn.name := by
  rw [directives, chain, List.map_map]
  rfl

theorem rowsCounter_ne (directive : String) :
    rowsCounter directive ≠ "rows.in" ∧ rowsCounter directive ≠ "rows.out" := by
  constructor
  · intro h
    have htext := congrArg String.toList h
    simp [rowsCounter] at htext
  · intro h
    have htext := congrArg String.toList h
    simp [rowsCounter] at htext

/-- Scripts one below the other make pipelines one behind the other. The script of both
is configured whenever each of them is, and a run of it is a run of the first pipeline
and of the second one on what comes out, with the same rows, the same counts and the same
errors, those of the second one further on. -/
theorem configure_append {e : Environment BuiltIn} {first second : String}
    {p q : Pipeline BuiltIn} (hp : Fresh first e p) (hq : Fresh second e q) :
    (∀ serial old, (configure serial (first ++ "\n" ++ second) e old).result = .ok ()) ∧
      ∀ whole, Fresh (first ++ "\n" ++ second) e whole →
        whole.directives = p.directives ++ q.directives ∧
        ∀ rows,
          (whole.executeRows rows).result =
            (p.executeRows rows).result.bind (fun mid =>
              (q.executeRows mid).result.mapError (RunError.behind p.size)) ∧
          ∀ mid, (p.executeRows rows).result = .ok mid →
            ∀ name, name = BuiltIn.skippedCounter ∨ (∃ directive, name = rowsCounter directive) →
              (whole.executeRows rows).pipeline.context.counter name =
                (p.executeRows rows).pipeline.context.counter name +
                  (q.executeRows mid).pipeline.context.counter name := by
  obtain ⟨hpReady, -, before, hbefore, hpMade⟩ := hp.made
  obtain ⟨hqReady, -, behind, hbehind, hqMade⟩ := hq.made
  have hparse := Script.parse_append_of_ok hbefore hbehind
  have hdown : List.Forall₂ (fun s d => made? e.registry s = some d)
      (behind.map (Statement.down (first.toList.count '\n' + 1))) q.chain := by
    simpa only [List.forall₂_map_left_iff, made?_down] using hqMade
  have hmade := List.rel_append hpMade hdown
  refine ⟨fun serial old => (configure_of_made hparse hmade serial old).1, ?_⟩
  intro whole hwhole
  obtain ⟨hReady, -⟩ := hwhole.made
  have hchain : whole.chain = p.chain ++ q.chain := by
    obtain ⟨serial, old, -, rfl⟩ := hwhole
    obtain ⟨-, steps, hpipeline, hsteps⟩ := configure_of_made hparse hmade serial old
    rw [hpipeline]
    exact hsteps
  refine ⟨by rw [directives_eq_chain, hchain, List.map_append, directives_eq_chain,
    directives_eq_chain], fun rows => ⟨?_, ?_⟩⟩
  · have hsize : 0 + p.chain.length = p.size + 0 := by rw [chain, List.length_map, size]; omega
    rw [(executeRows_of_configured hReady rows).1, hchain, outcome_append,
      (executeRows_of_configured hpReady rows).1, hsize]
    congr 1
    funext mid
    rw [outcome_add, (executeRows_of_configured hqReady mid).1]
  · intro mid hmid name hname
    rw [(executeRows_of_configured hpReady rows).1] at hmid
    have hne : name ≠ "rows.in" ∧ name ≠ "rows.out" := by
      cases hname with
      | inl hskipped => subst hskipped; decide
      | inr hrows =>
          obtain ⟨directive, rfl⟩ := hrows
          exact rowsCounter_ne directive
    rw [hwhole.counter_executeRows hne.1 hne.2, hp.counter_executeRows hne.1 hne.2,
      hq.counter_executeRows hne.1 hne.2, hchain, runCharges_append hmid, total_append]

/-- Dropping a column, and renaming another one behind it. -/
theorem configure_append_drop_rename :
    ∃ p q whole : Pipeline BuiltIn,
      Fresh "drop :a" ⟨"", .standard, .empty⟩ p ∧
      Fresh "rename :b :c" ⟨"", .standard, .empty⟩ q ∧
      Fresh ("drop :a" ++ "\n" ++ "rename :b :c") ⟨"", .standard, .empty⟩ whole ∧
      whole.directives = ["drop", "rename"] ∧
      (whole.executeRows [.ofList [("a", .null), ("b", .bool true)]]).result.toOption.map
        (List.map Row.names) = some [["c"]] := by
  have hp : Fresh "drop :a" ⟨"", .standard, .empty⟩ _ := ⟨0, new, by decide +kernel, rfl⟩
  have hq : Fresh "rename :b :c" ⟨"", .standard, .empty⟩ _ := ⟨1, new, by decide +kernel, rfl⟩
  obtain ⟨hresult, hwhole⟩ := configure_append hp hq
  have hfresh : Fresh ("drop :a" ++ "\n" ++ "rename :b :c") ⟨"", .standard, .empty⟩ _ :=
    ⟨0, new, hresult 0 new, rfl⟩
  obtain ⟨hdirectives, hrun⟩ := hwhole _ hfresh
  refine ⟨_, _, _, hp, hq, hfresh, hdirectives.trans (by decide +kernel), ?_⟩
  rw [(hrun _).1]
  decide +kernel

end Pipeline

end RowScript
