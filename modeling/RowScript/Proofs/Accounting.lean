import Mathlib.Algebra.GroupWithZero.Nat
import RowScript.Proofs.Composition
import RowScript.Proofs.Lifecycle

/-!
The counters of a pipeline over all batches that it is given. A batch adds its size when it
comes in, its size once more for each step that gets through with it, and once more when it
goes out; text that is no timestamp is counted where it is met. A step that fails adds
nothing, and what was added before it stays.
-/

namespace RowScript

/-- The row has something in the column that is not the text of an instant, white space
around it aside. -/
def Row.Unread (column : String) (row : Row) : Prop :=
  ∃ v, row.value? column = some v ∧ v ≠ .null ∧
    ∀ content t, v = .text content → Rfc3339.read? (Text.trim content.toList) ≠ some t

namespace BuiltIn

theorem skips_iff {column : String} {row : Row} :
    (parseAsDate column).skips row = true ↔ row.Unread column := by
  rw [skips, Row.parseTimestamp, Row.Unread]
  cases row.value? column with
  | none => simp
  | some v =>
      cases v with
      | text content =>
          cases hread : Rfc3339.read? (Text.trim content.toList) with
          | none =>
              refine iff_of_true (by simp [hread]) ⟨_, rfl, nofun, ?_⟩
              rintro _ t ⟨⟩
              exact hread ▸ nofun
          | some t => simp [hread]
      | _ => simp

end BuiltIn

instance (column : String) (row : Row) : Decidable (row.Unread column) :=
  decidable_of_iff _ BuiltIn.skips_iff

namespace BuiltIn

variable {d : BuiltIn} {rows done : List Row}

theorem length_of_transformFrom {index : Nat} (h : d.transformFrom index rows = .ok done) :
    done.length = rows.length :=
  (transformFrom_eq_ok_iff.mp h).length_eq.symm

theorem charges_of_error {index : Nat} {cause : ExecutionError}
    (h : d.transformFrom index rows = .error cause) : d.charges rows = [] := by
  cases d with
  | parseAsDate column =>
      rw [transformFrom_of_total fun _ => rfl] at h
      cases h
  | getDate | rename | drop | fill => exact charges_of_never (fun _ => rfl) rows

end BuiltIn

theorem Context.total_of_not_mentions {name : String} {charges : List (String × Nat)}
    (h : mentions name charges = false) : total name charges = 0 := by
  induction charges with
  | nil => rfl
  | cons head charges ih =>
      obtain ⟨hhead, hrest⟩ := Bool.or_eq_false_iff.mp h
      rw [total, if_neg (beq_eq_false_iff_ne.mp hhead), ih hrest]

namespace Pipeline

open Context

theorem rowsCounter_injective {name other : String} (h : rowsCounter name = rowsCounter other) :
    name = other := by
  have htext := congrArg String.toList h
  simpa [rowsCounter, String.toList_inj] using htext

theorem rowsCounter_ne_skippedCounter (name : String) :
    rowsCounter name ≠ BuiltIn.skippedCounter := by
  intro h
  have htext := congrArg String.toList h
  simp [rowsCounter, BuiltIn.skippedCounter] at htext

/-- The pipeline of the first steps. -/
def upTo {δ : Type} (p : Pipeline δ) (count : Nat) : Pipeline δ :=
  { p with steps := p.steps.take count }

theorem chain_upTo (p : Pipeline BuiltIn) (count : Nat) :
    (p.upTo count).chain = p.chain.take count := by
  rw [chain, upTo, List.map_take, chain]

/-- The directives that get through with a batch, each with the rows that it is given. A
step gets through if the pipeline up to it does, and it is given what the pipeline in
front of it gives out. -/
def completed (p : Pipeline BuiltIn) (rows : List Row) : List (BuiltIn × List Row) :=
  (List.range p.size).filterMap fun index => do
    let step ← p.steps[index]?
    let given ← ((p.upTo index).executeRows rows).result.toOption
    let _ ← ((p.upTo (index + 1)).executeRows rows).result.toOption
    return (step.directive, given)

/-- The same for directives one after the other. -/
def passed : List BuiltIn → List Row → List (BuiltIn × List Row)
  | [], _ => []
  | d :: chain, rows =>
    match d.transformFrom 0 rows with
    | .error _ => []
    | .ok done => (d, rows) :: passed chain done

/-- What there is to say of one of the directives, if it gets through. -/
def passage (index : Nat) (chain : List BuiltIn) (rows : List Row) (count : Nat) :
    Option (BuiltIn × List Row) := do
  let d ← chain[count]?
  let given ← (outcome index (chain.take count) rows).toOption
  let _ ← (outcome index (chain.take (count + 1)) rows).toOption
  return (d, given)

theorem passage_of_error {d : BuiltIn} {rows : List Row} {cause : ExecutionError}
    (h : d.transformFrom 0 rows = .error cause) (index : Nat) (chain : List BuiltIn)
    (count : Nat) : passage index (d :: chain) rows count = none := by
  cases count with
  | zero => simp [passage, outcome, h, Except.toOption]
  | succ count => simp [passage, outcome, h, Except.toOption]

theorem passage_succ {d : BuiltIn} {rows done : List Row}
    (h : d.transformFrom 0 rows = .ok done) (index : Nat) (chain : List BuiltIn) (count : Nat) :
    passage index (d :: chain) rows (count + 1) = passage (index + 1) chain done count := by
  simp [passage, outcome, h]

theorem filterMap_passage (index : Nat) (chain : List BuiltIn) (rows : List Row) :
    (List.range chain.length).filterMap (passage index chain rows) = passed chain rows := by
  induction chain generalizing index rows with
  | nil => rfl
  | cons d chain ih =>
      rw [passed]
      cases hd : d.transformFrom 0 rows with
      | error cause => exact List.filterMap_eq_nil_iff.mpr fun _ _ => passage_of_error hd _ _ _
      | ok done =>
          have hfirst : passage index (d :: chain) rows 0 = some (d, rows) := by
            simp [passage, outcome, hd, Except.toOption]
          have hrest : passage index (d :: chain) rows ∘ Nat.succ =
              passage (index + 1) chain done := by
            funext count
            exact passage_succ hd index chain count
          rw [List.length_cons, List.range_succ_eq_map, List.filterMap_cons_some hfirst,
            List.filterMap_map, hrest, ih]

theorem completed_eq_passed {p : Pipeline BuiltIn} (h : p.isConfigured = true)
    (rows : List Row) : p.completed rows = passed p.chain rows := by
  have hresult (count : Nat) : ((p.upTo count).executeRows rows).result =
      outcome 0 (p.chain.take count) rows := by
    rw [(executeRows_of_configured (p := p.upTo count) h rows).1, chain_upTo]
  rw [← filterMap_passage 0 p.chain rows, completed, size, chain, List.length_map]
  congr 1
  funext count
  rw [hresult, hresult, passage, chain, List.getElem?_map]
  cases p.steps[count]? <;> rfl

/-- In how many rows a directive meets something that it cannot read. -/
def unread (d : BuiltIn) (rows : List Row) : Nat :=
  match d with
  | .parseAsDate column => rows.countP fun row => row.Unread column
  | _ => 0

theorem countP_skips (d : BuiltIn) (rows : List Row) : rows.countP d.skips = unread d rows := by
  cases d with
  | parseAsDate column =>
      refine List.countP_congr fun row _ => ?_
      rw [BuiltIn.skips_iff, decide_eq_true_eq]
  | getDate | rename | drop | fill => exact List.countP_eq_zero.mpr fun _ _ => Bool.false_ne_true

section

variable {chain : List BuiltIn} {rows : List Row}

/-- Every step that gets through counts as many rows as came in. -/
theorem total_runCharges_rowsCounter {size : Nat} (hsize : rows.length = size) (name : String) :
    total (rowsCounter name) (runCharges chain rows) =
      ((passed chain rows).map fun done => if done.1.name = name then size else 0).sum := by
  induction chain generalizing rows with
  | nil => rfl
  | cons d chain ih =>
      rw [runCharges, passed, total_append, BuiltIn.total_charges,
        if_neg (rowsCounter_ne_skippedCounter name), Nat.zero_add]
      cases hd : d.transformFrom 0 rows with
      | error cause => rfl
      | ok done =>
          have hdone : done.length = size := (BuiltIn.length_of_transformFrom hd).trans hsize
          have hname : rowsCounter name = rowsCounter d.name ↔ d.name = name :=
            ⟨fun h => (rowsCounter_injective h).symm, fun h => h ▸ rfl⟩
          rw [total_cons, ih hdone, List.map_cons, List.sum_cons, hdone]
          simp only [hname]

theorem total_runCharges_skippedCounter :
    total BuiltIn.skippedCounter (runCharges chain rows) =
      ((passed chain rows).map fun done => unread done.1 done.2).sum := by
  induction chain generalizing rows with
  | nil => rfl
  | cons d chain ih =>
      rw [runCharges, passed, total_append]
      cases hd : d.transformFrom 0 rows with
      | error cause =>
          rw [BuiltIn.charges_of_error hd]
          rfl
      | ok done =>
          rw [BuiltIn.total_charges, if_pos rfl, total_cons,
            if_neg (rowsCounter_ne_skippedCounter d.name).symm, Nat.zero_add, ih, countP_skips]
          rfl

theorem eq_of_mentions_runCharges {name : String}
    (h : mentions name (runCharges chain rows) = true) :
    name = BuiltIn.skippedCounter ∨ ∃ d ∈ chain, name = rowsCounter d.name := by
  induction chain generalizing rows with
  | nil => cases h
  | cons d chain ih =>
      rw [runCharges, mentions_append, Bool.or_eq_true, BuiltIn.mentions_charges,
        Bool.and_eq_true, beq_iff_eq] at h
      rcases h with ⟨hskipped, -⟩ | h
      · exact .inl hskipped
      · cases hd : d.transformFrom 0 rows with
        | error cause =>
            rw [hd] at h
            cases h
        | ok done =>
            rw [hd, mentions_cons, Bool.or_eq_true, beq_iff_eq] at h
            rcases h with hname | h
            · exact .inr ⟨d, List.mem_cons_self, hname⟩
            · refine (ih h).imp_right ?_
              rintro ⟨other, hmem, hname⟩
              exact ⟨other, List.mem_cons_of_mem d hmem, hname⟩

end

/-- The counters that belong to a pipeline and its directives. -/
def Owns (p : Pipeline BuiltIn) (name : String) : Prop :=
  name = "rows.in" ∨ name = "rows.out" ∨ name = BuiltIn.skippedCounter ∨
    ∃ directive ∈ p.directives, name = rowsCounter directive

theorem owns_of_mentions {p : Pipeline BuiltIn} {rows : List Row} {name : String}
    (h : mentions name (batchCharges p.chain rows) = true) : p.Owns name := by
  rw [batchCharges, mentions_cons, mentions_append, Bool.or_eq_true, Bool.or_eq_true,
    beq_iff_eq] at h
  rcases h with hin | hrun | hout
  · exact .inl hin
  · refine .inr (.inr ((eq_of_mentions_runCharges hrun).imp_right ?_))
    rintro ⟨d, hd, hname⟩
    exact ⟨d.name, directives_eq_chain p ▸ List.mem_map_of_mem hd, hname⟩
  · cases hresult : outcome 0 p.chain rows with
    | error e =>
        rw [hresult] at hout
        cases hout
    | ok out =>
        rw [hresult, mentions_cons, mentions_nil, Bool.or_false, beq_iff_eq] at hout
        exact .inr (.inl hout)

theorem total_runCharges_of_ne {name : String} (hskipped : name ≠ BuiltIn.skippedCounter)
    (hrows : ∀ directive, name ≠ rowsCounter directive) (chain : List BuiltIn)
    (rows : List Row) : total name (runCharges chain rows) = 0 := by
  refine total_of_not_mentions (Bool.eq_false_iff.mpr fun h => ?_)
  obtain hname | ⟨d, -, hname⟩ := eq_of_mentions_runCharges h
  · exact hskipped hname
  · exact hrows d.name hname

theorem total_batchCharges_in (chain : List BuiltIn) (rows : List Row) :
    total "rows.in" (batchCharges chain rows) = rows.length := by
  have hrun : total "rows.in" (runCharges chain rows) = 0 :=
    total_runCharges_of_ne (by decide) (fun directive => (rowsCounter_ne directive).1.symm) _ _
  rw [batchCharges, total_cons, if_pos rfl, total_append, hrun]
  cases outcome 0 chain rows with
  | error e => rfl
  | ok out => rfl

theorem total_batchCharges_out (chain : List BuiltIn) (rows : List Row) :
    total "rows.out" (batchCharges chain rows) =
      if (outcome 0 chain rows).isOk then rows.length else 0 := by
  have hrun : total "rows.out" (runCharges chain rows) = 0 :=
    total_runCharges_of_ne (by decide) (fun directive => (rowsCounter_ne directive).2.symm) _ _
  rw [batchCharges, total_cons, if_neg (by decide), total_append, hrun]
  cases hout : outcome 0 chain rows with
  | error e => rfl
  | ok out =>
      have hlength : rows.length = out.length := (outcome_eq_ok_iff.mp hout).length_eq
      rw [hlength]
      simp [Except.isOk, Except.toBool]

structure BatchTotals (p : Pipeline BuiltIn) (rows : List Row) : Prop where
  rowsIn : total "rows.in" (batchCharges p.chain rows) = rows.length
  rowsOut : total "rows.out" (batchCharges p.chain rows) =
    if (p.executeRows rows).result.isOk then rows.length else 0
  through : ∀ name, total (rowsCounter name) (batchCharges p.chain rows) =
    ((p.completed rows).map fun done => if done.1.name = name then rows.length else 0).sum
  skipped : total BuiltIn.skippedCounter (batchCharges p.chain rows) =
    ((p.completed rows).map fun done => unread done.1 done.2).sum

theorem batchTotals {p : Pipeline BuiltIn} (h : p.isConfigured = true) (rows : List Row) :
    BatchTotals p rows where
  rowsIn := total_batchCharges_in p.chain rows
  rowsOut := by rw [total_batchCharges_out, (executeRows_of_configured h rows).1]
  through name := by
    obtain ⟨hin, hout⟩ := rowsCounter_ne name
    rw [total_batchCharges hin hout, total_runCharges_rowsCounter rfl, completed_eq_passed h]
  skipped := by
    rw [total_batchCharges (by decide) (by decide), total_runCharges_skippedCounter,
      completed_eq_passed h]

end Pipeline

/-- Rows that are given to a pipeline, to be fitted to a schema or not. -/
structure Batch where
  rows : List Row
  schema? : Option Schema

def Batch.operation {δ : Type} (b : Batch) : Operation δ :=
  match b.schema? with
  | none => .executeRows b.rows
  | some schema => .execute b.rows schema

namespace Session

open Pipeline Context

/-- The sum of a measure over batches, each of them measured with the pipeline that it is
given to. -/
def tally (measure : Pipeline BuiltIn → List Row → Nat) (s : Session BuiltIn) :
    List Batch → Nat
  | [] => 0
  | b :: batches => measure s.pipeline b.rows + (s.perform b.operation).tally measure batches

def feed (s : Session BuiltIn) (batches : List Batch) : Session BuiltIn :=
  s.run (batches.map Batch.operation)

theorem pipeline_perform_operation (s : Session BuiltIn) (b : Batch) :
    (s.perform b.operation).pipeline = (s.pipeline.executeRows b.rows).pipeline := by
  rw [Batch.operation]
  cases b.schema? <;> rfl

variable {s : Session BuiltIn}

theorem tally_congr {measure other : Pipeline BuiltIn → List Row → Nat}
    (h : s.pipeline.isConfigured = true)
    (hsame : ∀ p rows, p.isConfigured = true → measure p rows = other p rows)
    (batches : List Batch) : s.tally measure batches = s.tally other batches := by
  induction batches generalizing s with
  | nil => rfl
  | cons b batches ih =>
      have hnext : (s.perform b.operation).pipeline.isConfigured = true :=
        pipeline_perform_operation s b ▸ isConfigured_executeRows h b.rows
      rw [tally, tally, hsame _ _ h, ih hnext]

theorem tally_size (batches : List Batch) :
    s.tally (fun _ rows => rows.length) batches = (batches.map (·.rows.length)).sum := by
  induction batches generalizing s with
  | nil => rfl
  | cons b batches ih => rw [tally, ih, List.map_cons, List.sum_cons]

/-- All that batches charge to the context of a session, one after the other. -/
def feedCharges (s : Session BuiltIn) : List Batch → List (String × Nat)
  | [] => []
  | b :: batches =>
    batchCharges s.pipeline.chain b.rows ++ (s.perform b.operation).feedCharges batches

theorem context_feed (h : s.pipeline.isConfigured = true) (batches : List Batch) :
    (s.feed batches).pipeline.context = s.pipeline.context.charge (s.feedCharges batches) := by
  induction batches generalizing s with
  | nil => rfl
  | cons b batches ih =>
      have hpipeline := pipeline_perform_operation s b
      have hnext : (s.perform b.operation).pipeline.isConfigured = true :=
        hpipeline ▸ isConfigured_executeRows h b.rows
      have hfeed : s.feed (b :: batches) = (s.perform b.operation).feed batches := rfl
      rw [hfeed, ih hnext, hpipeline, (executeRows_of_configured h b.rows).2, feedCharges,
        charge_append]

theorem total_feedCharges (name : String) (batches : List Batch) :
    total name (s.feedCharges batches) =
      s.tally (fun p rows => total name (batchCharges p.chain rows)) batches := by
  induction batches generalizing s with
  | nil => rfl
  | cons b batches ih => rw [feedCharges, total_append, ih, tally]

/-- What a session adds to a counter is what its batches add to it. -/
theorem counter_feed (h : s.pipeline.isConfigured = true) (name : String)
    (batches : List Batch) :
    (s.feed batches).pipeline.context.counter name = s.pipeline.context.counter name +
      s.tally (fun p rows => total name (batchCharges p.chain rows)) batches := by
  rw [context_feed h, counter_charge, total_feedCharges]

/-- Words of sixty-four bits count what a session counts, and none of them overflows, exactly as
long as no counter goes beyond the words. -/
theorem words_feed_iff (h : s.pipeline.isConfigured = true) {words : Dictionary UInt64}
    (hwords : Agrees words s.pipeline.context) (batches : List Batch) :
    (∃ sums, chargeWords words (s.feedCharges batches) = some sums ∧
        Agrees sums (s.feed batches).pipeline.context) ↔
      ∀ name, (s.feed batches).pipeline.context.counter name < 2 ^ 64 := by
  rw [context_feed h, ← isSome_chargeWords_iff hwords, Option.isSome_iff_exists]
  refine exists_congr fun sums => and_iff_left_of_imp ?_
  exact agrees_of_chargeWords hwords

theorem owns_feed (h : s.pipeline.isConfigured = true) {name : String}
    (hs : s.pipeline.context.knows name = true → s.pipeline.Owns name) (batches : List Batch)
    (hknows : (s.feed batches).pipeline.context.knows name = true) : s.pipeline.Owns name := by
  induction batches generalizing s with
  | nil => exact hs hknows
  | cons b batches ih =>
      have hpipeline := pipeline_perform_operation s b
      have hnext : (s.perform b.operation).pipeline.isConfigured = true :=
        hpipeline ▸ isConfigured_executeRows h b.rows
      have hsame : (s.perform b.operation).pipeline.Owns name ↔ s.pipeline.Owns name := by
        rw [Owns, Owns, directives_eq_chain, directives_eq_chain, hpipeline,
          chain_executeRows h b.rows]
      refine hsame.mp (ih hnext (fun hmet => hsame.mpr ?_) hknows)
      rw [hpipeline, (executeRows_of_configured h b.rows).2, knows_charge, Bool.or_eq_true] at hmet
      exact hmet.elim hs owns_of_mentions

structure Counted (s : Session BuiltIn) (batches : List Batch) : Prop where
  rowsIn : (s.feed batches).pipeline.context.counter "rows.in" =
    (batches.map (·.rows.length)).sum
  rowsOut : (s.feed batches).pipeline.context.counter "rows.out" =
    s.tally (fun p rows => if (p.executeRows rows).result.isOk then rows.length else 0) batches
  through : ∀ name, (s.feed batches).pipeline.context.counter (rowsCounter name) =
    s.tally (fun p rows => ((p.completed rows).map fun done =>
      if done.1.name = name then rows.length else 0).sum) batches
  skipped : (s.feed batches).pipeline.context.counter BuiltIn.skippedCounter =
    s.tally (fun p rows => ((p.completed rows).map fun done => unread done.1 done.2).sum) batches
  known : ∀ name, (s.feed batches).pipeline.context.knows name = true → s.pipeline.Owns name

/-- From a configuration on, the counters tell the sizes of the batches that came in, went
out and got through the directives of each name, and how much they could not read. Whether
a batch failed later on, in a directive or for its schema, makes no difference to them, and
there are no other counters. -/
theorem counted_of_accepts {before : List (Operation BuiltIn)} {script : String}
    {e : Environment BuiltIn} (h : (after before).Accepts script e) (batches : List Batch) :
    Counted ((after before).perform (.configure script e)) batches := by
  have hfresh : Fresh script e ((after before).perform (.configure script e)).pipeline :=
    ⟨_, _, h, rfl⟩
  obtain ⟨hconfigured, hcontext, -⟩ := hfresh.made
  have hzero (name : String) :
      ((after before).perform (.configure script e)).pipeline.context.counter name = 0 := by
    rw [hcontext]
    rfl
  have hcounter (name : String) := counter_feed hconfigured name batches
  simp only [hzero, Nat.zero_add] at hcounter
  constructor
  · rw [hcounter, ← tally_size]
    exact tally_congr hconfigured (fun p rows hp => (batchTotals hp rows).rowsIn) batches
  · rw [hcounter]
    exact tally_congr hconfigured (fun p rows hp => (batchTotals hp rows).rowsOut) batches
  · intro name
    rw [hcounter]
    exact tally_congr hconfigured (fun p rows hp => (batchTotals hp rows).through name) batches
  · rw [hcounter]
    exact tally_congr hconfigured (fun p rows hp => (batchTotals hp rows).skipped) batches
  · intro name hknows
    refine owns_feed hconfigured (fun hmet => ?_) batches hknows
    rw [hcontext] at hmet
    cases hmet

/-- Of the second batch, the second row cannot be renamed. It went through the first step
before, and the batch with it. -/
theorem counted_of_accepts_of_taken_name :
    (after []).Accepts "parse-as-date :d; rename :a :b" ⟨"", Registry.standard, .empty⟩ ∧
      ∃ s : Session BuiltIn,
        s = ((after []).perform (.configure "parse-as-date :d; rename :a :b"
          ⟨"", .standard, .empty⟩)).feed
            [⟨[.ofList [("d", .text "soon")]], none⟩,
              ⟨[.empty, .ofList [("a", .null), ("b", .null)]], some ⟨"s", []⟩⟩] ∧
        s.pipeline.context.counter "rows.in" = 3 ∧
        s.pipeline.context.counter "rows.out" = 1 ∧
        s.pipeline.context.counter (rowsCounter "parse-as-date") = 3 ∧
        s.pipeline.context.counter (rowsCounter "rename") = 1 ∧
        s.pipeline.context.counter BuiltIn.skippedCounter = 1 := by
  have haccepts : (after []).Accepts "parse-as-date :d; rename :a :b"
      ⟨"", Registry.standard, .empty⟩ := by decide +kernel
  have h := counted_of_accepts haccepts [⟨[.ofList [("d", .text "soon")]], none⟩,
    ⟨[.empty, .ofList [("a", .null), ("b", .null)]], some ⟨"s", []⟩⟩]
  refine ⟨haccepts, _, rfl, h.rowsIn.trans (by decide +kernel), ?_, ?_, ?_, ?_⟩
  · exact h.rowsOut.trans (by decide +kernel)
  · exact (h.through "parse-as-date").trans (by decide +kernel)
  · exact (h.through "rename").trans (by decide +kernel)
  · exact h.skipped.trans (by decide +kernel)

end Session

end RowScript
