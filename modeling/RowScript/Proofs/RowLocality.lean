import RowScript.Directive.BuiltIn
import RowScript.Proofs.Counters
import RowScript.Proofs.Results

/-!
The built-in directives row by row. Each of them turns one row into one row without
looking at the others or at the context, and all it does to the context is to charge the
values that it had to skip. A batch is its rows, so a batch in two parts is two batches.
-/

namespace RowScript

namespace BuiltIn

/-- What the directive makes of one row. An error does not know the row's number. -/
def transform (d : BuiltIn) (row : Row) : Except ExecutionError Row :=
  match d with
  | getDate source destination field => .ok (row.extractField source destination field)
  | parseAsDate column => .ok (row.parseTimestamp column).1
  | rename source target =>
    match row.renameColumn? source target with
    | none => .error ⟨"rename", none,
        "cannot rename '" ++ source ++ "': column '" ++ target ++ "' already exists"⟩
    | some row => .ok row
  | drop columns => .ok (row.dropColumns columns)
  | fill column content => .ok (row.fillBlank column content)

/-- Whether the row has a value that the directive counts as skipped. -/
def skips (d : BuiltIn) (row : Row) : Bool :=
  match d with
  | parseAsDate column => (row.parseTimestamp column).2
  | _ => false

/-- The rows that consecutive rows become, the first of which has the given number. -/
def transformFrom (d : BuiltIn) (index : Nat) : List Row → Except ExecutionError (List Row)
  | [] => .ok []
  | row :: rows =>
    match d.transform row with
    | .error e => .error (e.atRow index)
    | .ok done =>
      match d.transformFrom (index + 1) rows with
      | .error e => .error e
      | .ok rest => .ok (done :: rest)

/-- What a batch charges to the context. -/
def charges (d : BuiltIn) (rows : List Row) : List (String × Nat) :=
  if rows.countP d.skips = 0 then [] else [(skippedCounter, rows.countP d.skips)]

variable {d : BuiltIn}

theorem transformFrom_of_total {f : Row → Row} (h : ∀ row, d.transform row = .ok (f row))
    (index : Nat) (rows : List Row) : d.transformFrom index rows = .ok (rows.map f) := by
  induction rows generalizing index with
  | nil => rfl
  | cons row rows ih => simp only [transformFrom, h, ih, List.map_cons]

theorem charges_of_never (h : ∀ row, d.skips row = false) (rows : List Row) :
    d.charges rows = [] := by
  have hnone : rows.countP d.skips = 0 := List.countP_eq_zero.mpr fun row _ => by simp [h row]
  rw [charges, if_pos hnone]

theorem renameFrom_eq (source target : String) (index : Nat) (rows : List Row) :
    renameFrom source target index rows = (rename source target).transformFrom index rows := by
  induction rows generalizing index with
  | nil => rfl
  | cons row rows ih =>
      simp only [renameFrom, transformFrom, transform, ih]
      cases row.renameColumn? source target <;> rfl

/-- A directive runs on a batch row by row, whatever the context. -/
theorem execute_eq (d : BuiltIn) (c : Context) (rows : List Row) :
    d.execute c rows = (c.charge (d.charges rows), d.transformFrom 0 rows) := by
  cases d with
  | getDate source destination field =>
      rw [charges_of_never fun _ => rfl, transformFrom_of_total fun _ => rfl]
      rfl
  | parseAsDate column =>
      have hskips : (parseAsDate column).skips = fun row => (row.parseTimestamp column).2 := by
        funext row
        rfl
      rw [transformFrom_of_total fun _ => rfl, charges, hskips]
      simp only [execute]
      split <;> rfl
  | rename source target =>
      rw [charges_of_never fun _ => rfl, ← renameFrom_eq]
      rfl
  | drop columns =>
      rw [charges_of_never fun _ => rfl, transformFrom_of_total fun _ => rfl]
      rfl
  | fill column content =>
      rw [charges_of_never fun _ => rfl, transformFrom_of_total fun _ => rfl]
      rfl

theorem transformFrom_eq_ok_iff {index : Nat} {rows out : List Row} :
    d.transformFrom index rows = .ok out ↔
      List.Forall₂ (fun row done => d.transform row = .ok done) rows out := by
  induction rows generalizing index out with
  | nil => simp [transformFrom, eq_comm]
  | cons row rows ih =>
      have hrest (rest : List Row) := @ih (index + 1) rest
      rw [List.forall₂_cons_left_iff, transformFrom]
      cases hrow : d.transform row with
      | error e => simp
      | ok done =>
          cases hrows : d.transformFrom (index + 1) rows with
          | error e => simp [← hrest, hrows]
          | ok rest =>
              simp only [← hrest, hrows, Except.ok.injEq]
              constructor
              · intro h
                exact ⟨done, rest, rfl, rfl, h.symm⟩
              · intro ⟨_, _, hdone, hsame, hout⟩
                rw [hout, hdone, hsame]

theorem total_charges (a : List Row) (name : String) :
    Context.total name (d.charges a) =
      if name = skippedCounter then a.countP d.skips else 0 := by
  by_cases h : a.countP d.skips = 0
  · simp [charges, h]
  · simp [charges, h]

theorem mentions_charges (a : List Row) (name : String) :
    Context.mentions name (d.charges a) =
      (name == skippedCounter && decide (a.countP d.skips ≠ 0)) := by
  by_cases h : a.countP d.skips = 0
  · simp [charges, h]
  · simp [charges, h]

theorem merges_charges (a b : List Row) :
    Context.Merges (d.charges (a ++ b)) (d.charges a) (d.charges b) := by
  constructor
  · intro name
    simp only [total_charges, List.countP_append]
    split <;> rfl
  · intro name
    simp only [mentions_charges, List.countP_append]
    rw [← Bool.and_or_distrib_left, ← Bool.decide_or]
    congr 1
    exact decide_eq_decide.mpr (by omega)

end BuiltIn

end RowScript
