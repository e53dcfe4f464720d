import RowScript.Proofs.Columns
import RowScript.Proofs.Reconciliation

/-!
Reconciliation as a whole. A row that has no record has a first field that refuses it, and a
batch that has no records has a first row like that: the error names both, and nothing is kept
of the rows in front. All that counts of a row are its columns under the names of the fields,
in whatever order they stand, and the number of a row counts for the error alone.
-/

namespace RowScript

/-- The same error about another row. -/
def RunError.forRow (index : Nat) : RunError → RunError
  | reconcile _ column reason => reconcile index column reason
  | e => e

namespace Field

open Schema (Misfit fieldValue)

/-- Why a field cannot take what the row has for it: nothing, although it needs a value, or a
value that its type cannot hold. -/
inductive Refuses (row : Row) (field : Field) : Misfit → Prop where
  | missing (hrequired : field.nullable = false)
      (hcolumn : row.value? field.name = none ∨ row.value? field.name = some .null) :
      Refuses row field .missing
  | unconvertible {held : Value} (hcolumn : row.value? field.name = some held)
      (hheld : held ≠ .null) (hcoerce : held.coerce? field.type = none) :
      Refuses row field (.unconvertible held field.type)

theorem fieldValue_eq_error_iff {row : Row} {field : Field} {misfit : Misfit} :
    fieldValue field (row.value? field.name) = .error misfit ↔ field.Refuses row misfit := by
  constructor
  · intro h
    by_cases hcolumn : row.value? field.name = none ∨ row.value? field.name = some .null
    · have hempty : (if field.nullable then .ok .null else .error .missing) =
          (.error misfit : Except Misfit Value) := by
        obtain hnone | hnull := hcolumn
        · rwa [hnone] at h
        · rwa [hnull] at h
      split at hempty
      · cases hempty
      · rename_i hrequired
        cases hempty
        exact .missing (Bool.eq_false_iff.mpr hrequired) hcolumn
    · obtain ⟨hnone, hnull⟩ := not_or.mp hcolumn
      obtain ⟨held, hheld⟩ := Option.ne_none_iff_exists'.mp hnone
      have hpresent : held ≠ .null := fun heq => hnull (heq ▸ hheld)
      rw [hheld, fieldValue] at h
      · split at h
        · cases h
        · rename_i hcoerce
          cases h
          exact .unconvertible hheld hpresent hcoerce
      · exact hpresent
  · intro h
    cases h with
    | missing hrequired hcolumn =>
        obtain hnone | hnull := hcolumn
        · rw [hnone, fieldValue, hrequired]
          rfl
        · rw [hnull, fieldValue, hrequired]
          rfl
    | unconvertible hcolumn hheld hcoerce =>
        rw [hcolumn, fieldValue, hcoerce]
        exact hheld

end Field

namespace Schema

variable {s : Schema} {row : Row}

/-- The first of the fields that refuse the row, and the reason that it has. -/
def BlamesIn (row : Row) (fields : List Field) (column reason : String) : Prop :=
  ∃ before field behind misfit, fields = before ++ field :: behind ∧
    (∀ earlier ∈ before, ∀ misfit, ¬earlier.Refuses row misfit) ∧
    field.Refuses row misfit ∧ column = field.name ∧ reason = misfit.reason

/-- The row does not fit the schema, and this is the column to blame. -/
def Blames (s : Schema) (row : Row) (column reason : String) : Prop :=
  BlamesIn row s.fields column reason

theorem blamesIn_nil {column reason : String} : ¬BlamesIn row [] column reason := by
  rintro ⟨before, field, behind, misfit, hsplit, -⟩
  exact List.append_ne_nil_of_right_ne_nil before (List.cons_ne_nil field behind) hsplit.symm

theorem blamesIn_cons_iff {field : Field} {fields : List Field} {column reason : String} :
    BlamesIn row (field :: fields) column reason ↔
      (∃ misfit, field.Refuses row misfit ∧ column = field.name ∧ reason = misfit.reason) ∨
        (∀ misfit, ¬field.Refuses row misfit) ∧ BlamesIn row fields column reason := by
  constructor
  · rintro ⟨before, blamed, behind, misfit, hsplit, hbefore, hrefuses, hcolumn, hreason⟩
    cases before with
    | nil =>
        obtain ⟨rfl, rfl⟩ := List.cons.inj hsplit
        exact .inl ⟨misfit, hrefuses, hcolumn, hreason⟩
    | cons first before =>
        obtain ⟨rfl, rfl⟩ := List.cons.inj hsplit
        obtain ⟨hfirst, hbefore⟩ := List.forall_mem_cons.mp hbefore
        exact .inr ⟨hfirst, before, blamed, behind, misfit, rfl, hbefore, hrefuses, hcolumn,
          hreason⟩
  · rintro (⟨misfit, hrefuses, hcolumn, hreason⟩ | ⟨hfirst, before, blamed, behind, misfit, rfl,
      hbefore, hrefuses, hcolumn, hreason⟩)
    · exact ⟨[], field, fields, misfit, rfl, List.forall_mem_nil _, hrefuses, hcolumn, hreason⟩
    · exact ⟨field :: before, blamed, behind, misfit, rfl,
        List.forall_mem_cons.mpr ⟨hfirst, hbefore⟩, hrefuses, hcolumn, hreason⟩

theorem reconcileFields_eq_error_iff {index : Nat} {fields : List Field} {e : RunError} :
    reconcileFields index row fields = .error e ↔
      ∃ column reason, BlamesIn row fields column reason ∧
        e = .reconcile index column reason := by
  induction fields with
  | nil => simp [reconcileFields, blamesIn_nil]
  | cons field fields ih =>
      rw [reconcileFields]
      simp only [blamesIn_cons_iff, ← Field.fieldValue_eq_error_iff]
      cases hvalue : fieldValue field (row.value? field.name) with
      | error misfit => simp [eq_comm]
      | ok value =>
          cases hrest : reconcileFields index row fields with
          | error cause => simpa [hrest, eq_comm] using ih
          | ok entries => simpa [hrest] using ih

theorem reconcileRow_eq_error_iff {index : Nat} {e : RunError} :
    s.reconcileRow index row = .error e ↔
      ∃ column reason, s.Blames row column reason ∧ e = .reconcile index column reason := by
  simp only [Blames, ← reconcileFields_eq_error_iff]
  rw [reconcileRow]
  cases reconcileFields index row s.fields <;> simp

/-- The number of a row shows in its error and nowhere else. -/
theorem reconcileRow_renumber (s : Schema) (index other : Nat) (row : Row) :
    s.reconcileRow index row = (s.reconcileRow other row).mapError (RunError.forRow index) := by
  cases hother : s.reconcileRow other row with
  | ok record => exact reconcileRow_eq_ok_iff.mpr (reconcileRow_eq_ok_iff.mp hother)
  | error e =>
      obtain ⟨column, reason, hblames, rfl⟩ := reconcileRow_eq_error_iff.mp hother
      exact reconcileRow_eq_error_iff.mpr ⟨column, reason, hblames, rfl⟩

theorem exists_record_iff {index other : Nat} :
    (∃ record, s.reconcileRow index row = .ok record) ↔
      ∃ record, s.reconcileRow other row = .ok record :=
  exists_congr fun _ => reconcileRow_eq_ok_iff.trans reconcileRow_eq_ok_iff.symm

/-- Among consecutive rows the first that does not fit, and the column to blame. -/
def FirstMisfit (s : Schema) (rows : List Row) (i : Nat) (column reason : String) : Prop :=
  ∃ row, rows[i]? = some row ∧ s.Blames row column reason ∧
    ∀ j < i, ∀ earlier, rows[j]? = some earlier → ∃ record, s.reconcileRow j earlier = .ok record

theorem firstMisfit_cons_iff {rows : List Row} {i : Nat} {column reason : String} :
    s.FirstMisfit (row :: rows) i column reason ↔ i = 0 ∧ s.Blames row column reason ∨
      ∃ j, i = j + 1 ∧ (∃ record, s.reconcileRow 0 row = .ok record) ∧
        s.FirstMisfit rows j column reason := by
  cases i with
  | zero => simp [FirstMisfit]
  | succ i =>
      simp only [FirstMisfit, List.getElem?_cons_succ, Nat.add_one_ne_zero, false_and, false_or,
        Nat.add_right_cancel_iff, exists_eq_left']
      constructor
      · rintro ⟨blamed, hblamed, hblames, hearlier⟩
        refine ⟨hearlier 0 (Nat.zero_lt_succ i) row rfl, blamed, hblamed, hblames, ?_⟩
        intro j hj earlier hget
        exact exists_record_iff.mp (hearlier (j + 1) (Nat.succ_lt_succ hj) earlier hget)
      · rintro ⟨hrow, blamed, hblamed, hblames, hearlier⟩
        refine ⟨blamed, hblamed, hblames, ?_⟩
        intro j hj earlier hget
        cases j with
        | zero =>
            obtain rfl := Option.some.inj hget
            exact hrow
        | succ j =>
            exact exists_record_iff.mp (hearlier j (Nat.lt_of_succ_lt_succ hj) earlier hget)

theorem not_blames_of_record {index : Nat} {record : Record}
    (h : s.reconcileRow index row = .ok record) {column reason : String} :
    ¬s.Blames row column reason := by
  intro hblames
  have herror : s.reconcileRow index row = .error (.reconcile index column reason) :=
    reconcileRow_eq_error_iff.mpr ⟨column, reason, hblames, rfl⟩
  exact absurd (h.symm.trans herror) (by simp)

theorem reconcileFrom_eq_error_iff {index : Nat} {rows : List Row} {e : RunError} :
    s.reconcileFrom index rows = .error e ↔
      ∃ i column reason, s.FirstMisfit rows i column reason ∧
        e = .reconcile (index + i) column reason := by
  induction rows generalizing index e with
  | nil => simp [reconcileFrom, FirstMisfit]
  | cons row rows ih =>
      rw [reconcileFrom]
      simp only [firstMisfit_cons_iff]
      cases hrow : s.reconcileRow index row with
      | error cause =>
          obtain ⟨column, reason, hblames, rfl⟩ := reconcileRow_eq_error_iff.mp hrow
          constructor
          · intro h
            cases h
            exact ⟨0, column, reason, .inl ⟨rfl, hblames⟩, rfl⟩
          · rintro ⟨i, other, cause, ⟨rfl, hother⟩ | ⟨j, -, ⟨record, hrecord⟩, -⟩, rfl⟩
            · cases hrow.symm.trans (reconcileRow_eq_error_iff.mpr ⟨other, cause, hother, rfl⟩)
              rfl
            · exact absurd hblames (not_blames_of_record hrecord)
      | ok record =>
          have hfits : ∃ record, s.reconcileRow 0 row = .ok record :=
            exists_record_iff.mp ⟨record, hrow⟩
          have hrest := @ih (index + 1) e
          cases hrows : s.reconcileFrom (index + 1) rows with
          | error cause =>
              rw [hrows, Except.error.injEq] at hrest
              simp only [Except.error.injEq, hrest]
              constructor
              · rintro ⟨i, column, reason, hfirst, rfl⟩
                exact ⟨i + 1, column, reason, .inr ⟨i, rfl, hfits, hfirst⟩,
                  by rw [Nat.add_right_comm]; rfl⟩
              · rintro ⟨i, column, reason, ⟨-, hblames⟩ | ⟨j, rfl, -, hfirst⟩, rfl⟩
                · exact absurd hblames (not_blames_of_record hrow)
                · exact ⟨j, column, reason, hfirst, by rw [Nat.add_right_comm]; rfl⟩
          | ok records =>
              refine iff_of_false (by simp) ?_
              rintro ⟨i, column, reason, ⟨-, hblames⟩ | ⟨j, rfl, -, hfirst⟩, -⟩
              · exact not_blames_of_record hrow hblames
              · have hnone := hrows.symm.trans (ih.mpr ⟨j, column, reason, hfirst, rfl⟩)
                exact absurd hnone (by simp)

/-- The columns of a row that a schema names. -/
def named (s : Schema) (row : Row) : List (String × Value) :=
  row.columns.filter fun column => column.1 ∈ s.fields.map Field.name

/-- The rows have the same columns under the names of the fields, in any order. -/
def Alike (s : Schema) (row other : Row) : Prop := (s.named row).Perm (s.named other)

theorem Alike.value?_eq {row other : Row} (h : s.Alike row other) {field : Field}
    (hfield : field ∈ s.fields) : row.value? field.name = other.value? field.name := by
  apply Option.ext
  intro value
  have hmem := h.mem_iff (a := (field.name, value))
  have hname : field.name ∈ s.fields.map Field.name := List.mem_map_of_mem hfield
  simpa only [named, List.mem_filter, hname, decide_true, and_true, ← Row.value?_eq_some_iff]
    using hmem

theorem reconcileFields_congr {index : Nat} {row other : Row} {fields : List Field}
    (h : ∀ field ∈ fields, row.value? field.name = other.value? field.name) :
    reconcileFields index row fields = reconcileFields index other fields := by
  induction fields with
  | nil => rfl
  | cons field fields ih =>
      obtain ⟨hfield, hfields⟩ := List.forall_mem_cons.mp h
      rw [reconcileFields, reconcileFields, hfield, ih hfields]

theorem Alike.reconcileRow_eq {row other : Row} (h : s.Alike row other) (index : Nat) :
    s.reconcileRow index row = s.reconcileRow index other := by
  rw [reconcileRow, reconcileRow, reconcileFields_congr fun _ => h.value?_eq]

theorem reconcileFrom_congr {index : Nat} {rows others : List Row}
    (h : List.Forall₂ s.Alike rows others) :
    s.reconcileFrom index rows = s.reconcileFrom index others := by
  induction h generalizing index with
  | nil => rfl
  | cons hrow _ ih => rw [reconcileFrom, reconcileFrom, hrow.reconcileRow_eq, ih]

theorem reconcile_eq_ok_iff {rows : List Row} {records : List Record} :
    s.reconcile rows = .ok records ↔
      List.Forall₂ (fun row record => ∀ index, s.reconcileRow index row = .ok record)
        rows records := by
  have hany : (fun row record => s.reconcileRow 0 row = .ok record) =
      fun row record => ∀ index, s.reconcileRow index row = .ok record := by
    funext row record
    refine propext ⟨fun h index => ?_, fun h => h 0⟩
    exact reconcileRow_eq_ok_iff.mpr (reconcileRow_eq_ok_iff.mp h)
  rw [reconcile, reconcileFrom_eq_ok_iff, hany]

theorem reconcile_eq_error_iff {rows : List Row} {e : RunError} :
    s.reconcile rows = .error e ↔
      ∃ i column reason, s.FirstMisfit rows i column reason ∧
        e = .reconcile i column reason := by
  rw [reconcile, reconcileFrom_eq_error_iff]
  simp only [Nat.zero_add]

/-- A batch has the records of its rows, or the error of the first row that has none, which
names the first column to blame there. -/
structure AllOrNothing (s : Schema) (rows : List Row) : Prop where
  succeeds : (∃ records, s.reconcile rows = .ok records) ↔
    ∀ i row, rows[i]? = some row → ∃ record, s.reconcileRow i row = .ok record
  records : ∀ records, s.reconcile rows = .ok records ↔
    List.Forall₂ (fun row record => ∀ index, s.reconcileRow index row = .ok record) rows records
  first : ∀ e, s.reconcile rows = .error e ↔
    ∃ i column reason, s.FirstMisfit rows i column reason ∧ e = .reconcile i column reason
  blamed : ∀ index row e, s.reconcileRow index row = .error e ↔
    ∃ column reason, s.Blames row column reason ∧ e = .reconcile index column reason
  numbered : ∀ index other row,
    s.reconcileRow index row = (s.reconcileRow other row).mapError (RunError.forRow index)
  alike : ∀ others, List.Forall₂ s.Alike rows others → s.reconcile others = s.reconcile rows
  alike_row : ∀ index row other, s.Alike row other →
    s.reconcileRow index other = s.reconcileRow index row

theorem allOrNothing (s : Schema) (rows : List Row) : s.AllOrNothing rows := by
  constructor
  case succeeds =>
    constructor
    · rintro ⟨records, h⟩ i row hrow
      obtain ⟨record, -, hrecord⟩ := exists_getElem? (reconcile_eq_ok_iff.mp h) hrow
      exact ⟨record, hrecord i⟩
    · intro h
      cases hresult : s.reconcile rows with
      | ok records => exact ⟨records, rfl⟩
      | error e =>
          obtain ⟨i, column, reason, ⟨row, hrow, hblames, -⟩, -⟩ :=
            reconcile_eq_error_iff.mp hresult
          obtain ⟨record, hrecord⟩ := h i row hrow
          exact absurd hblames (not_blames_of_record hrecord)
  case records => exact fun records => reconcile_eq_ok_iff
  case first => exact fun e => reconcile_eq_error_iff
  case blamed => exact fun index row e => reconcileRow_eq_error_iff
  case numbered => exact reconcileRow_renumber s
  case alike => exact fun others h => (reconcileFrom_congr h).symm
  case alike_row => exact fun index row other h => (h.reconcileRow_eq index).symm

end Schema

end RowScript
