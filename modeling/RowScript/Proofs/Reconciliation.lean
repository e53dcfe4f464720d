import RowScript.Proofs.Results
import RowScript.Schema.Reconcile

/-!
Reconciliation field by field and row by row. The entries of a record are those of its
fields on their own. The number of a row reaches the error and nothing else, so a batch
fits a schema if each of its rows does on its own, and the records are theirs.
-/

namespace RowScript.Schema

/-- The entry that a field has in the record of a row. -/
def IsEntry (row : Row) (field : Field) (entry : String × Value) : Prop :=
  entry.1 = field.name ∧ fieldValue field (row.value? field.name) = .ok entry.2

theorem reconcileFields_eq_ok_iff {index : Nat} {row : Row} {fields : List Field}
    {entries : List (String × Value)} :
    reconcileFields index row fields = .ok entries ↔
      List.Forall₂ (IsEntry row) fields entries := by
  induction fields generalizing entries with
  | nil => simp [reconcileFields, eq_comm]
  | cons field fields ih =>
      rw [reconcileFields, List.forall₂_cons_left_iff]
      cases hvalue : fieldValue field (row.value? field.name) with
      | error misfit => simp [IsEntry, hvalue]
      | ok value =>
          simp only [← ih, IsEntry, hvalue, Except.ok.injEq]
          cases reconcileFields index row fields with
          | error e => simp
          | ok rest =>
              simp only [Except.ok.injEq]
              constructor
              · intro h
                exact ⟨(field.name, value), rest, ⟨rfl, rfl⟩, rfl, h.symm⟩
              · intro ⟨entry, others, ⟨hname, hsame⟩, hrest, hentries⟩
                rw [hentries, hrest, hsame, ← hname]

theorem reconcileRow_eq_ok_iff {s : Schema} {index : Nat} {row : Row} {record : Record} :
    s.reconcileRow index row = .ok record ↔
      List.Forall₂ (IsEntry row) s.fields record.entries := by
  rw [reconcileRow, ← reconcileFields_eq_ok_iff]
  cases reconcileFields index row s.fields with
  | error e => simp
  | ok entries =>
      cases record
      simp only [Except.ok.injEq, Record.mk.injEq]

theorem reconcileFrom_eq_ok_iff {s : Schema} {index : Nat} {rows : List Row}
    {records : List Record} :
    s.reconcileFrom index rows = .ok records ↔
      List.Forall₂ (fun row record => s.reconcileRow 0 row = .ok record) rows records := by
  induction rows generalizing index records with
  | nil => simp [reconcileFrom, eq_comm]
  | cons row rows ih =>
      have hrow (record : Record) : s.reconcileRow 0 row = .ok record ↔
          s.reconcileRow index row = .ok record :=
        reconcileRow_eq_ok_iff.trans reconcileRow_eq_ok_iff.symm
      have hrest (rest : List Record) := @ih (index + 1) rest
      rw [List.forall₂_cons_left_iff, reconcileFrom]
      simp only [hrow, ← hrest]
      cases s.reconcileRow index row with
      | error e => simp
      | ok record =>
          cases s.reconcileFrom (index + 1) rows with
          | error e => simp
          | ok rest =>
              simp only [Except.ok.injEq]
              constructor
              · intro h
                exact ⟨record, rest, rfl, rfl, h.symm⟩
              · intro ⟨_, _, hrecord, hsame, hout⟩
                rw [hout, hrecord, hsame]

end RowScript.Schema
