import RowScript.Proofs.Columns
import RowScript.Proofs.Conformance

/-!
Records taken for rows. A value that a field holds is of the field's type, and a value of a type
stays as it is when it is turned into that type. So a record fits its schema once more, as a row
with the entries of the record for its columns, and is its own record. This asks for fields of
different names, since a row has no name twice.
-/

namespace RowScript

theorem Field.Holds.fieldValue_eq {row : Row} {field : Field} {value : Value}
    (h : field.Holds row value) : Schema.fieldValue field (some value) = .ok value := by
  cases h with
  | null hnullable _ => rw [Schema.fieldValue, if_pos hnullable]
  | value _ _ htype =>
      rw [Schema.fieldValue, Value.coerce?_of_hasType htype]
      exact htype.ne_null

namespace Schema

section

variable {row : Row} {fields : List Field} {entries : List (String × Value)}

theorem names_of_isEntry (h : List.Forall₂ (IsEntry row) fields entries) :
    Columns.names entries = fields.map Field.name := by
  induction h with
  | nil => rfl
  | cons hentry _ ih => exact congr (congrArg List.cons hentry.1) ih

/-- The entries of a row for its fields are their own entries. -/
theorem isEntry_ofList (hfields : (fields.map Field.name).Nodup)
    (h : List.Forall₂ (IsEntry row) fields entries) :
    List.Forall₂ (IsEntry (.ofList entries)) fields entries := by
  have hcolumns : (Row.ofList entries).columns = entries :=
    Row.columns_ofList (names_of_isEntry h ▸ hfields)
  have hmembers : List.Forall₂ (fun entry field => entry ∈ entries ∧ IsEntry row field entry)
      entries fields := (List.forall₂_and_left _ _).mpr ⟨fun _ hentry => hentry, h.flip⟩
  refine hmembers.flip.imp ?_
  rintro field entry ⟨hmem, hname, hvalue⟩
  have hheld : (Row.ofList entries).value? field.name = some entry.2 := by
    rw [Row.value?_eq_some_iff, hcolumns, ← hname]
    exact hmem
  refine ⟨hname, ?_⟩
  rw [hheld]
  exact (Field.holds_of_fieldValue hvalue).fieldValue_eq

end

variable {s : Schema} {record : Record}

theorem reconcileRow_ofList (hs : (s.fields.map Field.name).Nodup) {index : Nat} {row : Row}
    (h : s.reconcileRow index row = .ok record) (again : Nat) :
    s.reconcileRow again (.ofList record.entries) = .ok record :=
  reconcileRow_eq_ok_iff.mpr (isEntry_ofList hs (reconcileRow_eq_ok_iff.mp h))

theorem reconcileRow_ofList_of_special_values :
    ∃ (s : Schema) (row : Row) (record : Record),
      s = ⟨"out", [⟨"n", .int, false⟩, ⟨"x", .float, false⟩, ⟨"y", .double, true⟩,
        ⟨"s", .string, false⟩, ⟨"w", .timestamp, false⟩]⟩ ∧
      row = .ofList [("w", .int (-1)), ("s", .bool true), ("x", .text " -nan "),
        ("n", .text "-07")] ∧
      record = ⟨[("n", .int (-7)), ("x", .float (.nan true)), ("y", .null), ("s", .text "true"),
        ("w", .timestamp ⟨-1, 999000000, by decide⟩)]⟩ ∧
      (s.fields.map Field.name).Nodup ∧ s.reconcileRow 4 row = .ok record ∧
      s.reconcileRow 0 (.ofList record.entries) = .ok record := by
  have hrow : reconcileRow ⟨"out", [⟨"n", .int, false⟩, ⟨"x", .float, false⟩, ⟨"y", .double, true⟩,
      ⟨"s", .string, false⟩, ⟨"w", .timestamp, false⟩]⟩ 4 (.ofList [("w", .int (-1)),
        ("s", .bool true), ("x", .text " -nan "), ("n", .text "-07")]) =
      .ok ⟨[("n", .int (-7)), ("x", .float (.nan true)), ("y", .null), ("s", .text "true"),
        ("w", .timestamp ⟨-1, 999000000, by decide⟩)]⟩ := rfl
  exact ⟨_, _, _, rfl, rfl, rfl, by decide, hrow, reconcileRow_ofList (by decide) hrow 0⟩

end Schema

end RowScript
