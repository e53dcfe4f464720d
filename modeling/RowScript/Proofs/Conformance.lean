import Mathlib.Algebra.Ring.Int.Defs
import RowScript.Proofs.Reconciliation

/-!
What a record can hold. The values of a type are exactly those that turning a value into
the type gives, and a record has such a value, or none where its schema allows that, for
each field of the schema.
-/

namespace RowScript

theorem int32?_eq_some_iff {n : Int} {m : Int64} :
    int32? n = some m ↔ m.toInt = n ∧ -2 ^ 31 ≤ n ∧ n ≤ 2 ^ 31 - 1 := by
  have hleast : Int32.minValue.toInt = -2 ^ 31 := by decide
  have hmost : Int32.maxValue.toInt = 2 ^ 31 - 1 := by decide
  rw [int32?, hleast, hmost, Option.ite_none_right_eq_some, Option.some.injEq, and_comm]
  apply and_congr_left
  intro ⟨hlow, hhigh⟩
  constructor
  · intro h
    rw [← h, Int64.toInt_ofInt_of_le (by omega) (by omega)]
  · intro h
    rw [← h, Int64.ofInt_toInt]

namespace Value

/-- The values of a type. Of the integers, `int` has those of thirty-two bits. -/
inductive HasType : FieldType → Value → Prop where
  | boolean (b : Bool) : HasType .boolean (.bool b)
  | int (n : Int64) (hleast : -2 ^ 31 ≤ n.toInt) (hmost : n.toInt ≤ 2 ^ 31 - 1) :
      HasType .int (.int n)
  | long (n : Int64) : HasType .long (.int n)
  | float (x : Binary64) : HasType .float (.float x)
  | double (x : Binary64) : HasType .double (.float x)
  | string (content : String) : HasType .string (.text content)
  | timestamp (t : Instant) : HasType .timestamp (.timestamp t)

variable {type : FieldType} {value fitted : Value}

theorem hasType_of_int32? {n : Int} (h : (int32? n).map int = some fitted) :
    fitted.HasType .int := by
  obtain ⟨m, hm, rfl⟩ := Option.map_eq_some_iff.mp h
  obtain ⟨rfl, hleast, hmost⟩ := int32?_eq_some_iff.mp hm
  exact .int m hleast hmost

theorem hasType_of_coerce? (h : value.coerce? type = some fitted) : fitted.HasType type := by
  cases type with
  | boolean =>
      cases value with
      | bool b =>
          cases h
          exact .boolean b
      | text content =>
          obtain ⟨b, -, rfl⟩ := Option.map_eq_some_iff.mp h
          exact .boolean b
      | _ => simp [coerce?] at h
  | int =>
      cases value with
      | int n => exact hasType_of_int32? h
      | text content =>
          rw [coerce?, Option.map_bind] at h
          obtain ⟨n, -, hn⟩ := Option.bind_eq_some_iff.mp h
          exact hasType_of_int32? hn
      | _ => simp [coerce?] at h
  | long =>
      cases value with
      | int n =>
          cases h
          exact .long n
      | text content =>
          obtain ⟨n, -, rfl⟩ := Option.map_eq_some_iff.mp h
          exact .long n
      | _ => simp [coerce?] at h
  | float | double =>
      cases value with
      | int n | float x =>
          cases h
          constructor
      | text content =>
          obtain ⟨x, -, rfl⟩ := Option.map_eq_some_iff.mp h
          constructor
      | _ => simp [coerce?] at h
  | string =>
      cases value with
      | array items | map entries => simp [coerce?] at h
      | _ =>
          cases h
          exact .string _
  | timestamp =>
      cases value with
      | timestamp t =>
          cases h
          exact .timestamp t
      | text content | int n =>
          obtain ⟨t, -, rfl⟩ := Option.map_eq_some_iff.mp h
          exact .timestamp t
      | _ => simp [coerce?] at h

theorem coerce?_of_hasType (h : value.HasType type) : value.coerce? type = some value := by
  cases h with
  | int n hleast hmost =>
      have hn : int32? n.toInt = some n := int32?_eq_some_iff.mpr ⟨rfl, hleast, hmost⟩
      rw [coerce?, hn]
      rfl
  | _ => rfl

theorem HasType.ne_null (h : value.HasType type) : value ≠ .null := by
  cases h <;> simp

theorem HasType.flat (h : value.HasType type) :
    (∀ items, value ≠ .array items) ∧ ∀ entries, value ≠ .map entries := by
  cases h <;> simp

end Value

namespace Field

/-- What a field can hold for a row: nothing if it may be without a value and the row has
none for it, otherwise a value of its type. -/
inductive Holds (row : Row) (field : Field) : Value → Prop where
  | null (hnullable : field.nullable = true)
      (hcolumn : row.value? field.name = none ∨ row.value? field.name = some .null) :
      Holds row field .null
  | value {held fitted : Value} (hcolumn : row.value? field.name = some held)
      (hheld : held ≠ .null) (htype : fitted.HasType field.type) : Holds row field fitted

variable {row : Row} {field : Field} {value : Value}

theorem holds_of_fieldValue
    (h : Schema.fieldValue field (row.value? field.name) = .ok value) :
    field.Holds row value := by
  by_cases hcolumn : row.value? field.name = none ∨ row.value? field.name = some .null
  · have hvalue : (if field.nullable then .ok .null else .error .missing) =
        (.ok value : Except Schema.Misfit Value) := by
      obtain hnone | hnull := hcolumn
      · rwa [hnone] at h
      · rwa [hnull] at h
    split at hvalue
    · rename_i hnullable
      cases hvalue
      exact .null hnullable hcolumn
    · cases hvalue
  · obtain ⟨hnone, hnull⟩ := not_or.mp hcolumn
    obtain ⟨held, hheld⟩ := Option.ne_none_iff_exists'.mp hnone
    have hpresent : held ≠ .null := fun heq => hnull (heq ▸ hheld)
    rw [hheld, Schema.fieldValue] at h
    · split at h
      · rename_i fitted hfitted
        cases h
        exact .value hheld hpresent (Value.hasType_of_coerce? hfitted)
      · cases h
    · exact hpresent

theorem Holds.ne_null (h : field.Holds row value) (hrequired : field.nullable = false) :
    value ≠ .null := by
  cases h with
  | null hnullable _ => simp [hrequired] at hnullable
  | value _ _ htype => exact htype.ne_null

theorem Holds.flat (h : field.Holds row value) :
    (∀ items, value ≠ .array items) ∧ ∀ entries, value ≠ .map entries := by
  cases h with
  | null => simp
  | value _ _ htype => exact htype.flat

end Field

namespace Schema

/-- The record has for each field, in order and under its name, what the field can hold for
the row. No field that needs a value is without one, and no value has values inside. -/
structure Conforms (s : Schema) (row : Row) (record : Record) : Prop where
  names : record.entries.map Prod.fst = s.fields.map Field.name
  holds : List.Forall₂ (fun field entry => field.Holds row entry.2) s.fields record.entries
  required : List.Forall₂ (fun field entry => field.nullable = false → entry.2 ≠ .null)
    s.fields record.entries
  flat : ∀ entry ∈ record.entries,
    (∀ items, entry.2 ≠ .array items) ∧ ∀ entries, entry.2 ≠ .map entries

theorem conforms_of_reconcileRow {s : Schema} {index : Nat} {row : Row} {record : Record}
    (h : s.reconcileRow index row = .ok record) : s.Conforms row record := by
  have hentries := reconcileRow_eq_ok_iff.mp h
  have hholds : List.Forall₂ (fun field entry => field.Holds row entry.2)
      s.fields record.entries :=
    hentries.imp fun _ _ hentry => Field.holds_of_fieldValue hentry.2
  constructor
  case names =>
    have hnames := hentries.flip.imp fun _ _ hentry => hentry.1
    rwa [← List.forall₂_eq_eq_eq, List.forall₂_map_left_iff, List.forall₂_map_right_iff]
  case holds => exact hholds
  case required => exact hholds.imp fun _ _ hfield hrequired => hfield.ne_null hrequired
  case flat =>
    have hflat := hholds.flip.imp fun _ _ hfield => And.intro hfield.flat hfield
    exact ((List.forall₂_and_left _ _).mp hflat).1

theorem conforms_of_reordered_row :
    reconcileRow ⟨"out", [⟨"id", .int, false⟩, ⟨"when", .timestamp, true⟩]⟩ 0
        (.ofList [("extra", .array []), ("id", .text " 12 ")]) =
        .ok ⟨[("id", .int 12), ("when", .null)]⟩ ∧
      Conforms ⟨"out", [⟨"id", .int, false⟩, ⟨"when", .timestamp, true⟩]⟩
        (.ofList [("extra", .array []), ("id", .text " 12 ")])
        ⟨[("id", .int 12), ("when", .null)]⟩ := by
  have hrow : reconcileRow ⟨"out", [⟨"id", .int, false⟩, ⟨"when", .timestamp, true⟩]⟩ 0
      (.ofList [("extra", .array []), ("id", .text " 12 ")]) =
      .ok ⟨[("id", .int 12), ("when", .null)]⟩ := rfl
  exact ⟨hrow, conforms_of_reconcileRow hrow⟩

end Schema

end RowScript
