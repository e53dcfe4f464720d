import RowScript.Proofs.Conformance

/-!
Where a written record has a null. A null stands for the null value and for the doubles
that JSON has no number for, and no other value is written that way. So a field that needs
a value can still come out as null, but only where it holds such a double.
-/

namespace RowScript

namespace Json

/-- The characters that numbers are written with. -/
def NumberChar (c : Char) : Prop := c.isDigit = true ∨ c ∈ ['-', '+', '.', 'e']

theorem NumberChar.ne_n {c : Char} (h : NumberChar c) : c ≠ 'n' := by
  intro hn
  subst hn
  exact absurd h (by simp [NumberChar])

end Json

open Json

namespace Decimal

theorem numberChar_digitsOf (n : Nat) : ∀ c ∈ digitsOf n, NumberChar c :=
  fun _ hc => .inl (Nat.isDigit_of_mem_toDigits (by omega) (by omega) hc)

theorem numberChar_zeros (count : Nat) : ∀ c ∈ List.replicate count '0', NumberChar c := by
  intro c hc
  rw [List.eq_of_mem_replicate hc]
  exact .inl rfl

theorem numberChar_positional (d : Decimal) :
    (∀ c ∈ d.positional.1, NumberChar c) ∧ ∀ c ∈ d.positional.2, NumberChar c := by
  have hdigits := numberChar_digitsOf d.digits
  rw [positional]
  split
  · exact ⟨numberChar_zeros 1, List.forall_mem_append.mpr ⟨numberChar_zeros _, hdigits⟩⟩
  · have hpadded : ∀ c ∈ digitsOf d.digits ++ List.replicate d.exponent.toNat '0',
        NumberChar c := List.forall_mem_append.mpr ⟨hdigits, numberChar_zeros _⟩
    exact ⟨fun c hc => hpadded c (List.mem_of_mem_take hc),
      fun c hc => hpadded c (List.mem_of_mem_drop hc)⟩

end Decimal

namespace Binary64

open Decimal

theorem numberChar_signText (x : Binary64) : ∀ c ∈ x.signText, NumberChar c := by
  rw [signText]
  split <;> simp [NumberChar]

theorem numberChar_scientific (d : Decimal) : ∀ c ∈ scientific d, NumberChar c := by
  have hdigits := numberChar_digitsOf d.digits
  have hexponent := numberChar_digitsOf (d.point - 1).natAbs
  have hmark : ∀ c ∈ ['e', if d.point - 1 < 0 then '-' else '+'], NumberChar c := by
    split <;> simp [NumberChar]
  rw [scientific]
  refine List.forall_mem_append.mpr ⟨List.forall_mem_append.mpr ⟨?_, hmark⟩, hexponent⟩
  split
  · rename_i first second rest hsplit
    rw [hsplit] at hdigits
    obtain ⟨hfirst, hrest⟩ := List.forall_mem_cons.mp hdigits
    exact List.forall_mem_cons.mpr ⟨hfirst, List.forall_mem_cons.mpr ⟨.inr (by simp), hrest⟩⟩
  · exact hdigits

/-- A number is written with digits, signs, a point and the letter of the exponent. -/
theorem numberChar_jsonNumber (x : Binary64) : ∀ c ∈ x.jsonNumber, NumberChar c := by
  have hsign := numberChar_signText x
  obtain ⟨hwhole, hfraction⟩ := numberChar_positional (Decimal.shortest .even x)
  rw [jsonNumber]
  split
  · exact List.forall_mem_append.mpr ⟨hsign, by simp [NumberChar]⟩
  · simp only
    split
    · split
      · rename_i whole heq
        rw [heq] at hwhole
        exact List.forall_mem_append.mpr ⟨List.forall_mem_append.mpr ⟨hsign, hwhole⟩,
          by simp [NumberChar]⟩
      · rename_i whole fraction _ heq
        rw [heq] at hwhole hfraction
        exact List.forall_mem_append.mpr ⟨List.forall_mem_append.mpr ⟨hsign, hwhole⟩,
          List.forall_mem_cons.mpr ⟨.inr (by simp), hfraction⟩⟩
    · exact List.forall_mem_append.mpr ⟨hsign, numberChar_scientific _⟩

end Binary64

namespace Json

/-- The text of a null. -/
def nullText : List Char := ['n', 'u', 'l', 'l']

theorem ne_nullText_of_numberChar {text : List Char} (h : ∀ c ∈ text, NumberChar c) :
    text ≠ nullText := by
  intro hnull
  have hn : 'n' ∈ text := by rw [hnull]; exact List.mem_cons_self
  exact (h 'n' hn).ne_n rfl

theorem numberChar_intText (n : Int64) : ∀ c ∈ intText n, NumberChar c := by
  have hdigits := Decimal.numberChar_digitsOf n.toInt.natAbs
  rw [intText]
  split
  · exact List.forall_mem_cons.mpr ⟨.inr (by simp), hdigits⟩
  · exact hdigits

theorem floatText_eq_null_iff (x : Binary64) : floatText x = nullText ↔ x.isFinite = false := by
  rw [floatText]
  by_cases hfinite : x.isFinite = true
  · have hne : x.jsonNumber ≠ nullText :=
      ne_nullText_of_numberChar (Binary64.numberChar_jsonNumber x)
    simp [hfinite, hne]
  · simp [hfinite, nullText]

end Json

namespace Value

/-- The text of a value is that of a null for the null value and for doubles that are no
numbers. -/
theorem compact_eq_null_iff (value : Value) :
    value.toJson.compact = nullText ↔
      value = .null ∨ ∃ x, value = .float x ∧ x.isFinite = false := by
  cases value with
  | null => simp [toJson, Tree.compact, nullText]
  | bool b => cases b <;> simp [toJson, Tree.compact, boolText, nullText]
  | int n =>
      have hne := ne_nullText_of_numberChar (numberChar_intText n)
      simp [toJson, Tree.compact, hne]
  | float x => simp [toJson, Tree.compact, floatText_eq_null_iff]
  | text content | timestamp t => simp [toJson, Tree.compact, stringText, nullText]
  | array items | map entries => simp [toJson, Tree.compact, nullText]

end Value

namespace Json.Tree

theorem compactMembers_eq (members : List (String × Tree)) :
    compactMembers members = [','].intercalate
      (members.map fun member => stringText member.1 ++ ':' :: member.2.compact) := by
  induction members with
  | nil => rfl
  | cons member members ih =>
      cases members with
      | nil => simp [compactMembers]
      | cons other members => simp [compactMembers, ih]

end Json.Tree

namespace Record

/-- The text of an entry: the name of the field and the text of its value. -/
def memberText (entry : String × Value) : List Char :=
  stringText entry.1 ++ ':' :: entry.2.toJson.compact

theorem entriesToJson_eq (entries : List (String × Value)) :
    Value.entriesToJson entries = entries.map fun entry => (entry.1, entry.2.toJson) := by
  induction entries with
  | nil => rfl
  | cons entry entries ih => simp [Value.entriesToJson, ih]

theorem compact_toJson (r : Record) :
    r.toJson.compact =
      '\x7b' :: ([','].intercalate (r.entries.map memberText) ++ ['\x7d']) := by
  have hmembers : (fun member : String × Tree => stringText member.1 ++ ':' :: member.2.compact) ∘
      (fun entry : String × Value => (entry.1, entry.2.toJson)) = memberText := by
    funext entry
    rfl
  rw [toJson, Tree.compact, entriesToJson_eq, Tree.compactMembers_eq, List.map_map, hmembers]
  rfl

end Record

namespace Field

/-- The field may be without a value, and the row has none for it. -/
def Vacant (row : Row) (field : Field) : Prop :=
  field.nullable = true ∧ (row.value? field.name = none ∨ row.value? field.name = some .null)

/-- The field is for doubles, and what the row has for it becomes one that is no number. -/
def Unwritable (row : Row) (field : Field) : Prop :=
  (field.type = .float ∨ field.type = .double) ∧
    ∃ held x, row.value? field.name = some held ∧
      held.coerce? field.type = some (.float x) ∧ x.isFinite = false

variable {row : Row} {field : Field} {held value : Value}

theorem fieldValue_eq_ok_iff (h : held ≠ .null) :
    Schema.fieldValue field (some held) = .ok value ↔ held.coerce? field.type = some value := by
  rw [Schema.fieldValue]
  · cases held.coerce? field.type <;> simp
  · exact h

theorem compact_eq_null_iff (h : Schema.fieldValue field (row.value? field.name) = .ok value) :
    value.toJson.compact = nullText ↔ field.Vacant row ∨ field.Unwritable row := by
  rw [Value.compact_eq_null_iff]
  constructor
  · rintro (rfl | ⟨x, rfl, hfinite⟩)
    · cases holds_of_fieldValue h with
      | null hnullable hcolumn => exact .inl ⟨hnullable, hcolumn⟩
      | value _ _ htype => exact absurd rfl htype.ne_null
    · cases holds_of_fieldValue h with
      | @value held _ hcolumn hheld htype =>
          rw [hcolumn, fieldValue_eq_ok_iff hheld] at h
          have htypes : field.type = .float ∨ field.type = .double := by
            generalize field.type = type at htype
            cases htype <;> simp
          exact .inr ⟨htypes, held, x, hcolumn, h, hfinite⟩
  · rintro (⟨hnullable, hcolumn⟩ | ⟨htypes, held, x, hcolumn, hfitted, hfinite⟩)
    · left
      obtain hnone | hnull := hcolumn
      · rw [hnone, Schema.fieldValue, if_pos hnullable] at h
        exact (Except.ok.inj h).symm
      · rw [hnull, Schema.fieldValue, if_pos hnullable] at h
        exact (Except.ok.inj h).symm
    · right
      have hheld : held ≠ .null := by
        rintro rfl
        obtain htype | htype := htypes <;> simp [htype, Value.coerce?] at hfitted
      rw [hcolumn, fieldValue_eq_ok_iff hheld, hfitted] at h
      exact ⟨x, (Option.some.inj h).symm, hfinite⟩

end Field

namespace Schema

/-- The text of a record has the fields in their order, and a null for exactly those that
are vacant or hold a double that is no number. -/
structure Written (s : Schema) (row : Row) (record : Record) : Prop where
  text : record.toJson.compact =
    '\x7b' :: ([','].intercalate (record.entries.map Record.memberText) ++ ['\x7d'])
  nulls : List.Forall₂ (fun field entry => entry.1 = field.name ∧
      (entry.2.toJson.compact = nullText ↔ field.Vacant row ∨ field.Unwritable row))
    s.fields record.entries
  required : List.Forall₂ (fun field entry =>
      field.nullable = false → field.type ≠ .float → field.type ≠ .double →
        entry.2.toJson.compact ≠ nullText)
    s.fields record.entries

/-- Among the fields that need a value, none but those for doubles is ever written as
null. -/
theorem written_of_reconcileRow {s : Schema} {index : Nat} {row : Row} {record : Record}
    (h : s.reconcileRow index row = .ok record) : s.Written row record := by
  have hnulls := (reconcileRow_eq_ok_iff.mp h).imp fun _ _ hentry =>
    And.intro hentry.1 (Field.compact_eq_null_iff hentry.2)
  constructor
  case text => exact record.compact_toJson
  case nulls => exact hnulls
  case required =>
    refine hnulls.imp ?_
    intro field entry hentry hnullable hfloat hdouble hnull
    obtain ⟨hvacant, _⟩ | ⟨htype | htype, _⟩ := hentry.2.mp hnull
    · exact Bool.noConfusion (hnullable.symm.trans hvacant)
    · exact hfloat htype
    · exact hdouble htype

/-- The first two fields are written as null, one of them although it needs a value. -/
theorem written_of_overflow :
    reconcileRow ⟨"out", [⟨"x", .double, false⟩, ⟨"y", .int, true⟩, ⟨"z", .string, false⟩]⟩ 0
        (.ofList [("x", .text "1e999"), ("z", .text "null")]) =
        .ok ⟨[("x", .float (.infinity false)), ("y", .null), ("z", .text "null")]⟩ ∧
      Written ⟨"out", [⟨"x", .double, false⟩, ⟨"y", .int, true⟩, ⟨"z", .string, false⟩]⟩
        (.ofList [("x", .text "1e999"), ("z", .text "null")])
        ⟨[("x", .float (.infinity false)), ("y", .null), ("z", .text "null")]⟩ := by
  have hrow : reconcileRow
      ⟨"out", [⟨"x", .double, false⟩, ⟨"y", .int, true⟩, ⟨"z", .string, false⟩]⟩ 0
      (.ofList [("x", .text "1e999"), ("z", .text "null")]) =
      .ok ⟨[("x", .float (.infinity false)), ("y", .null), ("z", .text "null")]⟩ := rfl
  exact ⟨hrow, written_of_reconcileRow hrow⟩

/-- A field that needs a value is not always written with one. -/
theorem exists_null_at_required :
    ∃ (s : Schema) (row : Row) (record : Record), s.reconcileRow 0 row = .ok record ∧
      (∀ field ∈ s.fields, field.nullable = false) ∧
      record.toJson.toCompact = "\x7b\"x\":null\x7d" :=
  ⟨⟨"out", [⟨"x", .double, false⟩]⟩, .ofList [("x", .text "inf")],
    ⟨[("x", .float (.infinity false))]⟩, by rfl, by decide, by rfl⟩

end Schema

end RowScript
