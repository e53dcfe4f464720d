import RowScript.Proofs.RowLocality
import RowScript.Proofs.TimestampText
import RowScript.Schema.Reconcile

/-!
Timestamps as texts and back. All the texts that are made of a timestamp are the same one, and
a directive and a field of a schema take the same texts for timestamps, to the same instants:
those of the written form, with any white space around them. So a timestamp survives as text
if its year has four digits, down to its last nanosecond, and is refused otherwise.
-/

namespace RowScript

open Rfc3339

/-- What the directive makes of a row with a text that stands for an instant, or for none. A
text that stands for none is counted, and stays. -/
def parsed (column : String) (row : Row) (c : Context) :
    Option Instant → Context × Except ExecutionError (List Row)
  | some t => (c, .ok [row.set column (.timestamp t)])
  | none => (c.increment BuiltIn.skippedCounter 1, .ok [row])

theorem execute_parseAsDate {column content : String} {row : Row} (c : Context)
    (h : row.value? column = some (.text content)) :
    (BuiltIn.parseAsDate column).execute c [row] =
      parsed column row c (read? (Text.trim content.toList)) := by
  cases hread : read? (Text.trim content.toList) with
  | none =>
      have hparse : row.parseTimestamp column = (row, true) := by
        simp only [Row.parseTimestamp, h, hread]
      simp [BuiltIn.execute, hparse, parsed]
  | some t =>
      have hparse : row.parseTimestamp column = (row.set column (.timestamp t), false) := by
        simp only [Row.parseTimestamp, h, hread]
      simp [BuiltIn.execute, hparse, parsed]

/-- A field of a schema and the directive take a text for the same instant, or for none. -/
structure ReadAs (content : String) (found : Option Instant) : Prop where
  field : (Value.text content).coerce? .timestamp = found.map .timestamp
  directive : ∀ (column : String) (row : Row) (c : Context),
    row.value? column = some (.text content) →
      (BuiltIn.parseAsDate column).execute c [row] = parsed column row c found

theorem readAs_iff {content : String} {found : Option Instant} :
    ReadAs content found ↔ read? (Text.trim content.toList) = found := by
  constructor
  · intro h
    have hinjective : Function.Injective (Option.map Value.timestamp) :=
      Option.map_injective fun _ _ h => Value.timestamp.inj h
    exact hinjective h.field
  · rintro rfl
    exact ⟨rfl, fun _ _ c hcolumn => execute_parseAsDate c hcolumn⟩

/-- A text of the written form, with nothing but white space around it, and its instant. -/
def Spells (content : String) (t : Instant) : Prop :=
  ∃ lead text trail w, content.toList = lead ++ (text ++ trail) ∧
    (∀ c ∈ lead, Text.isBlank c = true) ∧ (∀ c ∈ trail, Text.isBlank c = true) ∧
    Form text w ∧ w.Valid ∧ w.Denotes t

theorem readAs_some_iff {content : String} {t : Instant} :
    ReadAs content (some t) ↔ Spells content t := by
  rw [readAs_iff, read?_eq_some_iff]
  constructor
  · rintro ⟨w, hform, hvalid, hdenotes⟩
    obtain ⟨lead, trail, hlead, htrail, hcontent⟩ := Text.exists_surrounding content.toList
    exact ⟨lead, _, trail, w, hcontent, hlead, htrail, hform, hvalid, hdenotes⟩
  · rintro ⟨lead, text, trail, w, hcontent, hlead, htrail, hform, hvalid, hdenotes⟩
    rw [hcontent, hform.trim_surrounded hlead htrail]
    exact ⟨w, hform, hvalid, hdenotes⟩

/-- An instant that is read from a text of the year 0, and written with a sign. -/
example : (read? "0000-01-01t00:00:60.25+00:01".toList).map write =
    some "-0001-12-31T23:59:60.250Z" := by decide +kernel

end RowScript
