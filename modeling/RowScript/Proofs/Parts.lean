import Mathlib.Data.List.Forall2
import RowScript.Proofs.Columns
import RowScript.Proofs.Nullability
import RowScript.Row.Json

/-!
Values by their parts. Whatever is said about a value and the values inside it, at any
depth, is proved for an array by its items and for a map by its entries. The document of a
value has the same parts, so it nests as deep as they do, and what comes back from it is the
value with the text of every timestamp in its place.
-/

namespace RowScript

namespace Json.Tree

mutual

/-- The number of arrays and objects around the innermost part of a document. -/
def levels : Tree → Nat
  | null | bool _ | int _ | float _ | text _ => 0
  | array items => itemLevels items + 1
  | object members => memberLevels members + 1

def itemLevels : List Tree → Nat
  | [] => 0
  | item :: items => max item.levels (itemLevels items)

def memberLevels : List (String × Tree) → Nat
  | [] => 0
  | (_, value) :: members => max value.levels (memberLevels members)

end

theorem itemLevels_le_iff {items : List Tree} {depth : Nat} :
    itemLevels items ≤ depth ↔ ∀ item ∈ items, item.levels ≤ depth := by
  induction items with
  | nil => simp [itemLevels]
  | cons item items ih => rw [itemLevels, Nat.max_le, ih, List.forall_mem_cons]

theorem memberLevels_le_iff {members : List (String × Tree)} {depth : Nat} :
    memberLevels members ≤ depth ↔ ∀ member ∈ members, member.2.levels ≤ depth := by
  induction members with
  | nil => simp [memberLevels]
  | cons member members ih => rw [memberLevels, Nat.max_le, ih, List.forall_mem_cons]

theorem exists_of_levels_array {items : List Tree} {depth : Nat}
    (h : (array items).levels ≤ depth) :
    ∃ inside, depth = inside + 1 ∧ ∀ item ∈ items, item.levels ≤ inside := by
  rw [levels] at h
  exact ⟨depth - 1, by omega, itemLevels_le_iff.mp (by omega)⟩

theorem exists_of_levels_object {members : List (String × Tree)} {depth : Nat}
    (h : (object members).levels ≤ depth) :
    ∃ inside, depth = inside + 1 ∧ ∀ member ∈ members, member.2.levels ≤ inside := by
  rw [levels] at h
  exact ⟨depth - 1, by omega, memberLevels_le_iff.mp (by omega)⟩

end Json.Tree

namespace Value

/-- A value that stands anywhere inside another one, or is that one. -/
inductive Part (part : Value) : Value → Prop where
  | whole : Part part part
  | item {item : Value} {items : List Value} (hmem : item ∈ items) (h : Part part item) :
      Part part (.array items)
  | entry {entry : String × Value} {entries : List (String × Value)} (hmem : entry ∈ entries)
      (h : Part part entry.2) : Part part (.map entries)

/-- Induction over the parts of a value. -/
@[elab_as_elim]
theorem nested {motive : Value → Prop} (null : motive .null) (bool : ∀ b, motive (.bool b))
    (int : ∀ n, motive (.int n)) (float : ∀ x, motive (.float x))
    (text : ∀ content, motive (.text content)) (timestamp : ∀ t, motive (.timestamp t))
    (array : ∀ items, (∀ item ∈ items, motive item) → motive (.array items))
    (map : ∀ entries, (∀ entry ∈ entries, motive entry.2) → motive (.map entries))
    (value : Value) : motive value :=
  @Value.rec motive (fun items => ∀ item ∈ items, motive item)
    (fun entries => ∀ entry ∈ entries, motive entry.2) (fun entry => motive entry.2)
    null bool int float text timestamp array map
    (List.forall_mem_nil _) (fun _ _ hitem hitems => List.forall_mem_cons.mpr ⟨hitem, hitems⟩)
    (List.forall_mem_nil _) (fun _ _ hentry hentries => List.forall_mem_cons.mpr ⟨hentry, hentries⟩)
    (fun _ _ h => h) value

/-- A value without doubles, whose maps are in the order of their keys. -/
structure Plain (value : Value) : Prop where
  floatless : ∀ x, ¬Part (.float x) value
  sorted : ∀ entries, Part (.map entries) value → Entries.Sorted entries

theorem plain_scalar_iff {value : Value} (h : value.toJson.levels = 0) :
    Plain value ↔ ∀ x, value ≠ .float x := by
  constructor
  · rintro hplain x rfl
    exact hplain.floatless x .whole
  · intro hne
    constructor
    case floatless =>
      intro x hpart
      cases hpart with
      | whole => exact hne x rfl
      | item | entry => simp [toJson, Json.Tree.levels] at h
    case sorted =>
      intro entries hpart
      cases hpart with
      | whole | item | entry => simp [toJson, Json.Tree.levels] at h

theorem plain_array_iff {items : List Value} :
    Plain (.array items) ↔ ∀ item ∈ items, Plain item := by
  constructor
  · intro h item hitem
    exact ⟨fun x hpart => h.floatless x (.item hitem hpart),
      fun _ hpart => h.sorted _ (.item hitem hpart)⟩
  · intro h
    constructor
    case floatless =>
      intro x hpart
      cases hpart with
      | item hitem hpart => exact (h _ hitem).floatless x hpart
    case sorted =>
      intro entries hpart
      cases hpart with
      | item hitem hpart => exact (h _ hitem).sorted entries hpart

theorem plain_map_iff {entries : List (String × Value)} :
    Plain (.map entries) ↔ Entries.Sorted entries ∧ ∀ entry ∈ entries, Plain entry.2 := by
  constructor
  · intro h
    refine ⟨h.sorted entries .whole, fun entry hentry => ?_⟩
    exact ⟨fun x hpart => h.floatless x (.entry hentry hpart),
      fun _ hpart => h.sorted _ (.entry hentry hpart)⟩
  · rintro ⟨hsorted, h⟩
    constructor
    case floatless =>
      intro x hpart
      cases hpart with
      | entry hentry hpart => exact (h _ hentry).floatless x hpart
    case sorted =>
      intro others hpart
      cases hpart with
      | whole => exact hsorted
      | entry hentry hpart => exact (h _ hentry).sorted others hpart

theorem itemsToJson_eq (items : List Value) : itemsToJson items = items.map toJson := by
  induction items with
  | nil => rfl
  | cons item items ih => rw [itemsToJson, ih, List.map_cons]

mutual

/-- The value that comes back from the JSON text of a value: every timestamp has become the
text that it was written as. -/
def asRead : Value → Value
  | timestamp t => text (Rfc3339.write t)
  | array items => array (itemsAsRead items)
  | map entries => map (entriesAsRead entries)
  | null => null
  | bool b => bool b
  | int n => int n
  | float x => float x
  | text content => text content

def itemsAsRead : List Value → List Value
  | [] => []
  | item :: items => item.asRead :: itemsAsRead items

def entriesAsRead : List (String × Value) → List (String × Value)
  | [] => []
  | (key, value) :: entries => (key, value.asRead) :: entriesAsRead entries

end

theorem asRead_array (items : List Value) : (array items).asRead = array (items.map asRead) := by
  have hitems : itemsAsRead items = items.map asRead := by
    induction items with
    | nil => rfl
    | cons item items ih => rw [itemsAsRead, ih, List.map_cons]
  rw [asRead, hitems]

/-- The entry that comes back from the JSON text of an entry. -/
def entryAsRead (entry : String × Value) : String × Value := (entry.1, entry.2.asRead)

theorem asRead_map (entries : List (String × Value)) :
    (map entries).asRead = map (entries.map entryAsRead) := by
  have hentries : entriesAsRead entries = entries.map entryAsRead := by
    induction entries with
    | nil => rfl
    | cons entry entries ih =>
        rw [entriesAsRead, ih, List.map_cons]
        rfl
  rw [asRead, hentries]

/-- What comes back has the same document. -/
theorem toJson_asRead (value : Value) : value.asRead.toJson = value.toJson := by
  induction value using nested with
  | null | bool b | int n | float x | text content | timestamp t => rfl
  | array items ih =>
      rw [asRead_array, toJson, toJson, itemsToJson_eq, itemsToJson_eq, List.map_map]
      exact congrArg Json.Tree.array (List.map_congr_left ih)
  | map entries ih =>
      rw [asRead_map, toJson, toJson, Record.entriesToJson_eq, Record.entriesToJson_eq,
        List.map_map]
      refine congrArg Json.Tree.object (List.map_congr_left fun entry hentry => ?_)
      exact congrArg (Prod.mk entry.1) (ih entry hentry)

theorem asRead_of_no_timestamp {value : Value} (h : ∀ t, ¬Part (.timestamp t) value) :
    value.asRead = value := by
  induction value using nested with
  | null | bool b | int n | float x | text content => rfl
  | timestamp t => exact absurd .whole (h t)
  | array items ih =>
      have hitems : items.map asRead = items.map id := List.map_congr_left fun item hitem =>
        ih item hitem fun t hpart => h t (.item hitem hpart)
      rw [asRead_array, hitems, List.map_id]
  | map entries ih =>
      have hentries : entries.map entryAsRead = entries.map id :=
        List.map_congr_left fun entry hentry =>
          congrArg (Prod.mk entry.1) (ih entry hentry fun t hpart => h t (.entry hentry hpart))
      rw [asRead_map, hentries, List.map_id]

end Value

namespace Row

/-- A value stands somewhere in a row. -/
def Holds (r : Row) (part : Value) : Prop := ∃ column ∈ r.columns, Value.Part part column.2

/-- A row of values without doubles, whose maps are in order. -/
def Plain (r : Row) : Prop := ∀ column ∈ r.columns, column.2.Plain

def asRead (r : Row) : Row where
  columns := r.columns.map Value.entryAsRead
  nodup := by
    have hnames : Columns.names (r.columns.map Value.entryAsRead) = Columns.names r.columns := by
      rw [Columns.names, List.map_map]
      rfl
    rw [hnames]
    exact r.nodup

theorem names_asRead (r : Row) : r.asRead.names = r.names := by
  rw [names, Columns.names, asRead, List.map_map]
  rfl

theorem toJson_asRead (r : Row) : r.asRead.toJson = r.toJson := by
  rw [toJson, toJson, asRead, Record.entriesToJson_eq, Record.entriesToJson_eq, List.map_map]
  refine congrArg Json.Tree.object (List.map_congr_left fun column _ => ?_)
  exact congrArg (Prod.mk column.1) column.2.toJson_asRead

theorem asRead_of_no_timestamp {r : Row} (h : ∀ t, ¬r.Holds (.timestamp t)) : r.asRead = r := by
  have hcolumns : r.columns.map Value.entryAsRead = r.columns.map id :=
    List.map_congr_left fun column hcolumn => congrArg (Prod.mk column.1)
      (Value.asRead_of_no_timestamp fun t hpart => h t ⟨column, hcolumn, hpart⟩)
  exact ext_columns (hcolumns.trans (List.map_id r.columns))

end Row

end RowScript
