import RowScript.Value.Basic

/-!
Rows: named values in the order of their columns, every name once. The names of
a row keep apart under every operation, so a name stands for one place and one
value.
-/

namespace RowScript

namespace Columns

/-- The columns with the value of one put in its place, or the column put last if
there is none of that name. -/
def set (name : String) (value : Value) : List (String × Value) → List (String × Value)
  | [] => [(name, value)]
  | (other, held) :: rest =>
    if other = name then (other, value) :: rest else (other, held) :: set name value rest

def names (columns : List (String × Value)) : List String :=
  columns.map Prod.fst

theorem mem_names_set {name other : String} {value : Value} {columns : List (String × Value)} :
    other ∈ names (set name value columns) ↔ other = name ∨ other ∈ names columns := by
  induction columns with
  | nil => simp [set, names]
  | cons head rest ih =>
    simp only [set, names, List.map_cons, List.mem_cons] at ih ⊢
    split
    · rename_i h
      simp only [List.map_cons, List.mem_cons]
      constructor
      · exact .inr
      · rintro (rfl | h')
        · exact .inl h.symm
        · exact h'
    · simp only [List.map_cons, List.mem_cons, ih]
      constructor
      · rintro (h | h | h)
        · exact .inr (.inl h)
        · exact .inl h
        · exact .inr (.inr h)
      · rintro (h | h | h)
        · exact .inr (.inl h)
        · exact .inl h
        · exact .inr (.inr h)

theorem nodup_set {name : String} {value : Value} {columns : List (String × Value)}
    (h : (names columns).Nodup) : (names (set name value columns)).Nodup := by
  induction columns with
  | nil => simp [set, names]
  | cons head rest ih =>
    obtain ⟨hhead, hrest⟩ := List.nodup_cons.mp h
    simp only [set]
    split
    · exact h
    · rename_i hne
      refine List.nodup_cons.mpr ⟨fun hmem => ?_, ih hrest⟩
      rcases mem_names_set.mp hmem with heq | hmem
      · exact hne heq
      · exact hhead hmem

/-- The columns with another name for the one at a place. -/
def rename (index : Nat) (name : String) (columns : List (String × Value)) :
    List (String × Value) :=
  columns.modify index fun (_, value) => (name, value)

theorem mem_names_rename {index : Nat} {name other : String} {columns : List (String × Value)}
    (h : other ∈ names (rename index name columns)) : other = name ∨ other ∈ names columns := by
  induction columns generalizing index with
  | nil => simp [rename, names] at h
  | cons head rest ih =>
    cases index with
    | zero =>
      rcases List.mem_cons.mp h with h | h
      · exact .inl h
      · exact .inr (List.mem_cons_of_mem _ h)
    | succ index =>
      rcases List.mem_cons.mp h with h | h
      · exact .inr (h ▸ List.mem_cons_self)
      · exact (ih h).imp id (List.mem_cons_of_mem _)

theorem nodup_rename {index : Nat} {name : String} {columns : List (String × Value)}
    (hname : name ∉ names (columns.eraseIdx index)) (h : (names columns).Nodup) :
    (names (rename index name columns)).Nodup := by
  induction columns generalizing index with
  | nil => simp [rename, names]
  | cons head rest ih =>
    obtain ⟨hhead, hrest⟩ := List.nodup_cons.mp h
    cases index with
    | zero => exact List.nodup_cons.mpr ⟨hname, hrest⟩
    | succ index =>
      obtain ⟨hne, hname⟩ := not_or.mp fun h => hname (List.mem_cons.mpr h)
      refine List.nodup_cons.mpr ⟨fun hmem => ?_, ih hname hrest⟩
      rcases mem_names_rename hmem with heq | hmem
      · exact hne heq.symm
      · exact hhead hmem

end Columns

structure Row where
  columns : List (String × Value)
  nodup : (Columns.names columns).Nodup

namespace Row

def empty : Row := ⟨[], .nil⟩

instance : Inhabited Row := ⟨empty⟩

def names (r : Row) : List String := Columns.names r.columns

def width (r : Row) : Nat := r.columns.length

def isEmpty (r : Row) : Bool := r.columns.isEmpty

/-- The place of a column. -/
def find? (r : Row) (name : String) : Option Nat :=
  r.columns.findIdx? (·.1 == name)

def value? (r : Row) (name : String) : Option Value :=
  r.columns.lookup name

/-- The row with a column set to a value, in its place if the row has the column,
otherwise last. -/
def set (r : Row) (name : String) (value : Value) : Row :=
  ⟨Columns.set name value r.columns, Columns.nodup_set r.nodup⟩

/-- Put a value into a column that the row has. Whether it has the column is told beside the row,
and without it the row stays as it is. -/
def modify (r : Row) (name : String) (value : Value) : Bool × Row :=
  if (r.value? name).isSome then (true, r.set name value) else (false, r)

/-- The columns of a list, one after the other; of two with one name the later
value counts, in the place of the first. -/
def ofList (columns : List (String × Value)) : Row :=
  columns.foldl (fun r (name, value) => r.set name value) empty

/-- The row without the column at a place. -/
def eraseAt (r : Row) (index : Nat) : Row :=
  ⟨r.columns.eraseIdx index,
    List.Nodup.sublist ((List.eraseIdx_sublist r.columns index).map Prod.fst) r.nodup⟩

/-- The column at a place, if there is one, and the row without it. -/
def remove (r : Row) (index : Nat) : Option (String × Value) × Row :=
  match r.columns[index]? with
  | some column => (some column, r.eraseAt index)
  | none => (none, r)

/-- Give the column at a place another name. Beside the row it is told whether this was done: if
there is no such column, or another one has the name, the row stays as it is. -/
def rename (r : Row) (index : Nat) (name : String) : Bool × Row :=
  if h : index < r.width ∧ name ∉ Columns.names (r.columns.eraseIdx index) then
    (true, ⟨Columns.rename index name r.columns, Columns.nodup_rename h.2 r.nodup⟩)
  else (false, r)

end Row

end RowScript
