import Mathlib.Data.List.Induction
import Mathlib.Data.List.InsertIdx
import Mathlib.Data.List.Nodup
import RowScript.Dictionary
import RowScript.Row.Transform

/-!
Rows seen as their columns. A row has no name twice, so a name stands for one place and one
value, and whatever is done to a column leaves those in front of it and behind it as they
are.
-/

namespace RowScript

theorem getElem?_eq_some_iff_split {α : Type} {xs : List α} {i : Nat} {x : α} :
    xs[i]? = some x ↔ ∃ front back, xs = front ++ x :: back ∧ front.length = i := by
  constructor
  · intro h
    obtain ⟨hi, rfl⟩ := List.getElem?_eq_some_iff.mp h
    exact ⟨xs.take i, xs.drop (i + 1), by simp, List.length_take_of_le (Nat.le_of_lt hi)⟩
  · rintro ⟨front, back, rfl, rfl⟩
    simp

namespace Columns

variable {name : String} {value : Value} {front back columns : List (String × Value)}

theorem set_split (h : name ∉ names front) (held : Value) :
    set name value (front ++ (name, held) :: back) = front ++ (name, value) :: back := by
  induction front with
  | nil => simp [set]
  | cons head front ih =>
      obtain ⟨hhead, hfront⟩ := not_or.mp (List.mem_cons.not.mp h)
      rw [List.cons_append, set, if_neg fun heq => hhead heq.symm, ih hfront, List.cons_append]

theorem set_of_not_mem (h : name ∉ names columns) :
    set name value columns = columns ++ [(name, value)] := by
  induction columns with
  | nil => rfl
  | cons head columns ih =>
      obtain ⟨hhead, hcolumns⟩ := not_or.mp (List.mem_cons.not.mp h)
      rw [set, if_neg fun heq => hhead heq.symm, ih hcolumns, List.cons_append]

theorem lookup_set (name other : String) (value : Value) (columns : List (String × Value)) :
    (set name value columns).lookup other =
      if other = name then some value else columns.lookup other := by
  induction columns with
  | nil => simp [set, Entries.lookup_cons]
  | cons head columns ih =>
      simp only [set]
      split
      · rename_i heq
        simp only [Entries.lookup_cons, heq]
        split <;> rfl
      · rename_i hne
        simp only [Entries.lookup_cons, ih]
        split
        · rename_i hhead
          rw [if_neg fun heq => hne (hhead.symm.trans heq)]
        · rfl

theorem rename_split (old : String) :
    rename front.length name (front ++ (old, value) :: back) =
      front ++ (name, value) :: back := by
  rw [rename]
  induction front with
  | nil => rfl
  | cons head front ih => simpa using ih

theorem eraseIdx_split (column : String × Value) :
    (front ++ column :: back).eraseIdx front.length = front ++ back := by
  rw [List.eraseIdx_append_of_length_le (Nat.le_refl _), Nat.sub_self, List.eraseIdx_cons_zero]

theorem mem_names_eraseIdx_iff {index : Nat} :
    name ∈ names (columns.eraseIdx index) ↔
      ∃ other ≠ index, (names columns)[other]? = some name := by
  rw [names, ← List.eraseIdx_map, List.mem_eraseIdx_iff_getElem?]
  rfl

end Columns

namespace Row

variable {r changed : Row} {name : String} {value : Value} {index : Nat}

theorem ext_columns {other : Row} (h : r.columns = other.columns) : r = other := by
  cases r
  cases other
  cases h
  rfl

/-- A row has no name twice, so the first column of a name is the only one. -/
theorem find?_eq_some_iff : r.find? name = some index ↔ r.names[index]? = some name := by
  rw [find?, List.findIdx?_eq_some_iff_getElem, names, Columns.names, List.getElem?_map,
    Option.map_eq_some_iff]
  constructor
  · rintro ⟨hindex, hname, -⟩
    exact ⟨_, List.getElem?_eq_getElem hindex, beq_iff_eq.mp hname⟩
  · rintro ⟨column, hcolumn, hname⟩
    obtain ⟨hindex, hcolumn⟩ := List.getElem?_eq_some_iff.mp hcolumn
    refine ⟨hindex, by rw [hcolumn, hname, beq_self_eq_true], fun earlier hearlier hsame => ?_⟩
    have hnodup := List.nodup_iff_getElem?_ne_getElem?.mp r.nodup earlier index hearlier
    simp only [Columns.names, List.length_map, List.getElem?_map] at hnodup
    refine hnodup hindex ?_
    rw [List.getElem?_eq_getElem hindex, List.getElem?_eq_getElem (Nat.lt_trans hearlier hindex),
      Option.map_some, Option.map_some, beq_iff_eq.mp hsame, hcolumn, hname]

theorem find?_eq_none_iff : r.find? name = none ↔ name ∉ r.names := by
  simp only [find?, List.findIdx?_eq_none_iff, names, Columns.names, List.mem_map,
    beq_eq_false_iff_ne, not_exists, not_and]

theorem value?_eq_some_iff : r.value? name = some value ↔ (name, value) ∈ r.columns :=
  Entries.lookup_eq_some_iff r.nodup

theorem isSome_value?_iff : (r.value? name).isSome ↔ name ∈ r.names := by
  simp only [Option.isSome_iff_exists, value?_eq_some_iff, names, Columns.names, List.mem_map,
    Prod.exists, exists_and_right, exists_eq_right]

/-- On neither side of a column is there another one of its name. -/
theorem not_mem_of_split {front back : List (String × Value)} {column : String × Value}
    (h : r.columns = front ++ column :: back) :
    column.1 ∉ Columns.names front ∧ column.1 ∉ Columns.names back := by
  have hnodup := r.nodup
  rw [h, Columns.names, List.map_append, List.map_cons, List.nodup_append] at hnodup
  obtain ⟨-, hback, hapart⟩ := hnodup
  exact ⟨fun hmem => hapart _ hmem _ List.mem_cons_self rfl, (List.nodup_cons.mp hback).1⟩

theorem find?_eq_some_iff_split : r.find? name = some index ↔ ∃ front value back,
    r.columns = front ++ (name, value) :: back ∧ front.length = index := by
  rw [find?_eq_some_iff, names, Columns.names, List.getElem?_map, Option.map_eq_some_iff]
  constructor
  · rintro ⟨⟨_, value⟩, hcolumn, rfl⟩
    obtain ⟨front, back, hsplit, hlength⟩ := getElem?_eq_some_iff_split.mp hcolumn
    exact ⟨front, value, back, hsplit, hlength⟩
  · rintro ⟨front, value, back, hsplit, hlength⟩
    exact ⟨_, getElem?_eq_some_iff_split.mpr ⟨front, back, hsplit, hlength⟩, rfl⟩

theorem columns_set_of_split {front back : List (String × Value)} {held : Value}
    (h : r.columns = front ++ (name, held) :: back) :
    (r.set name value).columns = front ++ (name, value) :: back := by
  have hset : (r.set name value).columns = Columns.set name value r.columns := rfl
  rw [hset, h]
  exact Columns.set_split (not_mem_of_split h).1 held

theorem columns_set_of_not_mem (h : name ∉ r.names) :
    (r.set name value).columns = r.columns ++ [(name, value)] :=
  Columns.set_of_not_mem h

/-- A row has a column of a name, or setting the column puts it last. -/
theorem columns_set_cases (r : Row) (name : String) (value : Value) :
    (∃ front held back, r.columns = front ++ (name, held) :: back ∧
        (r.set name value).columns = front ++ (name, value) :: back) ∨
      name ∉ r.names ∧ (r.set name value).columns = r.columns ++ [(name, value)] := by
  by_cases h : name ∈ r.names
  · obtain ⟨column, hcolumn, rfl⟩ := List.mem_map.mp h
    obtain ⟨front, back, hsplit⟩ := List.append_of_mem hcolumn
    exact .inl ⟨front, column.2, back, hsplit, columns_set_of_split hsplit⟩
  · exact .inr ⟨h, columns_set_of_not_mem h⟩

theorem names_set (r : Row) (name : String) (value : Value) :
    (r.set name value).names = if name ∈ r.names then r.names else r.names ++ [name] := by
  obtain ⟨front, held, back, hsplit, hset⟩ | ⟨habsent, hset⟩ := columns_set_cases r name value
  · have hmem : name ∈ r.names := by simp [names, Columns.names, hsplit]
    rw [if_pos hmem, names, names, hset, hsplit]
    simp [Columns.names]
  · rw [if_neg habsent, names, hset]
    simp [Columns.names, names]

theorem value?_set (r : Row) (name other : String) (value : Value) :
    (r.set name value).value? other = if other = name then some value else r.value? other :=
  Columns.lookup_set name other value r.columns

theorem columns_ofList {columns : List (String × Value)} (h : (Columns.names columns).Nodup) :
    (ofList columns).columns = columns := by
  induction columns using List.reverseRecOn with
  | nil => rfl
  | append_singleton columns column ih =>
      rw [Columns.names, List.map_append, List.nodup_append] at h
      obtain ⟨hcolumns, -, hapart⟩ := h
      have hfront := ih hcolumns
      have habsent : column.1 ∉ (ofList columns).names := by
        rw [names, hfront]
        exact fun hmem => hapart _ hmem _ List.mem_cons_self rfl
      rw [ofList, List.foldl_append, ← ofList]
      exact (columns_set_of_not_mem habsent).trans (congrArg (· ++ [column]) hfront)

theorem modify_eq_true_iff :
    r.modify name value = (true, changed) ↔ ∃ front held back,
      r.columns = front ++ (name, held) :: back ∧
        changed.columns = front ++ (name, value) :: back := by
  have hmodify : r.modify name value = (true, changed) ↔
      name ∈ r.names ∧ r.set name value = changed := by
    rw [modify, ← isSome_value?_iff]
    split <;> simp [*]
  rw [hmodify]
  constructor
  · rintro ⟨hmem, rfl⟩
    obtain ⟨column, hcolumn, rfl⟩ := List.mem_map.mp hmem
    obtain ⟨front, back, hsplit⟩ := List.append_of_mem hcolumn
    exact ⟨front, column.2, back, hsplit, columns_set_of_split hsplit⟩
  · rintro ⟨front, held, back, hsplit, hchanged⟩
    refine ⟨by simp [names, Columns.names, hsplit], ext_columns ?_⟩
    rw [columns_set_of_split hsplit, hchanged]

theorem modify_eq_false_iff :
    r.modify name value = (false, changed) ↔ name ∉ r.names ∧ changed = r := by
  rw [modify, ← isSome_value?_iff]
  split <;> simp [*, eq_comm]

theorem rename_eq_true_iff :
    r.rename index name = (true, changed) ↔ ∃ front old value back,
      r.columns = front ++ (old, value) :: back ∧ front.length = index ∧
        name ∉ Columns.names front ∧ name ∉ Columns.names back ∧
          changed.columns = front ++ (name, value) :: back := by
  have happart {front back : List (String × Value)} {column : String × Value} :
      name ∉ Columns.names ((front ++ column :: back).eraseIdx front.length) ↔
        name ∉ Columns.names front ∧ name ∉ Columns.names back := by
    simp [Columns.eraseIdx_split, Columns.names]
  constructor
  · intro h
    rw [rename] at h
    split at h
    · rename_i hfree
      obtain ⟨hindex, herased⟩ := hfree
      obtain ⟨column, hcolumn⟩ : ∃ column, r.columns[index]? = some column :=
        ⟨_, List.getElem?_eq_getElem hindex⟩
      obtain ⟨front, back, hsplit, rfl⟩ := getElem?_eq_some_iff_split.mp hcolumn
      rw [hsplit, happart] at herased
      cases h
      refine ⟨front, column.1, column.2, back, hsplit, rfl, herased.1, herased.2, ?_⟩
      change Columns.rename front.length name r.columns = _
      rw [hsplit]
      exact Columns.rename_split column.1
    · cases h
  · rintro ⟨front, old, value, back, hsplit, rfl, hfront, hback, hchanged⟩
    have hfree : front.length < r.width ∧
        name ∉ Columns.names (r.columns.eraseIdx front.length) := by
      rw [hsplit, happart, width, hsplit]
      exact ⟨by simp, hfront, hback⟩
    rw [rename, dif_pos hfree]
    refine congrArg (true, ·) (ext_columns ?_)
    change Columns.rename front.length name r.columns = _
    rw [hsplit, Columns.rename_split old, hchanged]

theorem fst_rename_iff :
    (r.rename index name).1 = true ↔
      index < r.width ∧ ∀ other ≠ index, r.names[other]? ≠ some name := by
  rw [rename]
  split <;> rename_i h
  all_goals
    rw [Columns.mem_names_eraseIdx_iff] at h
    simpa [names] using h

theorem eq_of_rename_eq_false (h : r.rename index name = (false, changed)) : changed = r := by
  rw [rename] at h
  split at h
  · cases h
  · exact (Prod.mk.inj h).2.symm

theorem renameColumn?_of_find? {source : String} (h : r.find? source = some index)
    (target : String) :
    r.renameColumn? source target =
      if (r.rename index target).1 then some (r.rename index target).2 else none := by
  rw [renameColumn?, h]

theorem remove_eq_some_iff {column : String × Value} :
    r.remove index = (some column, changed) ↔ ∃ front back,
      r.columns = front ++ column :: back ∧ front.length = index ∧
        changed.columns = front ++ back := by
  have herase {front back : List (String × Value)} (hsplit : r.columns = front ++ column :: back) :
      (r.eraseAt front.length).columns = front ++ back := by
    change r.columns.eraseIdx front.length = _
    rw [hsplit, Columns.eraseIdx_split]
  have hremove : r.remove index = (some column, changed) ↔
      r.columns[index]? = some column ∧ r.eraseAt index = changed := by
    rw [remove]
    cases r.columns[index]? <;> simp
  rw [hremove]
  constructor
  · rintro ⟨hcolumn, rfl⟩
    obtain ⟨front, back, hsplit, rfl⟩ := getElem?_eq_some_iff_split.mp hcolumn
    exact ⟨front, back, hsplit, rfl, herase hsplit⟩
  · rintro ⟨front, back, hsplit, rfl, hchanged⟩
    refine ⟨getElem?_eq_some_iff_split.mpr ⟨front, back, hsplit, rfl⟩, ?_⟩
    rw [ext_columns ((herase hsplit).trans hchanged.symm)]

theorem remove_eq_none_iff :
    r.remove index = (none, changed) ↔ r.width ≤ index ∧ changed = r := by
  rw [remove, width, ← List.getElem?_eq_none_iff]
  cases r.columns[index]? <;> simp [eq_comm]

end Row

end RowScript
