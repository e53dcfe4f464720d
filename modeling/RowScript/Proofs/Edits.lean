import RowScript.Proofs.Columns
import RowScript.Proofs.RowLocality

/-!
What a directive does to a row, as an edit: it says of each column what becomes of it, without
a look at the others, and which columns come behind them. An edit is drawn up from what the row
has under the names that the directive mentions, and it touches columns of these names only.
-/

namespace RowScript

structure Edit where
  /-- What becomes of a column that is there, if it stays. -/
  turn : String × Value → Option (String × Value)
  /-- The columns that come behind. -/
  added : List (String × Value)

namespace Edit

def apply (e : Edit) (columns : List (String × Value)) : List (String × Value) :=
  columns.filterMap e.turn ++ e.added

/-- Change the column of a name, and add columns. -/
def change (name : String) (f : String × Value → String × Value)
    (added : List (String × Value)) : Edit :=
  ⟨fun column => some (if column.1 = name then f column else column), added⟩

def leaveOut (names : List String) : Edit :=
  ⟨fun column => if column.1 ∈ names then none else some column, []⟩

def nothing : Edit := ⟨some, []⟩

theorem apply_leaveOut (names : List String) (columns : List (String × Value)) :
    (leaveOut names).apply columns = columns.filter (·.1 ∉ names) := by
  have hguard : (leaveOut names).turn = Option.guard (·.1 ∉ names) := by
    funext column
    by_cases h : column.1 ∈ names <;> simp [leaveOut, Option.guard, h]
  rw [apply, hguard, List.filterMap_eq_filter]
  exact List.append_nil _

theorem apply_nothing (columns : List (String × Value)) : nothing.apply columns = columns := by
  rw [apply, nothing, List.filterMap_some, List.append_nil]

section

variable {name : String} {f : String × Value → String × Value}
  {front back columns added : List (String × Value)}

theorem turn_change_of_ne {column : String × Value} (h : column.1 ≠ name) :
    (change name f added).turn column = some column :=
  congrArg some (if_neg h)

theorem filterMap_change (h : name ∉ Columns.names columns) :
    columns.filterMap (change name f added).turn = columns := by
  have hsame : columns.filterMap (change name f added).turn = columns.filterMap some := by
    refine List.filterMap_congr fun column hcolumn => ?_
    exact turn_change_of_ne fun heq => h (heq ▸ List.mem_map_of_mem hcolumn)
  rw [hsame, List.filterMap_some]

theorem apply_change_of_not_mem (h : name ∉ Columns.names columns) :
    (change name f added).apply columns = columns ++ added := by
  rw [apply, filterMap_change h]
  rfl

theorem apply_change_of_split {value : Value} (hfront : name ∉ Columns.names front)
    (hback : name ∉ Columns.names back) :
    (change name f added).apply (front ++ (name, value) :: back) =
      front ++ f (name, value) :: back ++ added := by
  have hturn : (change name f added).turn (name, value) = some (f (name, value)) := by
    simp [change]
  rw [apply, List.filterMap_append, List.filterMap_cons_some hturn,
    filterMap_change hfront, filterMap_change hback]
  rfl

end

/-- The edit touches and leaves behind columns of the names only. -/
structure Within (e : Edit) (names : List String) : Prop where
  outside : ∀ column, column.1 ∉ names → e.turn column = some column
  inside : ∀ column turned, column.1 ∈ names → e.turn column = some turned → turned.1 ∈ names
  added : ∀ column ∈ e.added, column.1 ∈ names

theorem within_nothing (names : List String) : nothing.Within names where
  outside := fun _ _ => rfl
  inside := fun _ _ h hturned => Option.some.inj hturned ▸ h
  added := List.forall_mem_nil _

theorem within_leaveOut {left names : List String} (h : left ⊆ names) :
    (leaveOut left).Within names where
  outside := fun _ hname => if_neg fun hleft => hname (h hleft)
  inside := by
    intro column turned hname hturned
    rw [leaveOut, Option.ite_none_left_eq_some] at hturned
    exact Option.some.inj hturned.2 ▸ hname
  added := List.forall_mem_nil _

theorem within_change {name : String} {f : String × Value → String × Value}
    {names : List String} {added : List (String × Value)} (hname : name ∈ names)
    (hf : ∀ column, (f column).1 ∈ names) (hadded : ∀ column ∈ added, column.1 ∈ names) :
    (change name f added).Within names where
  outside := fun _ h => turn_change_of_ne fun heq => h (heq ▸ hname)
  inside := by
    rintro column turned h ⟨⟩
    split
    · exact hf column
    · exact h
  added := hadded

variable {e other : Edit} {names others : List String}

/-- Columns of other names are there exactly if they were there before. -/
theorem Within.mem_apply_iff (h : e.Within names) {columns : List (String × Value)}
    {column : String × Value} (hcolumn : column.1 ∉ names) :
    column ∈ e.apply columns ↔ column ∈ columns := by
  rw [apply, List.mem_append, List.mem_filterMap]
  constructor
  · rintro (⟨source, hsource, hturned⟩ | hadded)
    · by_cases hname : source.1 ∈ names
      · exact absurd (h.inside source column hname hturned) hcolumn
      · rw [h.outside source hname] at hturned
        exact Option.some.inj hturned ▸ hsource
    · exact absurd (h.added column hadded) hcolumn
  · intro hmem
    exact .inl ⟨column, hmem, h.outside column hcolumn⟩

/-- Two edits of different columns turn a column alike in either order. -/
theorem Within.turn_comm (h : e.Within names) (ho : other.Within others)
    (hapart : names.Disjoint others) (column : String × Value) :
    (e.turn column).bind other.turn = (other.turn column).bind e.turn := by
  have hfixed {e other : Edit} {names others : List String} (h : e.Within names)
      (ho : other.Within others) (hapart : names.Disjoint others) (hname : column.1 ∈ names) :
      (e.turn column).bind other.turn = (other.turn column).bind e.turn := by
    rw [ho.outside column (hapart hname), Option.bind_some]
    cases hturned : e.turn column with
    | none => rfl
    | some turned => exact ho.outside turned (hapart (h.inside column turned hname hturned))
  by_cases hname : column.1 ∈ names
  · exact hfixed h ho hapart hname
  · by_cases hother : column.1 ∈ others
    · exact (hfixed ho h (fun _ hothers hnames => hapart hnames hothers) hother).symm
    · rw [h.outside column hname, ho.outside column hother, Option.bind_some, Option.bind_some,
        h.outside column hname, ho.outside column hother]

/-- An edit of other columns leaves those that were added. -/
theorem Within.apply_apply (h : e.Within names) (ho : other.Within others)
    (hapart : names.Disjoint others) (columns : List (String × Value)) :
    other.apply (e.apply columns) =
      columns.filterMap (fun column => (e.turn column).bind other.turn) ++
        (e.added ++ other.added) := by
  have hkeeps : e.added.filterMap other.turn = e.added := by
    have hsame := List.filterMap_congr fun column hcolumn =>
      ho.outside column (hapart (h.added column hcolumn))
    rw [hsame, List.filterMap_some]
  rw [apply, apply, List.filterMap_append, List.filterMap_filterMap, hkeeps, List.append_assoc]

end Edit

namespace Row

variable {row done : Row}

/-- The edit that sets a column. -/
def setting (row : Row) (name : String) (value : Value) : Edit :=
  .change name (fun _ => (name, value)) (if (row.value? name).isSome then [] else [(name, value)])

theorem columns_set (row : Row) (name : String) (value : Value) :
    (row.set name value).columns = (row.setting name value).apply row.columns := by
  obtain ⟨front, held, back, hsplit, hset⟩ | ⟨habsent, hset⟩ := columns_set_cases row name value
  · obtain ⟨hfront, hback⟩ := not_mem_of_split hsplit
    have hpresent : (row.value? name).isSome := by
      rw [isSome_value?_iff, names, hsplit]
      simp [Columns.names]
    rw [hset, setting, if_pos hpresent, hsplit, Edit.apply_change_of_split hfront hback,
      List.append_nil]
  · rw [hset, setting, if_neg (mt isSome_value?_iff.mp habsent),
      Edit.apply_change_of_not_mem habsent]

theorem setting_congr {name : String} (value : Value) {other : Row}
    (h : row.value? name = other.value? name) :
    row.setting name value = other.setting name value := by
  rw [setting, h, setting]

theorem added_setting {name : String} {value : Value} {column : String × Value}
    (h : column ∈ (row.setting name value).added) : column.1 = name ∧ name ∉ row.names := by
  change column ∈ (if (row.value? name).isSome then [] else [(name, value)]) at h
  split at h
  · cases h
  · rename_i habsent
    rw [List.mem_singleton.mp h]
    exact ⟨rfl, mt isSome_value?_iff.mpr habsent⟩

/-- The edit that renames a column. -/
def relabeling (source target : String) : Edit :=
  .change source (fun column => (target, column.2)) []

theorem renameColumn?_eq_some_iff {source target : String} :
    row.renameColumn? source target = some done ↔
      (source ∈ row.names → source ≠ target → target ∉ row.names) ∧
        done.columns = (relabeling source target).apply row.columns := by
  cases hfind : row.find? source with
  | none =>
      have habsent := find?_eq_none_iff.mp hfind
      rw [renameColumn?, hfind, relabeling, Edit.apply_change_of_not_mem habsent, List.append_nil,
        Option.some.injEq]
      constructor
      · rintro rfl
        exact ⟨fun h => absurd h habsent, rfl⟩
      · rintro ⟨-, hsame⟩
        exact ext_columns hsame.symm
  | some index =>
      obtain ⟨front, value, back, hsplit, rfl⟩ := find?_eq_some_iff_split.mp hfind
      obtain ⟨hfront, hback⟩ := not_mem_of_split hsplit
      have hfree : (source ∈ row.names → source ≠ target → target ∉ row.names) ↔
          target ∉ Columns.names front ∧ target ∉ Columns.names back := by
        by_cases heq : source = target
        · subst heq
          simp [hfront, hback]
        · simp [heq, names, hsplit, Columns.names, Ne.symm heq]
      rw [hfree, relabeling, hsplit, Edit.apply_change_of_split hfront hback, List.append_nil,
        renameColumn?_of_find? hfind, Option.ite_none_right_eq_some, Option.some_inj,
        ← @Prod.mk.injEq _ _ _ _ true done, rename_eq_true_iff]
      constructor
      · rintro ⟨front', old, held, back', hsplit', hlength, hfront', hback', hdone⟩
        rw [hsplit] at hsplit'
        obtain ⟨rfl, hrest⟩ := List.append_inj hsplit' hlength.symm
        cases hrest
        exact ⟨⟨hfront', hback'⟩, hdone⟩
      · rintro ⟨⟨hfront', hback'⟩, hdone⟩
        exact ⟨front, source, value, back, hsplit, rfl, hfront', hback', hdone⟩

theorem isSome_renameColumn? {source target : String}
    (h : source ∈ row.names → source ≠ target → target ∉ row.names) :
    (row.renameColumn? source target).isSome := by
  cases hfind : row.find? source with
  | none =>
      rw [renameColumn?, hfind]
      rfl
  | some index =>
      have hsource := find?_eq_some_iff.mp hfind
      obtain ⟨hindex, -⟩ := List.getElem?_eq_some_iff.mp hsource
      rw [renameColumn?_of_find? hfind, Option.isSome_ite, fst_rename_iff]
      refine ⟨by rwa [names, Columns.names, List.length_map] at hindex, ?_⟩
      intro place hplace htarget
      by_cases hsame : source = target
      · have heq := hsource.trans (hsame ▸ htarget.symm)
        exact hplace ((List.getElem?_inj hindex row.nodup).mp heq).symm
      · exact h (List.mem_of_getElem? hsource) hsame (List.mem_of_getElem? htarget)

end Row

namespace BuiltIn

/-- The columns that a directive reads, writes or leaves out. -/
def mentions : BuiltIn → List String
  | getDate source destination _ => [source, destination]
  | parseAsDate column => [column]
  | rename source target => [source, target]
  | drop columns => columns
  | fill column _ => [column]

/-- The columns that the directive sets, renames or leaves out. -/
def touches : BuiltIn → List String
  | getDate _ destination _ => [destination]
  | parseAsDate column => [column]
  | rename source _ => [source]
  | drop columns => columns
  | fill column _ => [column]

theorem touches_subset_mentions (d : BuiltIn) : d.touches ⊆ d.mentions := by
  cases d <;> simp [touches, mentions]

/-- What the directive does to the row, where it can go on. -/
def edit (d : BuiltIn) (row : Row) : Edit :=
  match d with
  | getDate source destination field =>
    match row.value? source with
    | some (.timestamp t) => row.setting destination (.int (Int64.ofInt (field.of t)))
    | _ => .nothing
  | parseAsDate column =>
    match row.value? column with
    | some (.text content) =>
      match Rfc3339.read? (Text.trim content.toList) with
      | some t => row.setting column (.timestamp t)
      | none => .nothing
    | _ => .nothing
  | rename source target => Row.relabeling source target
  | drop columns => .leaveOut columns
  | fill column content =>
    if row.isBlankAt column then row.setting column (.text content) else .nothing

/-- The directive gives no column the name of another one that is there. -/
def Clear (d : BuiltIn) (row : Row) : Prop :=
  match d with
  | rename source target => source ∈ row.names → source ≠ target → target ∉ row.names
  | _ => True

variable {d : BuiltIn} {row other done : Row}

theorem ok_iff_of_columns {made : Row} (hmade : d.transform row = .ok made) (hclear : d.Clear row)
    (hcolumns : made.columns = (d.edit row).apply row.columns) :
    d.transform row = .ok done ↔ d.Clear row ∧ done.columns = (d.edit row).apply row.columns := by
  rw [hmade, Except.ok.injEq, ← hcolumns]
  constructor
  · rintro rfl
    exact ⟨hclear, rfl⟩
  · rintro ⟨-, hsame⟩
    exact Row.ext_columns hsame.symm

theorem transform_eq_ok_iff :
    d.transform row = .ok done ↔ d.Clear row ∧ done.columns = (d.edit row).apply row.columns := by
  have hstays : row.columns = Edit.nothing.apply row.columns := (Edit.apply_nothing _).symm
  cases d with
  | getDate source destination field =>
      refine ok_iff_of_columns rfl trivial ?_
      rw [edit, Row.extractField]
      cases row.value? source with
      | none => exact hstays
      | some value =>
          cases value with
          | timestamp t => exact Row.columns_set ..
          | _ => exact hstays
  | parseAsDate column =>
      refine ok_iff_of_columns rfl trivial ?_
      rw [edit, Row.parseTimestamp]
      cases row.value? column with
      | none => exact hstays
      | some value =>
          cases value with
          | text content =>
              dsimp only
              cases Rfc3339.read? (Text.trim content.toList) with
              | none => exact hstays
              | some t => exact Row.columns_set ..
          | _ => exact hstays
  | rename source target =>
      have hrename := @Row.renameColumn?_eq_some_iff row done source target
      rw [Clear, edit, ← hrename, transform]
      cases row.renameColumn? source target with
      | none => simp
      | some renamed => simp
  | drop columns =>
      exact ok_iff_of_columns rfl trivial (Edit.apply_leaveOut columns row.columns).symm
  | fill column content =>
      refine ok_iff_of_columns rfl trivial ?_
      rw [edit, Row.fillBlank]
      split
      · exact Row.columns_set ..
      · exact hstays

theorem exists_transform_iff : (∃ done, d.transform row = .ok done) ↔ d.Clear row := by
  refine ⟨fun ⟨_, h⟩ => (transform_eq_ok_iff.mp h).1, fun hclear => ?_⟩
  cases d with
  | rename source target =>
      obtain ⟨renamed, hrenamed⟩ := Option.isSome_iff_exists.mp (Row.isSome_renameColumn? hclear)
      exact ⟨renamed, by rw [transform, hrenamed]⟩
  | _ => exact ⟨_, rfl⟩

/-- A directive leaves columns out, renames one or sets one, of those that it touches. -/
theorem edit_cases (d : BuiltIn) (row : Row) :
    d.edit row = .nothing ∨ d.edit row = .leaveOut d.touches ∨
      (∃ source ∈ d.touches, ∃ target ∈ d.mentions, d.edit row = Row.relabeling source target) ∨
        ∃ name ∈ d.touches, ∃ value, d.edit row = row.setting name value := by
  cases d with
  | getDate source destination field =>
      rw [edit]
      split
      · exact .inr (.inr (.inr ⟨destination, List.mem_singleton_self _, _, rfl⟩))
      · exact .inl rfl
  | parseAsDate column =>
      rw [edit]
      split
      · split
        · exact .inr (.inr (.inr ⟨column, List.mem_singleton_self _, _, rfl⟩))
        · exact .inl rfl
      · exact .inl rfl
  | rename source target =>
      exact .inr (.inr (.inl ⟨source, List.mem_singleton_self _, target, by simp [mentions], rfl⟩))
  | drop columns => exact .inr (.inl rfl)
  | fill column content =>
      rw [edit]
      split
      · exact .inr (.inr (.inr ⟨column, List.mem_singleton_self _, _, rfl⟩))
      · exact .inl rfl

/-- A directive changes none but the columns that it mentions. -/
theorem edit_within (d : BuiltIn) (row : Row) : (d.edit row).Within d.mentions := by
  obtain hedit | hedit | ⟨source, hsource, target, htarget, hedit⟩ | ⟨name, hname, value, hedit⟩ :=
    edit_cases d row
  · exact hedit ▸ Edit.within_nothing _
  · exact hedit ▸ Edit.within_leaveOut d.touches_subset_mentions
  · have hmentioned := d.touches_subset_mentions hsource
    exact hedit ▸ Edit.within_change hmentioned (fun _ => htarget) (List.forall_mem_nil _)
  · have hmentioned := d.touches_subset_mentions hname
    refine hedit ▸ Edit.within_change hmentioned (fun _ => hmentioned) fun column hadded => ?_
    exact (Row.added_setting hadded).1 ▸ hmentioned

/-- What a directive adds, the row does not have. -/
theorem added_edit {column : String × Value} (h : column ∈ (d.edit row).added) :
    column.1 ∉ row.names := by
  obtain hedit | hedit | ⟨source, -, target, -, hedit⟩ | ⟨name, -, value, hedit⟩ :=
    edit_cases d row <;> rw [hedit] at h
  · cases h
  · cases h
  · cases h
  · obtain ⟨hname, hfree⟩ := Row.added_setting h
    exact hname ▸ hfree

/-- A directive looks at the columns that it mentions. -/
theorem edit_congr (h : ∀ name ∈ d.mentions, row.value? name = other.value? name) :
    d.edit row = d.edit other := by
  cases d with
  | getDate source destination field =>
      have hset value := Row.setting_congr value (h destination (by simp [mentions]))
      simp only [edit, h source (by simp [mentions]), hset]
  | parseAsDate column =>
      have hset value := Row.setting_congr value (h column (by simp [mentions]))
      simp only [edit, h column (by simp [mentions]), hset]
  | rename source target => rfl
  | drop columns => rfl
  | fill column content =>
      have hset value := Row.setting_congr value (h column (by simp [mentions]))
      have hblank : row.isBlankAt column = other.isBlankAt column := by
        rw [Row.isBlankAt, h column (by simp [mentions]), Row.isBlankAt]
      rw [edit, edit, hblank, hset]

theorem clear_congr (h : ∀ name ∈ d.mentions, row.value? name = other.value? name) :
    d.Clear row ↔ d.Clear other := by
  cases d with
  | rename source target =>
      rw [Clear, Clear, ← Row.isSome_value?_iff, ← Row.isSome_value?_iff,
        ← Row.isSome_value?_iff, ← Row.isSome_value?_iff, h source (by simp [mentions]),
        h target (by simp [mentions])]
  | _ => exact Iff.rfl

end BuiltIn

end RowScript
