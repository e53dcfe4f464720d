import RowScript.Proofs.Edits
import RowScript.Proofs.TimestampParts
import RowScript.Proofs.TimestampRoundTrip

/-!
What a directive leaves as it is. It goes over a batch row by row and keeps their order. A row
that does not have what the directive asks for stays the same row, and any other row keeps all
columns but those that the directive sets, renames or leaves out, with their values and in their
order.
-/

namespace RowScript

theorem Rfc3339.read?_trim_eq_some_iff {content : String} {t : Instant} :
    read? (Text.trim content.toList) = some t ↔ Spells content t :=
  readAs_iff.symm.trans readAs_some_iff

namespace Edit

/-- The columns that an edit turns into themselves stay in their order. -/
theorem sublist_apply {e : Edit} {names : List String}
    (h : ∀ column, column.1 ∉ names → e.turn column = some column)
    (columns : List (String × Value)) :
    (columns.filter (·.1 ∉ names)).Sublist (e.apply columns) := by
  have hturn : (columns.filter (·.1 ∉ names)).filterMap e.turn =
      (columns.filter (·.1 ∉ names)).filterMap some := by
    refine List.filterMap_congr fun column hcolumn => h column ?_
    exact of_decide_eq_true (List.mem_filter.mp hcolumn).2
  have hkept : ((columns.filter (·.1 ∉ names)).filterMap e.turn).Sublist
      (columns.filterMap e.turn) := List.filter_sublist.filterMap e.turn
  rw [hturn, List.filterMap_some] at hkept
  exact hkept.trans (List.sublist_append_left _ _)

end Edit

namespace Row

theorem apply_relabeling (source target : String) (columns : List (String × Value)) :
    (relabeling source target).apply columns =
      columns.map fun column => if column.1 = source then (target, column.2) else column := by
  rw [Edit.apply, relabeling, Edit.change, List.append_nil, ← List.filterMap_eq_map]
  rfl

/-- The row without the column of a name, if there is one. -/
def without (r : Row) (name : String) : Row :=
  match r.find? name with
  | some index => r.eraseAt index
  | none => r

/-- A row has no name twice, so one column is all there is to leave out. -/
theorem columns_without (r : Row) (name : String) :
    (r.without name).columns = r.columns.filter (·.1 ∉ [name]) := by
  have hothers {columns : List (String × Value)} (h : name ∉ Columns.names columns) :
      columns.filter (·.1 ∉ [name]) = columns := by
    refine List.filter_eq_self.mpr fun column hcolumn => decide_eq_true fun hmem => h ?_
    exact List.mem_singleton.mp hmem ▸ List.mem_map_of_mem hcolumn
  rw [without]
  cases hfind : r.find? name with
  | none => exact (hothers (find?_eq_none_iff.mp hfind)).symm
  | some index =>
      obtain ⟨front, value, back, hsplit, rfl⟩ := find?_eq_some_iff_split.mp hfind
      obtain ⟨hfront, hback⟩ := not_mem_of_split hsplit
      change r.columns.eraseIdx front.length = _
      rw [hsplit, Columns.eraseIdx_split, List.filter_append, List.filter_cons_of_neg (by simp),
        hothers hfront, hothers hback]

/-- Columns are left out one after the other, however often one of them is listed. -/
theorem foldl_without (names : List String) (r : Row) :
    names.foldl without r = r.dropColumns names := by
  induction names generalizing r with
  | nil =>
      refine ext_columns (List.filter_eq_self.mpr fun column _ => ?_).symm
      exact decide_eq_true List.not_mem_nil
  | cons name names ih =>
      rw [List.foldl_cons, ih]
      apply ext_columns
      change (r.without name).columns.filter (·.1 ∉ names) = r.columns.filter (·.1 ∉ name :: names)
      rw [columns_without, List.filter_filter]
      exact List.filter_congr fun column _ => by simp [Bool.and_comm]

theorem isBlankAt_iff {row : Row} {column : String} :
    row.isBlankAt column = true ↔ row.value? column = none ∨ row.value? column = some .null ∨
      row.value? column = some (.text "") := by
  rw [isBlankAt]
  cases row.value? column with
  | none => simp
  | some value => cases value <;> simp

end Row

namespace BuiltIn

/-- The column that the directive sets, and its value, for a row that has what it asks for. -/
inductive Sets (row : Row) : BuiltIn → String → Value → Prop where
  | part {source : String} {t : Instant} (destination : String) (field : DateField)
      (hsource : row.value? source = some (.timestamp t)) :
      Sets row (getDate source destination field) destination (.int (DateField.word t field))
  | parsed {column content : String} {t : Instant}
      (hcolumn : row.value? column = some (.text content)) (hcontent : Spells content t) :
      Sets row (parseAsDate column) column (.timestamp t)
  | filled {column : String} (content : String)
      (hcolumn : row.value? column = none ∨ row.value? column = some .null ∨
        row.value? column = some (.text "")) :
      Sets row (fill column content) column (.text content)

/-- The row has what the directive asks for. -/
def Applies (row : Row) : BuiltIn → Prop
  | rename source _ => source ∈ row.names
  | drop columns => ∃ name ∈ columns, name ∈ row.names
  | d => ∃ name value, Sets row d name value

variable {d : BuiltIn} {row done : Row}

theorem turn_edit_of_not_mem (row : Row) {column : String × Value} (h : column.1 ∉ d.touches) :
    (d.edit row).turn column = some column := by
  obtain hedit | hedit | ⟨source, hsource, target, -, hedit⟩ | ⟨name, hname, value, hedit⟩ :=
    edit_cases d row <;> rw [hedit]
  · rfl
  · exact if_neg h
  · exact Edit.turn_change_of_ne fun heq => h (heq ▸ hsource)
  · exact Edit.turn_change_of_ne fun heq => h (heq ▸ hname)

theorem eq_set_of_sets {name : String} {value : Value} (h : d.transform row = .ok done)
    (hsets : Sets row d name value) : done = row.set name value := by
  cases hsets with
  | part destination field hsource =>
      cases h
      rw [Row.extractField, hsource]
      rfl
  | parsed hcolumn hcontent =>
      cases h
      rw [Row.parseTimestamp, hcolumn]
      simp only [Rfc3339.read?_trim_eq_some_iff.mpr hcontent]
  | filled content hcolumn =>
      cases h
      rw [Row.fillBlank, if_pos (Row.isBlankAt_iff.mpr hcolumn)]

theorem eq_self_of_not_applies (h : d.transform row = .ok done) (hskips : ¬Applies row d) :
    done = row := by
  cases d with
  | getDate source destination field =>
      cases h
      rw [Row.extractField]
      split
      · rename_i t hsource
        exact absurd ⟨_, _, .part destination field hsource⟩ hskips
      · rfl
  | parseAsDate column =>
      cases h
      rw [Row.parseTimestamp]
      split
      · rfl
      · rfl
      · rename_i content hcolumn
        split
        · rename_i t hread
          have hcontent := Rfc3339.read?_trim_eq_some_iff.mp hread
          exact absurd ⟨_, _, .parsed hcolumn hcontent⟩ hskips
        · rfl
      · rfl
  | rename source target =>
      obtain ⟨-, hdone⟩ := transform_eq_ok_iff.mp h
      apply Row.ext_columns
      rw [hdone, edit, Row.relabeling, Edit.apply_change_of_not_mem hskips, List.append_nil]
  | drop columns =>
      cases h
      refine Row.ext_columns (List.filter_eq_self.mpr fun column hcolumn => ?_)
      exact decide_eq_true fun hname => hskips ⟨_, hname, List.mem_map_of_mem hcolumn⟩
  | fill column content =>
      cases h
      rw [Row.fillBlank, if_neg fun hblank => hskips ?_]
      exact ⟨_, _, .filled content (Row.isBlankAt_iff.mp hblank)⟩

/-- What a directive does to a row and what it leaves. The columns that stay are the same ones in
the same order, and only a row that has what the directive asks for becomes another row. -/
structure Framed (d : BuiltIn) (row done : Row) : Prop where
  kept : (row.columns.filter (·.1 ∉ d.touches)).Sublist done.columns
  skipped : ¬Applies row d → done = row
  written : ∀ name value, Sets row d name value → done = row.set name value
  dropped : ∀ names, d = drop names → done = names.foldl Row.without row ∧
    done.columns = row.columns.filter (·.1 ∉ names)
  renamed : ∀ source target, d = rename source target → done.columns =
    row.columns.map fun column => if column.1 = source then (target, column.2) else column
  distinct : done.names.Nodup

theorem framed_of_transform (h : d.transform row = .ok done) : d.Framed row done := by
  obtain ⟨-, hdone⟩ := transform_eq_ok_iff.mp h
  constructor
  case kept =>
    rw [hdone]
    exact Edit.sublist_apply (fun column => turn_edit_of_not_mem row) row.columns
  case skipped => exact eq_self_of_not_applies h
  case written => exact fun name value => eq_set_of_sets h
  case dropped =>
    rintro names rfl
    cases h
    exact ⟨(Row.foldl_without names row).symm, rfl⟩
  case renamed =>
    rintro source target rfl
    rw [hdone, edit, Row.apply_relabeling]
  case distinct => exact done.nodup

theorem framed_of_execute {c after : Context} {rows out : List Row}
    (h : d.execute c rows = (after, .ok out)) : List.Forall₂ d.Framed rows out := by
  rw [execute_eq] at h
  have hrows := transformFrom_eq_ok_iff.mp (Prod.mk.inj h).2
  exact hrows.imp fun row done => framed_of_transform

/-- The part is put over the timestamp that it is taken from. Text in that column stays, and so
does a row without it. -/
theorem framed_of_execute_of_same_column :
    ∃ rows out : List Row,
      rows = [.ofList [("a", .null), ("t", .timestamp ⟨-1, 0, by decide⟩), ("b", .bool true)],
        .ofList [("t", .text "1969-12-31T23:59:59Z")], .ofList [("b", .null)]] ∧
      out = [.ofList [("a", .null), ("t", .int 31), ("b", .bool true)],
        .ofList [("t", .text "1969-12-31T23:59:59Z")], .ofList [("b", .null)]] ∧
      (getDate "t" "t" .dayOfMonth).execute .empty rows = (.empty, .ok out) ∧
      List.Forall₂ (getDate "t" "t" .dayOfMonth).Framed rows out := by
  have hrun : (getDate "t" "t" .dayOfMonth).execute .empty
      [.ofList [("a", .null), ("t", .timestamp ⟨-1, 0, by decide⟩), ("b", .bool true)],
        .ofList [("t", .text "1969-12-31T23:59:59Z")], .ofList [("b", .null)]] =
      (.empty, .ok [.ofList [("a", .null), ("t", .int 31), ("b", .bool true)],
        .ofList [("t", .text "1969-12-31T23:59:59Z")], .ofList [("b", .null)]]) := rfl
  exact ⟨_, _, rfl, rfl, hrun, framed_of_execute hrun⟩

end BuiltIn

end RowScript
