import RowScript.Proofs.Frames

/-!
Running a directive again. A row that a directive has been over either lacks what the directive
asks for, or has in place already what the directive would set. So a second run succeeds and
changes nothing, whatever the configuration: also where a part of a timestamp is put over the
timestamp, and where a column is renamed to its own name.
-/

namespace RowScript

namespace Row

theorem set_eq_self {r : Row} {name : String} {value : Value} (h : r.value? name = some value) :
    r.set name value = r := by
  obtain ⟨front, back, hsplit⟩ := List.append_of_mem (value?_eq_some_iff.mp h)
  apply ext_columns
  rw [columns_set_of_split hsplit, hsplit]

end Row

namespace BuiltIn

variable {d used : BuiltIn} {row done : Row} {c after : Context} {rows out : List Row}

theorem transform_of_not_applies (h : ¬Applies row d) : d.transform row = .ok row := by
  have hclear : d.Clear row := by
    cases d with
    | rename source target => exact fun hsource => absurd hsource h
    | _ => trivial
  obtain ⟨done, hdone⟩ := exists_transform_iff.mpr hclear
  rwa [eq_self_of_not_applies hdone h] at hdone

/-- A column that the directive has set, it would set to the same value. -/
theorem transform_set_of_sets {name : String} {value : Value} (h : Sets row d name value) :
    d.transform (row.set name value) = .ok (row.set name value) := by
  have hset : (row.set name value).value? name = some value := by
    rw [Row.value?_set, if_pos rfl]
  cases h with
  | @part source t _ field hsource =>
      by_cases heq : source = name
      · subst heq
        refine transform_of_not_applies ?_
        rintro ⟨_, _, hagain⟩
        cases hagain with
        | part _ _ hagain => cases hset.symm.trans hagain
      · have hstays : (row.set name (.int (DateField.word t field))).value? source =
            some (.timestamp t) := by
          rw [Row.value?_set, if_neg heq, hsource]
        rw [transform, Row.extractField, hstays]
        exact congrArg Except.ok (Row.set_eq_self hset)
  | parsed hcolumn hcontent =>
      refine transform_of_not_applies ?_
      rintro ⟨_, _, hagain⟩
      cases hagain with
      | parsed hagain _ => cases hset.symm.trans hagain
  | filled content hcolumn =>
      rw [transform, Row.fillBlank]
      split
      · rw [Row.set_eq_self hset]
      · rfl

theorem not_mem_names_of_relabeled {source target : String} (hne : source ≠ target)
    (h : done.columns =
      row.columns.map fun column => if column.1 = source then (target, column.2) else column) :
    source ∉ done.names := by
  intro hmem
  obtain ⟨column, hcolumn, hname⟩ := List.mem_map.mp hmem
  rw [h] at hcolumn
  obtain ⟨held, -, rfl⟩ := List.mem_map.mp hcolumn
  split at hname
  · exact hne hname.symm
  · contradiction

/-- The directive leaves a row that it has been over as it is. -/
theorem transform_done (h : d.transform row = .ok done) : d.transform done = .ok done := by
  by_cases happlies : Applies row d
  case neg =>
    obtain rfl := eq_self_of_not_applies h happlies
    exact h
  have hframed := framed_of_transform h
  cases d with
  | rename source target =>
      have hcolumns := hframed.renamed source target rfl
      by_cases hne : source = target
      · subst hne
        have hsame : done = row := by
          apply Row.ext_columns
          rw [hcolumns]
          refine List.map_id'' (fun column => ?_) _
          split
          · rename_i hname
            rw [← hname]
          · rfl
        rw [hsame] at h ⊢
        exact h
      · exact transform_of_not_applies (not_mem_names_of_relabeled hne hcolumns)
  | drop columns =>
      refine transform_of_not_applies ?_
      rintro ⟨name, hname, hmem⟩
      obtain ⟨column, hcolumn, rfl⟩ := List.mem_map.mp hmem
      rw [(hframed.dropped columns rfl).2] at hcolumn
      exact of_decide_eq_true (List.mem_filter.mp hcolumn).2 hname
  | getDate | parseAsDate | fill =>
      obtain ⟨name, value, hsets⟩ := happlies
      rw [hframed.written name value hsets]
      exact transform_set_of_sets hsets

theorem transformFrom_done {index : Nat} (h : d.transformFrom index rows = .ok out)
    (other : Nat) : d.transformFrom other out = .ok out := by
  rw [transformFrom_eq_ok_iff] at h ⊢
  induction h with
  | nil => exact .nil
  | cons hrow _ ih => exact .cons (transform_done hrow) ih

/-- A batch that a directive has been over comes out of a second run as it went in, in whatever
context that run takes place. -/
theorem unchanged_by_second_run (h : Directive.execute d c rows = (used, after, .ok out))
    (later : Context) :
    ∃ final, Directive.execute used later out = (used, final, .ok out) := by
  obtain ⟨rfl, hrun⟩ := Prod.mk.inj h
  rw [execute_eq] at hrun
  refine ⟨later.charge (d.charges out), ?_⟩
  change (d, d.execute later out) = _
  rw [execute_eq, transformFrom_done (Prod.mk.inj hrun).2]

/-- A renamed column is not in its own way when the batch is renamed again. -/
theorem unchanged_by_second_run_of_renamed :
    ∃ rows out : List Row,
      rows = [.ofList [("a", .int 1), ("c", .null)], .ofList [("b", .text "x")]] ∧
      out = [.ofList [("b", .int 1), ("c", .null)], .ofList [("b", .text "x")]] ∧
      Directive.execute (rename "a" "b") .empty rows = (rename "a" "b", .empty, .ok out) ∧
      ∃ final, Directive.execute (rename "a" "b") .empty out =
        (rename "a" "b", final, .ok out) := by
  have hrun : Directive.execute (rename "a" "b") .empty
      [.ofList [("a", .int 1), ("c", .null)], .ofList [("b", .text "x")]] =
      (rename "a" "b", .empty,
        .ok [.ofList [("b", .int 1), ("c", .null)], .ofList [("b", .text "x")]]) := rfl
  exact ⟨_, _, rfl, rfl, hrun, unchanged_by_second_run hrun .empty⟩

end BuiltIn

end RowScript
