import RowScript.Proofs.Batches
import RowScript.Proofs.Edits
import RowScript.Proofs.FirstMisfit

/-!
Directives of different columns. What one of them does to a row, the other does not notice, so
their order counts for nothing but the order of the columns that they add: either order
succeeds if the other one does, and no schema tells the rows apart.
-/

namespace RowScript

theorem exists_forall₂_iff {α β : Type} {R : α → β → Prop} {xs : List α} :
    (∃ ys, List.Forall₂ R xs ys) ↔ ∀ x ∈ xs, ∃ y, R x y := by
  induction xs with
  | nil => simp
  | cons x xs ih =>
      rw [List.forall_mem_cons, ← ih]
      constructor
      · rintro ⟨_, hxy | ⟨hxy, hrest⟩⟩
        exact ⟨⟨_, hxy⟩, _, hrest⟩
      · rintro ⟨⟨y, hxy⟩, ys, hrest⟩
        exact ⟨y :: ys, .cons hxy hrest⟩

/-- The rows differ in nothing but the order of columns that a third row does not have. -/
structure Row.SameButNew (row done other : Row) : Prop where
  columns : done.columns.Perm other.columns
  order : ∃ kept new moved, done.columns = kept ++ new ∧ other.columns = kept ++ moved ∧
    new.Perm moved ∧ ∀ column ∈ new, column.1 ∉ row.names

namespace BuiltIn

variable {d d₁ d₂ : BuiltIn} {row middle done other : Row}

/-- A directive leaves the columns that it does not mention. -/
theorem value?_transform (h : d.transform row = .ok done) {name : String}
    (hname : name ∉ d.mentions) : done.value? name = row.value? name := by
  obtain ⟨-, hcolumns⟩ := transform_eq_ok_iff.mp h
  apply Option.ext
  intro value
  rw [Row.value?_eq_some_iff, Row.value?_eq_some_iff, hcolumns,
    (d.edit_within row).mem_apply_iff hname]

section Apart

variable (hapart : d₁.mentions.Disjoint d₂.mentions)
include hapart

/-- A directive finds its columns as they were in front of a directive of others. -/
theorem value?_of_apart (h : d₁.transform row = .ok middle) :
    ∀ name ∈ d₂.mentions, middle.value? name = row.value? name :=
  fun _ hname => value?_transform h fun hmentioned => hapart hmentioned hname

theorem becomes_pair_iff :
    Pipeline.Becomes [d₁, d₂] row done ↔ d₁.Clear row ∧ d₂.Clear row ∧
      done.columns = (d₂.edit row).apply ((d₁.edit row).apply row.columns) := by
  constructor
  · rintro ⟨middle, hfirst, after, hsecond, rfl⟩
    have hseen := value?_of_apart hapart hfirst
    obtain ⟨hclear, hmiddle⟩ := transform_eq_ok_iff.mp hfirst
    obtain ⟨hfree, hafter⟩ := transform_eq_ok_iff.mp hsecond
    exact ⟨hclear, (clear_congr hseen).mp hfree, by rw [hafter, edit_congr hseen, hmiddle]⟩
  · rintro ⟨hclear, hfree, hdone⟩
    obtain ⟨middle, hfirst⟩ := exists_transform_iff.mpr hclear
    have hseen := value?_of_apart hapart hfirst
    have hmiddle := (transform_eq_ok_iff.mp hfirst).2
    refine ⟨middle, hfirst, done, transform_eq_ok_iff.mpr ⟨(clear_congr hseen).mpr hfree, ?_⟩, rfl⟩
    rw [hdone, edit_congr hseen, hmiddle]

theorem exists_becomes_pair_iff :
    (∃ done, Pipeline.Becomes [d₁, d₂] row done) ↔ d₁.Clear row ∧ d₂.Clear row := by
  constructor
  · rintro ⟨done, hdone⟩
    obtain ⟨hclear, hfree, -⟩ := (becomes_pair_iff hapart).mp hdone
    exact ⟨hclear, hfree⟩
  · rintro ⟨hclear, hfree⟩
    obtain ⟨middle, hfirst⟩ := exists_transform_iff.mpr hclear
    have hseen := value?_of_apart hapart hfirst
    obtain ⟨done, hsecond⟩ := exists_transform_iff.mpr ((clear_congr hseen).mpr hfree)
    exact ⟨done, middle, hfirst, done, hsecond, rfl⟩

theorem sameButNew (h : Pipeline.Becomes [d₁, d₂] row done)
    (hother : Pipeline.Becomes [d₂, d₁] row other) : row.SameButNew done other := by
  obtain ⟨-, -, hdone⟩ := (becomes_pair_iff hapart).mp h
  obtain ⟨-, -, hswapped⟩ := (becomes_pair_iff (List.disjoint_symm hapart)).mp hother
  have hfirst := d₁.edit_within row
  have hsecond := d₂.edit_within row
  rw [hfirst.apply_apply hsecond hapart] at hdone
  rw [hsecond.apply_apply hfirst (List.disjoint_symm hapart),
    ← funext (hfirst.turn_comm hsecond hapart)] at hswapped
  constructor
  case columns =>
    rw [hdone, hswapped]
    exact List.perm_append_comm.append_left _
  case order =>
    refine ⟨_, _, _, hdone, hswapped, List.perm_append_comm, ?_⟩
    intro column hnew
    exact (List.mem_append.mp hnew).elim added_edit added_edit

end Apart

end BuiltIn

namespace Pipeline

theorem exists_step_of_error {index : Nat} {chain : List BuiltIn} {rows : List Row} {e : RunError}
    (h : outcome index chain rows = .error e) : ∃ step cause, e = .execution step cause := by
  induction chain generalizing index rows with
  | nil => cases h
  | cons d chain ih =>
      rw [outcome] at h
      split at h
      · cases h
        exact ⟨_, _, rfl⟩
      · exact ih h

/-- Fitting rows to a schema comes behind all directives, so an answer other than the error of
a directive is that of the schema. -/
theorem execute_eq_iff {p : Pipeline BuiltIn} (h : p.isConfigured = true) {schema : Schema}
    {rows : List Row} {answer : Except RunError (List Record)}
    (hanswer : ∀ step cause, answer ≠ .error (.execution step cause)) :
    (p.execute rows schema).result = answer ↔
      ∃ out, (p.executeRows rows).result = .ok out ∧ schema.reconcile out = answer := by
  have hrun : (p.execute rows schema).result =
      ((p.executeRows rows).result.bind schema.reconcile) := rfl
  rw [hrun, (executeRows_of_configured h rows).1]
  cases hout : outcome 0 p.chain rows with
  | error e =>
      obtain ⟨step, cause, rfl⟩ := exists_step_of_error hout
      simp [Except.bind, (hanswer step cause).symm]
  | ok out => simp [Except.bind]

section Apart

variable {d₁ d₂ : BuiltIn} (hapart : d₁.mentions.Disjoint d₂.mentions) {rows out others : List Row}
include hapart

theorem exists_forall₂_becomes_comm :
    (∃ out, List.Forall₂ (Becomes [d₁, d₂]) rows out) ↔
      ∃ others, List.Forall₂ (Becomes [d₂, d₁]) rows others := by
  simp only [exists_forall₂_iff, BuiltIn.exists_becomes_pair_iff hapart,
    BuiltIn.exists_becomes_pair_iff (List.disjoint_symm hapart), and_comm]

variable (hout : List.Forall₂ (Becomes [d₁, d₂]) rows out)
  (hothers : List.Forall₂ (Becomes [d₂, d₁]) rows others)
include hout hothers

theorem sameButNew_of_getElem? {i : Nat} {row done other : Row} (hrow : rows[i]? = some row)
    (hdone : out[i]? = some done) (hother : others[i]? = some other) :
    row.SameButNew done other := by
  obtain ⟨_, hget, hbecomes⟩ := exists_getElem? hout hrow
  obtain rfl := Option.some.inj (hdone.symm.trans hget)
  obtain ⟨_, hget, hswapped⟩ := exists_getElem? hothers hrow
  obtain rfl := Option.some.inj (hother.symm.trans hget)
  exact BuiltIn.sameButNew hapart hbecomes hswapped

/-- The order of the columns is nothing to a schema. -/
theorem reconcile_eq_of_apart (schema : Schema) :
    schema.reconcile out = schema.reconcile others := by
  have hpairs := forall₂_comp_iff.mp ⟨rows, hout.flip, hothers⟩
  refine Schema.reconcileFrom_congr (hpairs.imp ?_)
  rintro done other ⟨row, hdone, hother⟩
  exact (BuiltIn.sameButNew hapart hdone hother).columns.filter _

end Apart

/-- Two pipelines succeed on the same batches, their rows are the same but for the order of new
columns, and no schema tells these apart. -/
structure Agree (p q : Pipeline BuiltIn) (rows : List Row) : Prop where
  succeeds : (∃ out, (p.executeRows rows).result = .ok out) ↔
    ∃ out, (q.executeRows rows).result = .ok out
  rowwise : ∀ out others, (p.executeRows rows).result = .ok out →
    (q.executeRows rows).result = .ok others →
      out.length = rows.length ∧ others.length = rows.length ∧
      ∀ (i : Nat) (row done other : Row), rows[i]? = some row → out[i]? = some done →
        others[i]? = some other → row.SameButNew done other
  records : ∀ schema records, (p.execute rows schema).result = .ok records ↔
    (q.execute rows schema).result = .ok records
  misfit : ∀ schema index column reason,
    (p.execute rows schema).result = .error (.reconcile index column reason) ↔
      (q.execute rows schema).result = .error (.reconcile index column reason)

/-- Directives that mention different columns can change places. -/
theorem agree_of_apart {p q : Pipeline BuiltIn} {d₁ d₂ : BuiltIn}
    (hp : p.isConfigured = true) (hq : q.isConfigured = true) (hchain : p.chain = [d₁, d₂])
    (hswapped : q.chain = [d₂, d₁]) (hapart : d₁.mentions.Disjoint d₂.mentions)
    (rows : List Row) : Agree p q rows := by
  have hfirst (out : List Row) : (p.executeRows rows).result = .ok out ↔
      List.Forall₂ (Becomes [d₁, d₂]) rows out := by
    rw [executeRows_eq_ok_iff hp, hchain]
  have hsecond (others : List Row) : (q.executeRows rows).result = .ok others ↔
      List.Forall₂ (Becomes [d₂, d₁]) rows others := by
    rw [executeRows_eq_ok_iff hq, hswapped]
  have hanswer (schema : Schema) {answer : Except RunError (List Record)}
      (hdirective : ∀ step cause, answer ≠ .error (.execution step cause)) :
      (p.execute rows schema).result = answer ↔ (q.execute rows schema).result = answer := by
    rw [execute_eq_iff hp hdirective, execute_eq_iff hq hdirective]
    simp only [hfirst, hsecond]
    constructor
    · rintro ⟨out, hout, hschema⟩
      obtain ⟨others, hothers⟩ := (exists_forall₂_becomes_comm hapart).mp ⟨out, hout⟩
      exact ⟨others, hothers, reconcile_eq_of_apart hapart hout hothers schema ▸ hschema⟩
    · rintro ⟨others, hothers, hschema⟩
      obtain ⟨out, hout⟩ := (exists_forall₂_becomes_comm hapart).mpr ⟨others, hothers⟩
      exact ⟨out, hout, reconcile_eq_of_apart hapart hout hothers schema ▸ hschema⟩
  constructor
  case succeeds =>
    simp only [hfirst, hsecond]
    exact exists_forall₂_becomes_comm hapart
  case rowwise =>
    intro out others hok hother
    have hout := (hfirst out).mp hok
    have hothers := (hsecond others).mp hother
    refine ⟨hout.length_eq.symm, hothers.length_eq.symm, ?_⟩
    intro i row done other hrow hdone hget
    exact sameButNew_of_getElem? hapart hout hothers hrow hdone hget
  case records => exact fun schema records => hanswer schema (by simp)
  case misfit => exact fun schema index column reason => hanswer schema (by simp)

/-- Filling two columns that a row does not have, in either order. -/
theorem agree_of_fills :
    ∃ p q : Pipeline BuiltIn, p.chain = [.fill "a" "x", .fill "b" "y"] ∧
      q.chain = [.fill "b" "y", .fill "a" "x"] ∧ Agree p q [.empty] ∧
      (p.executeRows [.empty]).result.toOption.map (List.map Row.names) = some [["a", "b"]] ∧
      (q.executeRows [.empty]).result.toOption.map (List.map Row.names) = some [["b", "a"]] := by
  obtain ⟨hp, hchain⟩ : (configure 0 "fill-null-or-empty :a 'x'; fill-null-or-empty :b 'y'"
      ⟨"", .standard, .empty⟩ new).pipeline.isConfigured = true ∧
      (configure 0 "fill-null-or-empty :a 'x'; fill-null-or-empty :b 'y'"
        ⟨"", .standard, .empty⟩ new).pipeline.chain = [.fill "a" "x", .fill "b" "y"] := by
    decide +kernel
  obtain ⟨hq, hswapped⟩ : (configure 0 "fill-null-or-empty :b 'y'; fill-null-or-empty :a 'x'"
      ⟨"", .standard, .empty⟩ new).pipeline.isConfigured = true ∧
      (configure 0 "fill-null-or-empty :b 'y'; fill-null-or-empty :a 'x'"
        ⟨"", .standard, .empty⟩ new).pipeline.chain = [.fill "b" "y", .fill "a" "x"] := by
    decide +kernel
  refine ⟨_, _, hchain, hswapped, ?_, ?_, ?_⟩
  · exact agree_of_apart hp hq hchain hswapped (by simp [BuiltIn.mentions]) [.empty]
  · rw [(executeRows_of_configured hp _).1, hchain]
    decide +kernel
  · rw [(executeRows_of_configured hq _).1, hswapped]
    decide +kernel

end Pipeline

end RowScript
