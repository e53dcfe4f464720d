import RowScript.Proofs.Members

/-!
Rows through their updates. An update of a row is the same update of a plain list of
columns, one that looks at nothing but the first column of a name: as long as every name
is there once, that is the only one, and no update changes this. So a list that starts
without columns, or with those of a JSON object, stays an ordered map however long it is
updated.
-/

namespace RowScript

namespace Row

inductive Update where
  | set (name : String) (value : Value)
  | rename (index : Nat) (name : String)
  | remove (index : Nat)
  | modify (name : String) (value : Value)

/-- The row behind an update. -/
def update (r : Row) : Update → Row
  | .set name value => r.set name value
  | .rename index name => (r.rename index name).2
  | .remove index => (r.remove index).2
  | .modify name value => (r.modify name value).2

def after (r : Row) (history : List Update) : Row :=
  history.foldl update r

end Row

namespace Columns

def first? (name : String) (columns : List (String × Value)) : Option Nat :=
  columns.findIdx? (·.1 == name)

def put (value : Value) (column : String × Value) : String × Value := (column.1, value)

def update (columns : List (String × Value)) : Row.Update → List (String × Value)
  | .set name value =>
    match first? name columns with
    | some index => columns.modify index (put value)
    | none => columns ++ [(name, value)]
  | .rename index name =>
    if index < columns.length ∧ ∀ other ∈ first? name columns, other = index then
      rename index name columns
    else columns
  | .remove index => columns.eraseIdx index
  | .modify name value =>
    match first? name columns with
    | some index => columns.modify index (put value)
    | none => columns

def after (columns : List (String × Value)) (history : List Row.Update) :
    List (String × Value) :=
  history.foldl update columns

theorem modify_split {front back : List (String × Value)} (column : String × Value)
    (value : Value) :
    (front ++ column :: back).modify front.length (put value) =
      front ++ (column.1, value) :: back := by
  induction front with
  | nil => rfl
  | cons head front ih => simpa using ih

end Columns

namespace Row

variable {r : Row} {name : String} {value : Value} {index : Nat}

theorem first?_eq (r : Row) (name : String) : Columns.first? name r.columns = r.find? name := rfl

theorem columns_modify_of_find? (h : r.find? name = some index) :
    r.columns.modify index (Columns.put value) = (r.set name value).columns := by
  have hname := find?_eq_some_iff.mp h
  rw [names, Columns.names, List.getElem?_map, Option.map_eq_some_iff] at hname
  obtain ⟨column, hcolumn, rfl⟩ := hname
  obtain ⟨front, back, hsplit, rfl⟩ := getElem?_eq_some_iff_split.mp hcolumn
  rw [hsplit, Columns.modify_split, columns_set_of_split hsplit]

/-- The first column of a name is the only one, so none but it can be in the way. -/
theorem fst_rename_iff_first :
    (r.rename index name).1 = true ↔
      index < r.columns.length ∧ ∀ other ∈ r.find? name, other = index := by
  rw [fst_rename_iff]
  refine and_congr_right fun _ => ⟨fun h other hother => ?_, fun h other hne hother => ?_⟩
  · by_contra hne
    exact h other hne (find?_eq_some_iff.mp hother)
  · exact hne (h other (find?_eq_some_iff.mpr hother))

theorem columns_rename {changed : Row} (h : r.rename index name = (true, changed)) :
    changed.columns = Columns.rename index name r.columns := by
  obtain ⟨front, old, value, back, hsplit, rfl, -, -, hchanged⟩ := rename_eq_true_iff.mp h
  rw [hchanged, hsplit, Columns.rename_split]

/-- No update of a row sees more of it than its columns, and of these the first of a
name. -/
theorem columns_update (r : Row) (u : Update) :
    (r.update u).columns = Columns.update r.columns u := by
  cases u with
  | set name value =>
      rw [update, Columns.update, first?_eq]
      cases hfind : r.find? name with
      | some index => exact (columns_modify_of_find? hfind).symm
      | none => exact columns_set_of_not_mem (find?_eq_none_iff.mp hfind)
  | rename index name =>
      rw [update, Columns.update, first?_eq]
      rcases hrename : r.rename index name with ⟨done, changed⟩
      cases done with
      | true =>
          have hfree := fst_rename_iff_first.mp (congrArg Prod.fst hrename)
          rw [if_pos hfree]
          exact columns_rename hrename
      | false =>
          have htaken : ¬(r.rename index name).1 = true := by
            rw [hrename]
            exact Bool.false_ne_true
          rw [if_neg (mt fst_rename_iff_first.mpr htaken), eq_of_rename_eq_false hrename]
  | remove index =>
      rw [update, Columns.update, remove]
      cases hcolumn : r.columns[index]? with
      | some column => rfl
      | none => exact (List.eraseIdx_of_length_le (List.getElem?_eq_none_iff.mp hcolumn)).symm
  | modify name value =>
      rw [update, Columns.update, first?_eq, modify]
      cases hfind : r.find? name with
      | some index =>
          have hmem : name ∈ r.names := List.mem_of_getElem? (find?_eq_some_iff.mp hfind)
          rw [if_pos (isSome_value?_iff.mpr hmem)]
          exact (columns_modify_of_find? hfind).symm
      | none =>
          rw [if_neg (mt isSome_value?_iff.mp (find?_eq_none_iff.mp hfind))]

theorem columns_after (r : Row) (history : List Update) :
    (r.after history).columns = Columns.after r.columns history := by
  induction history generalizing r with
  | nil => rfl
  | cons u history ih =>
      rw [after, List.foldl_cons, ← after, ih, columns_update]
      rfl

/-- What the operations of a row do, told by its columns. -/
structure OrderedMap (r : Row) : Prop where
  find : ∀ name index, r.find? name = some index ↔ r.names[index]? = some name
  absent : ∀ name, r.find? name = none ↔ name ∉ r.names
  value : ∀ name value, r.value? name = some value ↔ (name, value) ∈ r.columns
  set_value : ∀ name value, (r.set name value).value? name = some value
  set_present : ∀ name value front held back, r.columns = front ++ (name, held) :: back →
    (r.set name value).columns = front ++ (name, value) :: back
  set_absent : ∀ name value, name ∉ r.names →
    (r.set name value).columns = r.columns ++ [(name, value)]
  rename_iff : ∀ index name, (r.rename index name).1 = true ↔
    index < r.width ∧ ∀ other ≠ index, r.names[other]? ≠ some name
  rename_columns : ∀ index name changed, r.rename index name = (true, changed) →
    ∃ front old value back, r.columns = front ++ (old, value) :: back ∧
      front.length = index ∧ changed.columns = front ++ (name, value) :: back
  rename_refused : ∀ index name changed, r.rename index name = (false, changed) → changed = r
  remove_iff : ∀ index column changed, r.remove index = (some column, changed) ↔
    ∃ front back, r.columns = front ++ column :: back ∧ front.length = index ∧
      changed.columns = front ++ back
  remove_refused : ∀ index changed, r.remove index = (none, changed) ↔
    r.width ≤ index ∧ changed = r
  modify_iff : ∀ name value changed, r.modify name value = (true, changed) ↔
    ∃ front held back, r.columns = front ++ (name, held) :: back ∧
      changed.columns = front ++ (name, value) :: back
  modify_refused : ∀ name value changed, r.modify name value = (false, changed) ↔
    name ∉ r.names ∧ changed = r

theorem orderedMap (r : Row) : OrderedMap r := by
  constructor
  case find => exact fun name index => find?_eq_some_iff
  case absent => exact fun name => find?_eq_none_iff
  case value => exact fun name value => value?_eq_some_iff
  case set_value =>
    intro name value
    rw [value?_set, if_pos rfl]
  case set_present => exact fun name value front held back => columns_set_of_split
  case set_absent => exact fun name value => columns_set_of_not_mem
  case rename_iff => exact fun index name => fst_rename_iff
  case rename_columns =>
    intro index name changed h
    obtain ⟨front, old, value, back, hsplit, hindex, -, -, hchanged⟩ := rename_eq_true_iff.mp h
    exact ⟨front, old, value, back, hsplit, hindex, hchanged⟩
  case rename_refused => exact fun index name changed => eq_of_rename_eq_false
  case remove_iff => exact fun index column changed => remove_eq_some_iff
  case remove_refused => exact fun index changed => remove_eq_none_iff
  case modify_iff => exact fun name value changed => modify_eq_true_iff
  case modify_refused => exact fun name value changed => modify_eq_false_iff

def settings (members : List (String × Value)) : List Update :=
  members.map fun member => .set member.1 member.2

theorem after_settings (members : List (String × Value)) :
    empty.after (settings members) = ofList members :=
  List.foldl_map

theorem after_append (r : Row) (before behind : List Update) :
    r.after (before ++ behind) = (r.after before).after behind :=
  List.foldl_append

/-- The row is what the members and then the updates make of a plain list without columns,
in which no name ever stands twice. -/
structure Ordered (members : List (String × Value)) (history : List Update) (r : Row) :
    Prop where
  columns : r.columns = Columns.after [] (settings members ++ history)
  distinct : (Columns.names (Columns.after [] (settings members ++ history))).Nodup
  map : OrderedMap r

theorem ordered_ofList (members : List (String × Value)) (history : List Update) :
    Ordered members history ((ofList members).after history) := by
  have hcolumns : ((ofList members).after history).columns =
      Columns.after [] (settings members ++ history) := by
    rw [← after_settings, ← after_append]
    exact columns_after empty _
  constructor
  case columns => exact hcolumns
  case distinct => exact hcolumns ▸ ((ofList members).after history).nodup
  case map => exact orderedMap _

/-- A row as it is read from the text of an object: the names in the order in which they
come first, each with the value that comes last. -/
structure ReadFrom (members : List (String × Value)) (r : Row) : Prop where
  names : r.names = (members.map Prod.fst).eraseDups
  value : ∀ name, r.value? name = members.reverse.lookup name
  ordered : ∀ history, Ordered members history (r.after history)

theorem exists_members {depth : Nat} {source rest : List Char} {r : Row}
    (h : read depth source = .ok (r, rest)) :
    ∃ members, readMembers depth source = .ok (members, rest) ∧ r = ofList members := by
  rw [read_eq] at h
  cases hmembers : readMembers depth source with
  | error e =>
      rw [hmembers] at h
      cases h
  | ok kept =>
      rw [hmembers] at h
      cases h
      exact ⟨kept.1, rfl, rfl⟩

theorem exists_readFrom {depth : Nat} {source rest : List Char} {r : Row}
    (h : read depth source = .ok (r, rest)) :
    ∃ members, readMembers depth source = .ok (members, rest) ∧ ReadFrom members r := by
  obtain ⟨members, hmembers, rfl⟩ := exists_members h
  exact ⟨members, hmembers, names_ofList members, value?_ofList members, ordered_ofList members⟩

/-- The items of a batch are its rows, in the order of the text. -/
theorem listed_of_allOfJson {source : String} {rows : List Row}
    (h : allOfJson source = .ok rows) :
    ∃ gap items rest, source.toList = gap ++ '[' :: items ∧ Json.Blank gap ∧ Json.Blank rest ∧
      Json.Listed (fun text r behind => read (Json.maxDepth - 2) text = .ok (r, behind))
        true items rows rest := by
  obtain ⟨gap, hgap, hsource⟩ := Json.exists_gap source.toList
  rw [allOfJson, Json.readAll, Json.arrayValue] at h
  split at h
  · cases h
  · rename_i rest hread
    split at h
    · rename_i hrest
      cases h
      split at hread
      · cases hread
      · rename_i items hitems
        rw [hitems] at hsource
        exact ⟨gap, items, rest, hsource, hgap, Json.blank_of_skipBlank hrest,
          Json.listed_of_items hread⟩
      · cases hread
    · cases h

/-- Whether a row starts without columns, from the text of an object or as an item of a
batch, where the batch has its items one behind the other, it is an ordered map after every
sequence of updates. -/
theorem ordered_after :
    (∀ history, Ordered [] history (empty.after history)) ∧
    (∀ depth source r rest, read depth source = .ok (r, rest) →
      ∃ members, readMembers depth source = .ok (members, rest) ∧ ReadFrom members r) ∧
    ∀ source rows, allOfJson source = .ok rows →
      ∃ gap items rest, source.toList = gap ++ '[' :: items ∧ Json.Blank gap ∧ Json.Blank rest ∧
        Json.Listed (fun text r behind => read (Json.maxDepth - 2) text = .ok (r, behind) ∧
          ∃ members, readMembers (Json.maxDepth - 2) text = .ok (members, behind) ∧
            ReadFrom members r) true items rows rest := by
  refine ⟨ordered_ofList [], fun _ _ _ _ => exists_readFrom, ?_⟩
  intro source rows h
  obtain ⟨gap, items, rest, hsource, hgap, hrest, hlisted⟩ := listed_of_allOfJson h
  exact ⟨gap, items, rest, hsource, hgap, hrest,
    hlisted.imp fun hread => ⟨hread, exists_readFrom hread⟩⟩

/-- A name comes twice in the text, and afterwards a column takes a name that became free. -/
theorem ordered_after_of_repeated_name :
    ∃ r members, read 0 "\x7b\"a\":1,\"b\":2,\"a\":3\x7d".toList = .ok (r, []) ∧
      readMembers 0 "\x7b\"a\":1,\"b\":2,\"a\":3\x7d".toList = .ok (members, []) ∧
      r.names = ["a", "b"] ∧
      (r.after [.rename 0 "b", .rename 1 "c", .rename 0 "b"]).names = ["b", "c"] ∧
      Ordered members [.rename 0 "b", .rename 1 "c", .rename 0 "b"]
        (r.after [.rename 0 "b", .rename 1 "c", .rename 0 "b"]) := by
  have hread : read 0 "\x7b\"a\":1,\"b\":2,\"a\":3\x7d".toList =
      .ok (ofList [("a", .int 1), ("b", .int 2), ("a", .int 3)], []) := rfl
  obtain ⟨members, hmembers, hfrom⟩ := ordered_after.2.1 _ _ _ _ hread
  exact ⟨_, members, hread, hmembers, rfl, rfl, hfrom.ordered _⟩

end Row

end RowScript
