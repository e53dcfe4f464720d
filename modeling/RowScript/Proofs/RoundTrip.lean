import RowScript.Proofs.Collections
import RowScript.Proofs.Parts

/-!
Rows written as JSON and read again. The compact and the wide form of a document differ in
the blanks around its pieces and in nothing else, so what is read from the one is read from
the other.
-/

namespace RowScript

namespace Json

/-- A written form of documents: scalars are written as they are in the compact form, and the
pieces of an array or object between commas, with nothing but blanks around them. -/
structure Form (write : Nat → Tree → List Char) : Prop where
  scalar : ∀ indent t, t.levels = 0 → write indent t = t.compact
  array : ∀ indent items, ∃ gap close, Blank gap ∧ Blank close ∧
    write indent (.array items) =
      '[' :: ([','].intercalate (items.map fun item => gap ++ write (indent + 1) item) ++
        (close ++ [']']))
  object : ∀ indent members, ∃ gap space close, Blank gap ∧ Blank space ∧ Blank close ∧
    write indent (.object members) =
      '\x7b' :: ([','].intercalate (members.map fun member =>
        gap ++ (stringText member.1 ++ ':' :: (space ++ write (indent + 1) member.2))) ++
          (close ++ ['\x7d']))

namespace Tree

theorem compactItems_eq (items : List Tree) :
    compactItems items = [','].intercalate (items.map compact) := by
  induction items with
  | nil => rfl
  | cons item items ih =>
      cases items with
      | nil => simp [compactItems]
      | cons other items => simp [compactItems, ih]

theorem form_compact : Form fun _ => compact := by
  constructor
  case scalar => exact fun _ _ _ => rfl
  case array =>
    intro _ items
    refine ⟨[], [], blank_nil, blank_nil, ?_⟩
    rw [compact, compactItems_eq]
    rfl
  case object =>
    intro _ members
    refine ⟨[], [], [], blank_nil, blank_nil, blank_nil, ?_⟩
    rw [compact, compactMembers_eq]
    rfl

theorem wideItems_eq (depth : Nat) (items : List Tree) :
    wideItems depth items =
      [','].intercalate (items.map fun item => lineStart depth ++ item.wide depth) := by
  induction items with
  | nil => rfl
  | cons item items ih =>
      cases items with
      | nil => simp [wideItems]
      | cons other items => simp [wideItems, ih]

theorem wideMembers_eq (depth : Nat) (members : List (String × Tree)) :
    wideMembers depth members = [','].intercalate (members.map fun member =>
      lineStart depth ++ (stringText member.1 ++ ':' :: ([' '] ++ member.2.wide depth))) := by
  induction members with
  | nil => rfl
  | cons member members ih =>
      cases members with
      | nil => simp [wideMembers]
      | cons other members => simp [wideMembers, ih]

theorem blank_lineStart (depth : Nat) : Blank (lineStart depth) := by
  refine List.forall_mem_cons.mpr ⟨rfl, fun c hc => ?_⟩
  rw [List.eq_of_mem_replicate hc]
  rfl

theorem form_wide : Form wide := by
  constructor
  case scalar =>
    intro indent t ht
    cases t with
    | null | bool b | int n | float x | text content => rfl
    | array items | object members => simp [levels] at ht
  case array =>
    intro indent items
    cases items with
    | nil => exact ⟨[], [], blank_nil, blank_nil, rfl⟩
    | cons item items =>
        refine ⟨_, _, blank_lineStart (indent + 1), blank_lineStart indent, ?_⟩
        rw [wide, wideItems_eq]
        · simp
        · simp
  case object =>
    intro indent members
    cases members with
    | nil => exact ⟨[], [], [], blank_nil, blank_nil, blank_nil, rfl⟩
    | cons member members =>
        refine ⟨_, [' '], _, blank_lineStart (indent + 1), by simp [Blank, isBlank],
          blank_lineStart indent, ?_⟩
        rw [wide, wideMembers_eq]
        · simp
        · simp

end Tree

end Json

namespace Entries

variable {α : Type}

theorem insert_of_lt {key : String} {value : α} {entries : List (String × α)}
    (h : ∀ entry ∈ entries, entry.1 < key) :
    insert key value entries = entries ++ [(key, value)] := by
  induction entries with
  | nil => rfl
  | cons head entries ih =>
      obtain ⟨hhead, hentries⟩ := List.forall_mem_cons.mp h
      obtain ⟨hlt, hne⟩ := not_lt_and_ne_iff.mpr hhead
      rw [insert, if_neg hlt, if_neg hne, ih hentries, List.cons_append]

end Entries

namespace Value

open Json

theorem skips_read (depth : Nat) : Skips (read depth) := by
  intro text
  rw [read.eq_def, read.eq_def]
  dsimp only
  rw [skipBlank_skipBlank]

section

variable {depth : Nat} {texts : List (List Char)} {gap : List Char}

theorem written_scalar {text : List Char} {x : Scalar}
    (h : ∀ rest, Ends rest → scalar (text ++ rest) = .ok (x, rest)) :
    Written (read depth) text (ofScalar x) := by
  have halone := h [] ends_nil
  rw [List.append_nil] at halone
  obtain ⟨c, more, rfl, hblank, hbracket⟩ := exists_head_of_scalar halone
  simp only [List.mem_cons, List.not_mem_nil, or_false, not_or] at hbracket
  constructor
  case starts => exact ⟨c, more, skipBlank_of_not hblank more, hbracket.2.1⟩
  case takes =>
    intro rest hrest
    have hscalar := h rest hrest
    rw [List.cons_append] at hscalar ⊢
    rw [read.eq_def]
    dsimp only
    rw [skipBlank_of_not hblank]
    split
    · rename_i heq
      exact absurd (List.cons.inj heq).1 hbracket.1
    · rename_i heq
      exact absurd (List.cons.inj heq).1 hbracket.2.2
    · rw [hscalar]

theorem written_array {items : List Value} (h : List.Forall₂ (Written (read depth)) texts items)
    (hgap : Blank gap) :
    Written (read (depth + 1)) ('[' :: ([','].intercalate texts ++ (gap ++ [']'])))
      (array items) := by
  have hbracket : isBlank '[' = false := rfl
  constructor
  case starts => exact ⟨'[', _, skipBlank_of_not hbracket _, by decide⟩
  case takes =>
    intro rest _
    have harray := array_joined (skips_read depth) h hgap rest
    rw [List.cons_append, read.eq_def]
    dsimp only
    rw [skipBlank_of_not hbracket]
    simp only [List.append_assoc, List.singleton_append, harray]

def putEntry (held : List (String × Value)) (key : String) (value : Value) :
    List (String × Value) :=
  Entries.insert key value held

theorem putAll_putEntry {entries : List (String × Value)} (h : Entries.Sorted entries) :
    putAll putEntry [] entries = entries := by
  induction entries using List.reverseRecOn with
  | nil => rfl
  | append_singleton entries entry ih =>
      obtain ⟨hentries, -, hbehind⟩ := List.pairwise_append.mp h
      have hfront := ih hentries
      rw [putAll] at hfront ⊢
      rw [List.foldl_append, hfront]
      exact Entries.insert_of_lt fun other hother => hbehind other hother entry List.mem_cons_self

theorem takeMember_putEntry (depth : Nat) :
    takeMember (read depth) putEntry = fun (held : List (String × Value)) key source =>
      match memberValue (read depth) source with
      | .error e => .error e
      | .ok (value, rest) => .ok (Entries.insert key value held, rest) := by
  funext held key source
  rw [takeMember]
  cases memberValue (read depth) source <;> rfl

theorem written_map {entries : List (String × Value)}
    (h : List.Forall₂ (Member (read depth)) texts entries) (hsorted : Entries.Sorted entries)
    (hgap : Blank gap) :
    Written (read (depth + 1)) ('\x7b' :: ([','].intercalate texts ++ (gap ++ ['\x7d'])))
      (map entries) := by
  have hbrace : isBlank '\x7b' = false := rfl
  constructor
  case starts => exact ⟨'\x7b', _, skipBlank_of_not hbrace _, by decide⟩
  case takes =>
    intro rest _
    have hobject := object_joined putEntry [] h hgap rest
    rw [takeMember_putEntry, putAll_putEntry hsorted] at hobject
    rw [List.cons_append, read.eq_def]
    dsimp only
    rw [skipBlank_of_not hbrace]
    simp only [List.append_assoc, List.singleton_append]
    split
    · rename_i e hread
      cases hread.symm.trans hobject
    · rename_i held behind hread
      cases hread.symm.trans hobject
      rfl

end

variable {write : Nat → Tree → List Char}

theorem ofNumber_toInt (n : Int64) : ofNumber (.integer n.toInt) = int n := by
  simp only [ofNumber, int64?_eq_some_iff.mpr rfl]

theorem members_written {depth indent : Nat} {gap space : List Char} (hgap : Blank gap)
    (hspace : Blank space) {entries : List (String × Value)}
    (h : ∀ entry ∈ entries,
      Written (read depth) (write indent entry.2.toJson) entry.2.asRead) :
    List.Forall₂ (Member (read depth))
      ((entriesToJson entries).map fun member =>
        gap ++ (stringText member.1 ++ ':' :: (space ++ write indent member.2)))
      (entries.map entryAsRead) := by
  rw [Record.entriesToJson_eq, List.map_map, List.forall₂_map_left_iff,
    List.forall₂_map_right_iff, List.forall₂_same]
  intro entry hentry
  exact .intro entry.1 hgap ((h entry hentry).behind_gap (skips_read depth) hspace)

/-- The text of a value is read as the value that comes back, by a reader that may go as deep
as the document is. -/
theorem written_toJson (hform : Form write) {value : Value} (hplain : value.Plain) {depth : Nat}
    (hdepth : value.toJson.levels ≤ depth) (indent : Nat) :
    Written (read depth) (write indent value.toJson) value.asRead := by
  induction value using nested generalizing depth indent with
  | null =>
      rw [hform.scalar indent _ rfl]
      exact written_scalar fun rest _ => scalar_nullText rest
  | bool b =>
      rw [hform.scalar indent _ rfl]
      exact written_scalar fun rest _ => scalar_boolText b rest
  | int n =>
      have hscalar : Written (read depth) (intText n) (ofScalar (.number (.integer n.toInt))) :=
        written_scalar fun rest hrest => scalar_intText n hrest
      rw [ofScalar, ofNumber_toInt] at hscalar
      rw [hform.scalar indent _ rfl]
      exact hscalar
  | float x => exact absurd .whole (hplain.floatless x)
  | text content =>
      rw [hform.scalar indent _ rfl]
      exact written_scalar fun rest _ => scalar_stringText content rest
  | timestamp t =>
      rw [hform.scalar indent _ rfl]
      exact written_scalar fun rest _ => scalar_stringText (Rfc3339.write t) rest
  | array items ih =>
      rw [toJson, itemsToJson_eq] at hdepth ⊢
      obtain ⟨inside, rfl, hinside⟩ := Tree.exists_of_levels_array hdepth
      obtain ⟨gap, close, hgap, hclose, htext⟩ := hform.array indent (items.map toJson)
      rw [htext, asRead_array, List.map_map]
      apply written_array _ hclose
      rw [List.forall₂_map_left_iff, List.forall₂_map_right_iff, List.forall₂_same]
      intro item hitem
      apply Written.behind_gap (skips_read inside) hgap
      exact ih item hitem (plain_array_iff.mp hplain item hitem)
        (hinside _ (List.mem_map.mpr ⟨item, hitem, rfl⟩)) (indent + 1)
  | map entries ih =>
      obtain ⟨hsorted, hentries⟩ := plain_map_iff.mp hplain
      rw [toJson] at hdepth ⊢
      obtain ⟨inside, rfl, hinside⟩ := Tree.exists_of_levels_object hdepth
      obtain ⟨gap, space, close, hgap, hspace, hclose, htext⟩ :=
        hform.object indent (entriesToJson entries)
      rw [Record.entriesToJson_eq] at hinside
      rw [htext, asRead_map]
      refine written_map (members_written hgap hspace ?_) (List.pairwise_map.mpr hsorted) hclose
      intro entry hentry
      exact ih entry hentry (hentries entry hentry)
        (hinside _ (List.mem_map.mpr ⟨entry, hentry, rfl⟩)) (indent + 1)

end Value

namespace Row

open Json

variable {write : Nat → Tree → List Char}

theorem skips_read (depth : Nat) : Skips (read depth) := by
  intro text
  rw [read, read, skipBlank_skipBlank]

/-- The text of a row is read as the row that comes back, by a reader that may go as deep as
the columns do. -/
theorem written_toJson (hform : Form write) {r : Row} (hplain : r.Plain) {depth : Nat}
    (hdepth : r.toJson.levels ≤ depth + 1) (indent : Nat) :
    Written (read depth) (write indent r.toJson) r.asRead := by
  have hbrace : isBlank '\x7b' = false := rfl
  rw [toJson] at hdepth ⊢
  obtain ⟨inside, hinside, hcolumns⟩ := Tree.exists_of_levels_object hdepth
  obtain rfl := Nat.succ.inj hinside
  rw [Record.entriesToJson_eq] at hcolumns
  obtain ⟨gap, space, close, hgap, hspace, hclose, htext⟩ :=
    hform.object indent (Value.entriesToJson r.columns)
  have hmembers := Value.members_written hgap hspace fun column hcolumn =>
    Value.written_toJson hform (hplain column hcolumn)
      (hcolumns _ (List.mem_map.mpr ⟨column, hcolumn, rfl⟩)) (indent + 1)
  rw [htext]
  constructor
  case starts => exact ⟨'\x7b', _, skipBlank_of_not hbrace _, by decide⟩
  case takes =>
    intro rest _
    have hobject := object_joined set empty hmembers hclose rest
    have hrow : putAll set empty (r.columns.map Value.entryAsRead) = r.asRead :=
      ext_columns (columns_ofList r.asRead.nodup)
    rw [takeMember_set, hrow] at hobject
    rw [List.cons_append, read, skipBlank_of_not hbrace]
    simp only [List.append_assoc, List.singleton_append]
    exact hobject

theorem allOfJson_write (hform : Form write) {rows : List Row} (hplain : ∀ r ∈ rows, r.Plain)
    (hlevels : (allToJson rows).levels ≤ maxDepth) :
    allOfJson (String.ofList (write 0 (allToJson rows))) = .ok (rows.map asRead) := by
  have hbracket : isBlank '[' = false := rfl
  rw [allToJson] at hlevels ⊢
  obtain ⟨inside, hinside, hrows⟩ := Tree.exists_of_levels_array hlevels
  obtain rfl : inside = maxDepth - 2 + 1 := (Nat.succ.inj hinside).symm
  obtain ⟨gap, close, hgap, hclose, htext⟩ := hform.array 0 (rows.map toJson)
  have hitems : List.Forall₂ (Written (read (maxDepth - 2)))
      ((rows.map toJson).map fun item => gap ++ write (0 + 1) item) (rows.map asRead) := by
    rw [List.map_map, List.forall₂_map_left_iff, List.forall₂_map_right_iff, List.forall₂_same]
    intro r hr
    apply Written.behind_gap (skips_read _) hgap
    exact written_toJson hform (hplain r hr) (hrows _ (List.mem_map.mpr ⟨r, hr, rfl⟩)) (0 + 1)
  have harray := array_joined (skips_read _) hitems hclose []
  rw [allOfJson, String.toList_ofList, readAll, htext, arrayValue, skipBlank_of_not hbracket]
  simp only [harray]
  rfl

/-- What becomes of a batch of rows that is written as JSON and read again. -/
structure Survives (rows : List Row) : Prop where
  compact : allOfJson (allToJson rows).toCompact = .ok (rows.map asRead)
  wide : allOfJson (allToJson rows).toWide = .ok (rows.map asRead)
  names : (rows.map asRead).map names = rows.map names
  again : (allToJson (rows.map asRead)).toCompact = (allToJson rows).toCompact ∧
    (allToJson (rows.map asRead)).toWide = (allToJson rows).toWide
  unchanged : (∀ r ∈ rows, ∀ t, ¬r.Holds (.timestamp t)) → rows.map asRead = rows

/-- Rows without doubles come back from both of their written forms, with texts for the
timestamps inside them. -/
theorem survives_json {rows : List Row} (hplain : ∀ r ∈ rows, r.Plain)
    (hlevels : (allToJson rows).levels ≤ 127) : Survives rows := by
  have hwritten : allToJson (rows.map asRead) = allToJson rows := by
    rw [allToJson, allToJson, List.map_map]
    exact congrArg Tree.array (List.map_congr_left fun r _ => toJson_asRead r)
  constructor
  case compact => exact allOfJson_write Tree.form_compact hplain hlevels
  case wide => exact allOfJson_write Tree.form_wide hplain hlevels
  case names =>
    rw [List.map_map]
    exact List.map_congr_left fun r _ => names_asRead r
  case again => rw [hwritten]; exact ⟨rfl, rfl⟩
  case unchanged =>
    intro h
    have hsame : rows.map asRead = rows.map id :=
      List.map_congr_left fun r hr => asRead_of_no_timestamp (h r hr)
    rw [hsame, List.map_id]

/-- Quotes, a backslash and controls in names and texts, the least integer, a leap second
deep inside a map, and a row without columns. -/
theorem survives_json_of_escapes :
    ∃ rows : List Row,
      rows = [ofList [("\"q\"\\", .text "\x00\x1f\n/é"), ("", .map [("a", .int Int64.minValue),
        ("z", .array [.null, .timestamp ⟨59, 1500000000, by decide⟩, .map []])])], empty] ∧
      (∀ r ∈ rows, r.Plain) ∧ (allToJson rows).levels ≤ 127 ∧
      (allToJson rows).toCompact = "[\x7b\"\\\"q\\\"\\\\\":\"\\u0000\\u001f\\n/é\"," ++
        "\"\":\x7b\"a\":-9223372036854775808," ++
        "\"z\":[null,\"1970-01-01T00:00:60.500Z\",\x7b\x7d]\x7d\x7d,\x7b\x7d]" ∧
      Survives rows := by
  refine ⟨_, rfl, ?plain, ?levels, by rfl, survives_json ?plain ?levels⟩
  case plain =>
    have hkeys : "a" < "z" := by decide
    have hsorted (x y : Value) : Entries.Sorted [("a", x), ("z", y)] := List.pairwise_pair.mpr hkeys
    have hempty : Entries.Sorted ([] : List (String × Value)) := .nil
    simp only [Plain, ofList, set, Columns.set, empty, List.foldl_cons, List.foldl_nil,
      List.forall_mem_cons]
    simp [Value.plain_map_iff, Value.plain_array_iff, Value.plain_scalar_iff, Value.toJson,
      Tree.levels, hsorted, hempty]
  case levels => decide

end Row

end RowScript
