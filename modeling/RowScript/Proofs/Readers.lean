import Mathlib.Data.List.Nodup
import RowScript.Directive.BuiltIn
import RowScript.Proofs.Binding

/-!
Reading arguments by kind. What is bound to a slot is a token of the slot's own kind, so
the usage tells which readers give the content of the token and which ones fail. The
built-in directives ask every slot with the reader of its kind, and an optional one only
if it is bound. What can still be wrong for them is the content: a keyword for no part of
a timestamp, and an empty text to fill with.
-/

namespace RowScript

namespace Arguments

variable {α : Type} {a : Arguments} {name : String} {expected : TokenKind}
  {read : Token → Option α}

theorem reading_of_absent (h : a.value? name = none) :
    a.reading name expected read = .error (.missingArgument a.directive name a.usage) := by
  rw [reading, h]

theorem reading_of_some {held : Token} {x : α} (h : a.value? name = some held)
    (hread : read held = some x) : a.reading name expected read = .ok x := by
  rw [reading, h]
  simp only [hread]

theorem reading_of_none {held : Token} (h : a.value? name = some held)
    (hread : read held = none) :
    a.reading name expected read =
      .error (.typeMismatch a.directive name expected held.kind a.usage) := by
  rw [reading, h]
  simp only [hread, mismatch]

end Arguments

namespace Usage

/-- What a reader for one kind of tokens answers for a slot: the content of the token that
the slot holds, if the slot is of that kind, and otherwise that it is of another. -/
structure Serves {α : Type} (u : Usage) (slot : Slot) (held : Token) (expected : TokenKind)
    (token : α → Token) (answer : Except ScriptError α) : Prop where
  content : slot.kind = expected → ∃ x, held = token x ∧ answer = .ok x
  mismatch : slot.kind ≠ expected →
    answer = .error (.typeMismatch u.directive slot.name expected slot.kind u.line)

/-- What the readers answer for a slot that holds a token. A column is also read as a list
of one. -/
structure Readable (u : Usage) (a : Arguments) (slot : Slot) (held : Token) : Prop where
  kind : held.kind = slot.kind
  column : u.Serves slot held .column Token.column (a.column slot.name)
  identifier : u.Serves slot held .identifier Token.identifier (a.identifier slot.name)
  text : u.Serves slot held .text Token.text (a.text slot.name)
  numeric : u.Serves slot held .numeric Token.numeric (a.numeric slot.name)
  boolean : u.Serves slot held .boolean Token.boolean (a.boolean slot.name)
  columns : slot.kind = .columnList →
    ∃ names, held = .columnList names ∧ a.columns slot.name = .ok names
  columnsOfOne : slot.kind = .column →
    ∃ name, held = .column name ∧ a.columns slot.name = .ok [name]
  columnsMismatch : slot.kind ≠ .columnList → slot.kind ≠ .column →
    a.columns slot.name =
      .error (.typeMismatch u.directive slot.name .columnList slot.kind u.line)

/-- No reader finds anything under a name. -/
structure Absent (u : Usage) (a : Arguments) (name : String) : Prop where
  column : a.column name = .error (.missingArgument u.directive name u.line)
  columns : a.columns name = .error (.missingArgument u.directive name u.line)
  identifier : a.identifier name = .error (.missingArgument u.directive name u.line)
  text : a.text name = .error (.missingArgument u.directive name u.line)
  numeric : a.numeric name = .error (.missingArgument u.directive name u.line)
  boolean : a.boolean name = .error (.missingArgument u.directive name u.line)

variable {u : Usage} {tokens : List Token} {a : Arguments} {slot : Slot}

section

variable (h : u.bind tokens = .ok a)
include h

theorem lt_of_required {i : Nat} (hslot : u.slots[i]? = some slot)
    (hrequired : slot.optional = false) : i < tokens.length := by
  by_contra hbehind
  have hleft : slot ∈ u.slots.drop tokens.length := by
    refine List.mem_of_getElem? (i := i - tokens.length) ?_
    rwa [List.getElem?_drop, Nat.add_sub_cancel' (Nat.le_of_not_lt hbehind)]
  have htrailing := (required_le_iff u.orderly _).mp (bind_eq_ok_iff.mp h).1
  exact Bool.noConfusion (hrequired.symm.trans (htrailing slot hleft))

theorem exists_value? {i : Nat} (hslot : u.slots[i]? = some slot) (hi : i < tokens.length) :
    ∃ held, a.value? slot.name = some held := by
  obtain ⟨-, -, hfits, -⟩ := bind_eq_ok_iff.mp h
  have htoken := List.getElem?_eq_getElem hi
  exact ⟨_, (value?_of_bind h).mpr ⟨i, slot, _, hslot, htoken, rfl,
    (keeps_iff (hfits i slot _ hslot htoken)).mpr rfl⟩⟩

/-- Different slots have different names, so under the name of a slot there is a token of
its kind. -/
theorem kind_of_value? {held : Token} (hslot : slot ∈ u.slots)
    (hheld : a.value? slot.name = some held) : held.kind = slot.kind := by
  obtain ⟨i, other, token, hother, -, hname, hkeeps⟩ := (value?_of_bind h).mp hheld
  have hsame := List.inj_on_of_nodup_map u.orderly.nodup (List.mem_of_getElem? hother) hslot hname
  rw [hkeeps.kind, hsame]

theorem line_of_bind : a.directive = u.directive ∧ a.usage = u.line := by
  obtain ⟨-, -, -, rfl⟩ := bind_eq_ok_iff.mp h
  exact ⟨rfl, rfl⟩

theorem serves_of_read {α : Type} {expected : TokenKind} {token : α → Token}
    {read : Token → Option α} (hread : ∀ t x, read t = some x ↔ t = token x)
    (hkind : ∀ t : Token, t.kind = expected ↔ ∃ x, t = token x) {held : Token}
    (hheld : a.value? slot.name = some held) (hslot : held.kind = slot.kind) :
    u.Serves slot held expected token (a.reading slot.name expected read) := by
  constructor
  case content =>
    intro hexpected
    obtain ⟨x, hx⟩ := (hkind held).mp (hslot.trans hexpected)
    exact ⟨x, hx, Arguments.reading_of_some hheld ((hread held x).mpr hx)⟩
  case mismatch =>
    intro hother
    have hnone : read held = none := by
      refine Option.eq_none_iff_forall_not_mem.mpr fun x hx => hother ?_
      rw [← hslot]
      exact (hkind held).mpr ⟨x, (hread held x).mp hx⟩
    rw [Arguments.reading_of_none hheld hnone, hslot, (line_of_bind h).1, (line_of_bind h).2]

theorem readable_of_value? {held : Token} (hheld : a.value? slot.name = some held)
    (hslot : held.kind = slot.kind) : u.Readable a slot held := by
  constructor
  case kind => exact hslot
  case column | identifier | text | numeric | boolean =>
    refine serves_of_read h ?_ ?_ hheld hslot
    · intro t x
      cases t <;> simp [Token.column?, Token.identifier?, Token.text?, Token.numeric?,
        Token.boolean?]
    · intro t
      cases t <;> simp [Token.kind]
  case columns =>
    intro hkind
    cases held with
    | columnList names => exact ⟨names, rfl, Arguments.reading_of_some hheld rfl⟩
    | _ => cases hslot.trans hkind
  case columnsOfOne =>
    intro hkind
    cases held with
    | column name => exact ⟨name, rfl, Arguments.reading_of_some hheld rfl⟩
    | _ => cases hslot.trans hkind
  case columnsMismatch =>
    intro hlist hcolumn
    have hnone : held.columns? = none := by
      cases held with
      | columnList names => exact absurd hslot.symm hlist
      | column name => exact absurd hslot.symm hcolumn
      | _ => rfl
    rw [Arguments.columns, Arguments.reading_of_none hheld hnone, hslot, (line_of_bind h).1,
      (line_of_bind h).2]

theorem absent_of_value? {name : String} (hname : a.value? name = none) : u.Absent a name := by
  obtain ⟨hdirective, hline⟩ := line_of_bind h
  constructor
  all_goals
    rw [← hdirective, ← hline]
    exact Arguments.reading_of_absent hname

end

/-- The readers give what is bound, and say of everything else what is wrong with it. -/
structure WellTyped (u : Usage) (tokens : List Token) (a : Arguments) : Prop where
  bound : ∀ (i : Nat) (slot : Slot), i < tokens.length → u.slots[i]? = some slot →
    ∃ held, a.value? slot.name = some held ∧ u.Readable a slot held
  unbound : ∀ name, (∀ (i : Nat) (slot : Slot), i < tokens.length → u.slots[i]? = some slot →
    slot.name ≠ name) → u.Absent a name

theorem wellTyped (h : u.bind tokens = .ok a) : u.WellTyped tokens a := by
  constructor
  case bound =>
    intro i slot hi hslot
    obtain ⟨held, hheld⟩ := exists_value? h hslot hi
    exact ⟨held, hheld, readable_of_value? h hheld
      (kind_of_value? h (List.mem_of_getElem? hslot) hheld)⟩
  case unbound =>
    intro name hname
    refine absent_of_value? h (Option.eq_none_iff_forall_not_mem.mpr fun held hheld => ?_)
    obtain ⟨i, slot, token, hslot, htoken, heq, -⟩ := (value?_of_bind h).mp hheld
    exact hname i slot (List.getElem?_eq_some_iff.mp htoken).1 hslot heq

end Usage

namespace DateField

/-- A word for a part of a timestamp, in any case of letters. -/
def Keyword (word : String) : Prop :=
  ∃ entry ∈ keywords, String.ofList (Text.lower word.toList) = entry.2.1 ∨
    String.ofList (Text.lower word.toList) = entry.2.2

theorem ofKeyword?_eq_none_iff {word : String} : ofKeyword? word = none ↔ ¬Keyword word := by
  simp [ofKeyword?, Keyword, List.find?_eq_none]

end DateField

namespace BuiltIn

/-- The contents that a directive refuses. -/
inductive Rejects (a : Arguments) : BuiltIn → ScriptError → Prop where
  | keyword (source destination : String) (field : DateField) (word : String)
      (hop : a.value? "op" = some (.identifier word)) (hword : ¬DateField.Keyword word) :
      Rejects a (getDate source destination field)
        (.invalidArgument "get-date" "op" ("unknown date operation '" ++ word ++ "'"))
  | blank (column content : String) (hvalue : a.value? "value" = some (.text "")) :
      Rejects a (fill column content)
        (.invalidArgument "fill-null-or-empty" "value" "fill value must not be empty")

open Usage

variable {u : Usage} {tokens : List Token} {a : Arguments} (h : u.bind tokens = .ok a)
include h

/-- A directive finds a column in each of its slots for one. -/
theorem exists_column {i : Nat} {name : String}
    (hslot : u.slots[i]? = some (.required name .column)) : ∃ x, a.column name = .ok x := by
  obtain ⟨held, -, hread⟩ := (wellTyped h).bound i _ (lt_of_required h hslot rfl) hslot
  obtain ⟨x, -, hx⟩ := hread.column.content rfl
  exact ⟨x, hx⟩

theorem exists_columns {i : Nat} {name : String}
    (hslot : u.slots[i]? = some (.required name .columnList)) :
    ∃ names, a.columns name = .ok names := by
  obtain ⟨held, -, hread⟩ := (wellTyped h).bound i _ (lt_of_required h hslot rfl) hslot
  obtain ⟨names, -, hnames⟩ := hread.columns rfl
  exact ⟨names, hnames⟩

theorem fieldOf_eq_error_iff {i : Nat} (hslot : u.slots[i]? = some (.trailing "op" .identifier))
    {e : ScriptError} :
    fieldOf a = .error e ↔ ∃ word, a.value? "op" = some (.identifier word) ∧
      ¬DateField.Keyword word ∧
        e = .invalidArgument "get-date" "op" ("unknown date operation '" ++ word ++ "'") := by
  rw [fieldOf, Arguments.contains]
  cases hop : a.value? "op" with
  | none => simp
  | some held =>
      have hkind := kind_of_value? h (List.mem_of_getElem? hslot) hop
      cases held with
      | identifier word =>
          have hread : a.identifier "op" = .ok word := Arguments.reading_of_some hop rfl
          simp only [Option.isSome_some, if_true, hread, Option.some.injEq, Token.identifier.injEq,
            exists_eq_left', ← DateField.ofKeyword?_eq_none_iff]
          cases DateField.ofKeyword? word <;> simp [eq_comm]
      | _ => cases hkind

theorem contentOf_eq_error_iff {i : Nat} (hslot : u.slots[i]? = some (.required "value" .text))
    {e : ScriptError} :
    contentOf a = .error e ↔ a.value? "value" = some (.text "") ∧
      e = .invalidArgument "fill-null-or-empty" "value" "fill value must not be empty" := by
  obtain ⟨held, hheld, hread⟩ := (wellTyped h).bound i _ (lt_of_required h hslot rfl) hslot
  obtain ⟨content, rfl, hcontent⟩ := hread.text.content rfl
  change a.value? "value" = some (.text content) at hheld
  change a.text "value" = .ok content at hcontent
  rw [contentOf, hcontent, hheld]
  by_cases hempty : content = ""
  · subst hempty
    simpa using eq_comm
  · simp [hempty]

omit h in
theorem rejects_getDate_iff {source destination : String} {field : DateField}
    {e : ScriptError} :
    Rejects a (getDate source destination field) e ↔
      ∃ word, a.value? "op" = some (.identifier word) ∧ ¬DateField.Keyword word ∧
        e = .invalidArgument "get-date" "op" ("unknown date operation '" ++ word ++ "'") := by
  constructor
  · rintro ⟨⟩
    exact ⟨_, ‹_›, ‹_›, rfl⟩
  · rintro ⟨word, hop, hword, rfl⟩
    exact .keyword source destination field word hop hword

omit h in
theorem rejects_fill_iff {column content : String} {e : ScriptError} :
    Rejects a (fill column content) e ↔ a.value? "value" = some (.text "") ∧
      e = .invalidArgument "fill-null-or-empty" "value" "fill value must not be empty" := by
  constructor
  · rintro ⟨⟩
    exact ⟨‹_›, rfl⟩
  · rintro ⟨hvalue, rfl⟩
    exact .blank column content hvalue

/-- With arguments that its own usage has bound, a directive can only fail to be prepared
for what they contain. -/
theorem prepare_eq_error_iff {d : BuiltIn} (hd : d.define = .ok u) (e : ScriptError) :
    (prepare a d).2 = .error e ↔ Rejects a d e := by
  obtain ⟨-, hslots⟩ := parts_of_build hd
  have hslot (i : Nat) : u.slots[i]? = d.slots[i]? := by rw [hslots]
  cases d with
  | getDate source destination field =>
      obtain ⟨x, hx⟩ := exists_column h (hslot 0)
      obtain ⟨y, hy⟩ := exists_column h (hslot 1)
      rw [rejects_getDate_iff, ← fieldOf_eq_error_iff h (hslot 2), prepare]
      simp only [hx, hy]
      cases fieldOf a <;> simp
  | parseAsDate column =>
      obtain ⟨x, hx⟩ := exists_column h (hslot 0)
      refine iff_of_false ?_ nofun
      simp [prepare, hx]
  | rename source target =>
      obtain ⟨x, hx⟩ := exists_column h (hslot 0)
      obtain ⟨y, hy⟩ := exists_column h (hslot 1)
      refine iff_of_false ?_ nofun
      simp [prepare, hx, hy]
  | drop columns =>
      obtain ⟨names, hnames⟩ := exists_columns h (hslot 0)
      refine iff_of_false ?_ nofun
      simp [prepare, hnames]
  | fill column content =>
      obtain ⟨x, hx⟩ := exists_column h (hslot 0)
      rw [rejects_fill_iff, ← contentOf_eq_error_iff h (hslot 1), prepare]
      simp only [hx]
      cases contentOf a <;> simp

end BuiltIn

namespace Usage

/-- Every reader does on bound arguments what the usage says, so a built-in directive whose
own usage bound them is prepared unless it rejects what they contain. -/
theorem readers_of_bind {u : Usage} {tokens : List Token} {a : Arguments}
    (h : u.bind tokens = .ok a) :
    u.WellTyped tokens a ∧ ∀ d : BuiltIn, d.define = .ok u → ∀ e,
      (BuiltIn.prepare a d).2 = .error e ↔ BuiltIn.Rejects a d e :=
  ⟨wellTyped h, fun _ hd e => BuiltIn.prepare_eq_error_iff h hd e⟩

/-- All arguments are of the right kinds, but the keyword is for no part of a timestamp. -/
theorem readers_of_bind_of_unknown_keyword :
    ∃ u a, (BuiltIn.getDate "" "" .milliseconds).define = .ok u ∧
      u.bind [.column "a", .column "b", .identifier "decade"] = .ok a ∧
      u.WellTyped [.column "a", .column "b", .identifier "decade"] a ∧
      (BuiltIn.prepare a (.getDate "" "" .milliseconds)).2 =
        .error (.invalidArgument "get-date" "op" "unknown date operation 'decade'") := by
  have hdefine : (BuiltIn.getDate "" "" .milliseconds).define =
      .ok ⟨"get-date", BuiltIn.slots (.getDate "" "" .milliseconds), by decide⟩ := rfl
  have hbind : bind ⟨"get-date", BuiltIn.slots (.getDate "" "" .milliseconds), by decide⟩
      [.column "a", .column "b", .identifier "decade"] = .ok _ := rfl
  obtain ⟨htyped, hrejects⟩ := readers_of_bind hbind
  have hword : ¬DateField.Keyword "decade" := DateField.ofKeyword?_eq_none_iff.mp (by decide)
  exact ⟨_, _, hdefine, hbind, htyped,
    (hrejects _ hdefine _).mpr (.keyword "" "" .milliseconds "decade" rfl hword)⟩

end Usage

end RowScript
