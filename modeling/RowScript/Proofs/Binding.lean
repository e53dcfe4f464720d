import Mathlib.Data.List.Nodup
import RowScript.Dictionary
import RowScript.Usage.Basic

/-!
Binding goes by places. The slots of a usage have different names and the optional ones
stand last, so the token at a place belongs to the slot at the same place, whatever the
slots are called and however many tokens there are. Which tokens are bound, and what is
wrong with the others, can therefore be told from the two lists side by side.
-/

namespace RowScript

namespace Usage

/-- Slots of different names, the optional ones behind all others. -/
structure Orderly (slots : List Slot) : Prop where
  nodup : (slots.map Slot.name).Nodup
  trailing : slots.Pairwise fun slot later => slot.optional = true → later.optional = true

theorem orderly_cons {slot : Slot} {slots : List Slot} :
    Orderly (slot :: slots) ↔ slot.name ∉ slots.map Slot.name ∧
      (slot.optional = true → ∀ later ∈ slots, later.optional = true) ∧ Orderly slots := by
  constructor
  · intro ⟨hnodup, htrailing⟩
    obtain ⟨hname, hnames⟩ := List.nodup_cons.mp hnodup
    obtain ⟨hslot, hslots⟩ := List.pairwise_cons.mp htrailing
    exact ⟨hname, fun hoptional later hlater => hslot later hlater hoptional, hnames, hslots⟩
  · intro ⟨hname, hslot, hnames, hslots⟩
    exact ⟨List.nodup_cons.mpr ⟨hname, hnames⟩,
      List.pairwise_cons.mpr ⟨fun later hlater hoptional => hslot hoptional later hlater, hslots⟩⟩

/-- What was seen in front grows by each slot, so a slot stands against all before it. -/
theorem orderly_of_fault? {seen : List String} {optionalSeen : Bool} {slots : List Slot}
    (h : fault? seen optionalSeen slots = none) :
    Orderly slots ∧ (∀ slot ∈ slots, slot.name ∉ seen) ∧
      (optionalSeen = true → ∀ slot ∈ slots, slot.optional = true) := by
  induction slots generalizing seen optionalSeen with
  | nil => exact ⟨⟨.nil, .nil⟩, nofun, fun _ => nofun⟩
  | cons slot slots ih =>
      rw [fault?] at h
      split at h
      · cases h
      · rename_i hseen
        split at h
        · cases h
        · rename_i hplace
          obtain ⟨horderly, hnames, htrailing⟩ := ih h
          have hslot : optionalSeen = true → slot.optional = true := by
            intro hoptional
            simpa [hoptional] using hplace
          refine ⟨orderly_cons.mpr ⟨?_, ?_, horderly⟩, ?_, ?_⟩
          · intro hmem
            obtain ⟨later, hlater, hname⟩ := List.mem_map.mp hmem
            exact hnames later hlater (hname ▸ List.mem_cons_self)
          · intro hoptional
            exact htrailing (by rw [hoptional, Bool.true_or])
          · exact List.forall_mem_cons.mpr ⟨hseen, fun later hlater hmem =>
              hnames later hlater (List.mem_cons_of_mem _ hmem)⟩
          · intro hoptional
            exact List.forall_mem_cons.mpr ⟨hslot hoptional,
              htrailing (by rw [hoptional, Bool.or_true])⟩

theorem parts_of_build {directive : String} {slots : List Slot} {u : Usage}
    (h : build directive slots = .ok u) : u.directive = directive ∧ u.slots = slots := by
  rw [build] at h
  split at h
  · cases h
    exact ⟨rfl, rfl⟩
  · cases h

theorem orderly (u : Usage) : Orderly u.slots :=
  (orderly_of_fault? u.faultless).1

/-- Slots can be left out from a place on if it is behind the required ones. -/
theorem required_le_iff {slots : List Slot} (h : Orderly slots) (n : Nat) :
    (slots.filter (!·.optional)).length ≤ n ↔
      ∀ slot ∈ slots.drop n, slot.optional = true := by
  induction slots generalizing n with
  | nil => simp
  | cons slot slots ih =>
      obtain ⟨-, hslot, hslots⟩ := orderly_cons.mp h
      cases hoptional : slot.optional with
      | true =>
          have hall : ∀ later ∈ slot :: slots, later.optional = true :=
            List.forall_mem_cons.mpr ⟨hoptional, hslot hoptional⟩
          have hnone : (slot :: slots).filter (!·.optional) = [] :=
            List.filter_eq_nil_iff.mpr fun later hlater => by simp [hall later hlater]
          rw [hnone]
          exact iff_of_true (Nat.zero_le n) fun later hlater =>
            hall later (List.mem_of_mem_drop hlater)
      | false =>
          cases n with
          | zero => simp [hoptional]
          | succ n => simpa [hoptional] using ih hslots n

/-- As far as there are both, every token is of a kind that the slot at its place takes. -/
def Fits (slots : List Slot) (tokens : List Token) : Prop :=
  ∀ (i : Nat) (slot : Slot) (token : Token), slots[i]? = some slot → tokens[i]? = some token →
    slot.kind.accepts token.kind = true

theorem fits_nil (slots : List Slot) : Fits slots [] := nofun

theorem fits_cons {slot : Slot} {slots : List Slot} {token : Token} {tokens : List Token} :
    Fits (slot :: slots) (token :: tokens) ↔
      slot.kind.accepts token.kind = true ∧ Fits slots tokens := by
  constructor
  · intro h
    exact ⟨h 0 slot token rfl rfl, fun i => h (i + 1)⟩
  · intro ⟨hhead, htail⟩ i
    cases i with
    | zero =>
        rintro _ _ ⟨⟩ ⟨⟩
        exact hhead
    | succ i => exact htail i

/-- A slot keeps a token of its own kind as it is, and a column as a list of one. -/
inductive Keeps : TokenKind → Token → Token → Prop where
  | same {kind : TokenKind} {token : Token} (h : token.kind = kind) : Keeps kind token token
  | single (name : String) : Keeps .columnList (.column name) (.columnList [name])

theorem keeps_iff {kind : TokenKind} {token held : Token}
    (h : kind.accepts token.kind = true) : Keeps kind token held ↔ held = widen kind token := by
  simp only [TokenKind.accepts, Bool.or_eq_true, Bool.and_eq_true, decide_eq_true_eq] at h
  obtain rfl | ⟨rfl, hcolumn⟩ := h
  · have hkept : widen token.kind token = token := by
      cases token <;> rfl
    rw [hkept]
    constructor
    · intro hkeeps
      generalize hkind : token.kind = kind at hkeeps
      cases hkeeps with
      | same => rfl
      | single name => cases hkind
    · rintro rfl
      exact .same rfl
  · cases token with
    | column name =>
        constructor
        · rintro (⟨⟨⟩⟩ | _)
          rfl
        · rintro rfl
          exact .single name
    | _ => cases hcolumn

theorem Keeps.kind {kind : TokenKind} {token held : Token} (h : Keeps kind token held) :
    held.kind = kind := by
  cases h with
  | same h => exact h
  | single name => rfl

/-- The tokens under the names of the slots at their places. -/
def entries (slots : List Slot) (tokens : List Token) : List (String × Token) :=
  List.zipWith (fun slot token => (slot.name, widen slot.kind token)) slots tokens

variable {u : Usage} {slots : List Slot} {tokens : List Token}

theorem bindSlots_eq_ok_iff {values : List (String × Token)} :
    u.bindSlots slots tokens = .ok values ↔
      tokens.length ≤ slots.length ∧ Fits slots tokens ∧
        (∀ slot ∈ slots.drop tokens.length, slot.optional = true) ∧
          values = entries slots tokens := by
  fun_induction bindSlots u slots tokens generalizing values with
  | case1 =>
      constructor
      · rintro ⟨⟩
        exact ⟨Nat.le_refl _, fits_nil _, nofun, rfl⟩
      · rintro ⟨-, -, -, rfl⟩
        rfl
  | case2 => simp
  | case3 slot slots hoptional ih => simp [ih, hoptional, fits_nil, entries]
  | case4 slot slots hrequired => simp [hrequired]
  | case5 slot slots token tokens haccepts cause hrest ih =>
      simp only [hrest, reduceCtorEq, false_iff] at ih ⊢
      rintro ⟨hlength, hfits, htrailing, -⟩
      exact ih ⟨Nat.le_of_succ_le_succ hlength, (fits_cons.mp hfits).2, htrailing, rfl⟩
  | case6 slot slots token tokens haccepts kept hrest ih =>
      obtain ⟨hlength, hfits, htrailing, rfl⟩ := ih.mp hrest
      simp only [Except.ok.injEq, entries, List.zipWith_cons_cons]
      constructor
      · rintro rfl
        exact ⟨Nat.succ_le_succ hlength, fits_cons.mpr ⟨haccepts, hfits⟩, htrailing, rfl⟩
      · rintro ⟨-, -, -, rfl⟩
        rfl
  | case7 slot slots token tokens haccepts =>
      simp only [reduceCtorEq, false_iff]
      exact fun h => haccepts (fits_cons.mp h.2.1).1

/-- The first thing that is wrong with the tokens. A token of a kind that its slot does not
take comes before a number of tokens that does not suit the slots. -/
inductive Refuses (u : Usage) (slots : List Slot) (tokens : List Token) : ScriptError → Prop where
  | mismatch (i : Nat) (slot : Slot) (token : Token) (hslot : slots[i]? = some slot)
      (htoken : tokens[i]? = some token) (hkind : slot.kind.accepts token.kind = false)
      (hfirst : Fits (slots.take i) tokens) :
      Refuses u slots tokens
        (.typeMismatch u.directive slot.name slot.kind token.kind u.line)
  | missing (slot : Slot) (hfits : Fits slots tokens)
      (hslot : slots[tokens.length]? = some slot) (hrequired : slot.optional = false) :
      Refuses u slots tokens (.missingArgument u.directive slot.name u.line)
  | surplus (token : Token) (hfits : Fits slots tokens)
      (htoken : tokens[slots.length]? = some token) :
      Refuses u slots tokens (.unexpectedArgument u.directive token.display u.line)

theorem Refuses.cons {slot : Slot} {token : Token} {e : ScriptError}
    (h : u.Refuses slots tokens e) (haccepts : slot.kind.accepts token.kind = true) :
    u.Refuses (slot :: slots) (token :: tokens) e := by
  cases h with
  | mismatch i other held hslot htoken hkind hfirst =>
      exact .mismatch (i + 1) other held hslot htoken hkind (fits_cons.mpr ⟨haccepts, hfirst⟩)
  | missing other hfits hslot hrequired =>
      exact .missing other (fits_cons.mpr ⟨haccepts, hfits⟩) hslot hrequired
  | surplus held hfits htoken =>
      exact .surplus held (fits_cons.mpr ⟨haccepts, hfits⟩) htoken

theorem refuses_of_bindSlots {e : ScriptError} (horderly : Orderly slots)
    (h : u.bindSlots slots tokens = .error e) : u.Refuses slots tokens e := by
  fun_induction bindSlots u slots tokens with
  | case1 => cases h
  | case2 extra tokens =>
      cases h
      exact .surplus extra (by simp [Fits]) rfl
  | case3 slot slots hoptional ih =>
      obtain ⟨-, hbehind, -⟩ := orderly_cons.mp horderly
      have hok : u.bindSlots slots [] = .ok [] :=
        bindSlots_eq_ok_iff.mpr
          ⟨Nat.zero_le _, fits_nil slots, hbehind hoptional, by simp [entries]⟩
      rw [hok] at h
      cases h
  | case4 slot slots hrequired =>
      cases h
      exact .missing slot (fits_nil _) rfl (Bool.eq_false_iff.mpr hrequired)
  | case5 slot slots token tokens haccepts cause hrest ih =>
      cases h
      exact (ih (orderly_cons.mp horderly).2.2 hrest).cons haccepts
  | case6 => cases h
  | case7 slot slots token tokens hrefuses =>
      cases h
      exact .mismatch 0 slot token rfl rfl (Bool.eq_false_iff.mpr hrefuses) (by simp [Fits])

/-- A token that its slot does not take stands behind all places up to which the tokens
fit. -/
theorem le_of_fits {i j : Nat} {slot : Slot} {token : Token} (hslot : slots[i]? = some slot)
    (htoken : tokens[i]? = some token) (hkind : slot.kind.accepts token.kind = false)
    (h : Fits (slots.take j) tokens) : j ≤ i := by
  by_contra hlt
  have hfront : (slots.take j)[i]? = some slot := by
    rw [List.getElem?_take_of_lt (Nat.lt_of_not_le hlt), hslot]
  exact Bool.noConfusion (hkind.symm.trans (h i slot token hfront htoken))

theorem not_fits {i : Nat} {slot : Slot} {token : Token} (hslot : slots[i]? = some slot)
    (htoken : tokens[i]? = some token) (hkind : slot.kind.accepts token.kind = false) :
    ¬Fits slots tokens :=
  fun h => Bool.noConfusion (hkind.symm.trans (h i slot token hslot htoken))

theorem Refuses.unique {e other : ScriptError} (h : u.Refuses slots tokens e)
    (ho : u.Refuses slots tokens other) : e = other := by
  have balanced {slot : Slot} {token : Token} (hslot : slots[tokens.length]? = some slot)
      (htoken : tokens[slots.length]? = some token) : False := by
    have hless := (List.getElem?_eq_some_iff.mp hslot).1
    have hmore := (List.getElem?_eq_some_iff.mp htoken).1
    omega
  cases h with
  | mismatch i slot token hslot htoken hkind hfirst =>
      cases ho with
      | mismatch j later held hlater hheld hrefused hbefore =>
          have hplace : i = j := Nat.le_antisymm (le_of_fits hlater hheld hrefused hfirst)
            (le_of_fits hslot htoken hkind hbefore)
          subst hplace
          obtain rfl := Option.some.inj (hslot.symm.trans hlater)
          obtain rfl := Option.some.inj (htoken.symm.trans hheld)
          rfl
      | missing _ hfits | surplus _ hfits => exact absurd hfits (not_fits hslot htoken hkind)
  | missing slot hfits hslot =>
      cases ho with
      | mismatch _ _ _ hother hheld hkind => exact absurd hfits (not_fits hother hheld hkind)
      | missing _ _ hother =>
          obtain rfl := Option.some.inj (hslot.symm.trans hother)
          rfl
      | surplus _ _ hheld => exact (balanced hslot hheld).elim
  | surplus token hfits htoken =>
      cases ho with
      | mismatch _ _ _ hother hheld hkind => exact absurd hfits (not_fits hother hheld hkind)
      | missing _ _ hslot => exact (balanced hslot htoken).elim
      | surplus _ _ hheld =>
          obtain rfl := Option.some.inj (htoken.symm.trans hheld)
          rfl

theorem Refuses.not_bound {e : ScriptError} (h : u.Refuses slots tokens e)
    (values : List (String × Token)) : u.bindSlots slots tokens ≠ .ok values := by
  intro hok
  obtain ⟨hlength, hfits, htrailing, -⟩ := bindSlots_eq_ok_iff.mp hok
  cases h with
  | mismatch _ _ _ hslot htoken hkind => exact not_fits hslot htoken hkind hfits
  | missing slot _ hslot hrequired =>
      have hbehind : slot ∈ slots.drop tokens.length :=
        List.mem_of_getElem? (i := 0) (by simpa using hslot)
      exact Bool.noConfusion (hrequired.symm.trans (htrailing slot hbehind))
  | surplus _ _ htoken =>
      have := (List.getElem?_eq_some_iff.mp htoken).1
      omega

theorem bindSlots_eq_error_iff (horderly : Orderly slots) {e : ScriptError} :
    u.bindSlots slots tokens = .error e ↔ u.Refuses slots tokens e := by
  constructor
  · exact refuses_of_bindSlots horderly
  · intro h
    cases hresult : u.bindSlots slots tokens with
    | error cause => rw [(refuses_of_bindSlots horderly hresult).unique h]
    | ok values => exact absurd hresult (h.not_bound values)

theorem map_fst_entries (slots : List Slot) (tokens : List Token) :
    (entries slots tokens).map Prod.fst = (slots.map Slot.name).take tokens.length := by
  induction slots generalizing tokens with
  | nil => simp [entries]
  | cons slot slots ih =>
      cases tokens with
      | nil => rfl
      | cons token tokens => simpa [entries] using ih tokens

theorem mem_entries_iff (hfits : Fits slots tokens) {name : String} {held : Token} :
    (name, held) ∈ entries slots tokens ↔
      ∃ (i : Nat) (slot : Slot) (token : Token), slots[i]? = some slot ∧
        tokens[i]? = some token ∧ slot.name = name ∧ Keeps slot.kind token held := by
  rw [List.mem_iff_getElem?]
  refine exists_congr fun i => ?_
  rw [entries, List.getElem?_zipWith_eq_some]
  refine exists_congr fun slot => exists_congr fun token => ?_
  refine and_congr_right fun hslot => and_congr_right fun htoken => ?_
  rw [keeps_iff (hfits i slot token hslot htoken), Prod.mk.injEq, eq_comm (b := held)]

/-- The arguments that tokens are bound to. -/
theorem bind_eq_ok_iff {a : Arguments} :
    u.bind tokens = .ok a ↔ u.required ≤ tokens.length ∧ tokens.length ≤ u.slots.length ∧
      Fits u.slots tokens ∧ a = ⟨u.directive, u.line, entries u.slots tokens⟩ := by
  have hbind : u.bind tokens = .ok a ↔
      ∃ values, u.bindSlots u.slots tokens = .ok values ∧ a = ⟨u.directive, u.line, values⟩ := by
    rw [bind]
    cases u.bindSlots u.slots tokens <;> simp [eq_comm]
  rw [hbind, required, required_le_iff u.orderly]
  simp only [bindSlots_eq_ok_iff]
  constructor
  · rintro ⟨_, ⟨hlength, hfits, htrailing, rfl⟩, rfl⟩
    exact ⟨htrailing, hlength, hfits, rfl⟩
  · rintro ⟨htrailing, hlength, hfits, rfl⟩
    exact ⟨_, ⟨hlength, hfits, htrailing, rfl⟩, rfl⟩

theorem bind_eq_error_iff {e : ScriptError} :
    u.bind tokens = .error e ↔ u.Refuses u.slots tokens e := by
  rw [← bindSlots_eq_error_iff u.orderly, bind]
  cases u.bindSlots u.slots tokens <;> simp

section

variable {a : Arguments} (h : u.bind tokens = .ok a)
include h

theorem names_of_bind : (a.values.map Prod.fst) = (u.slots.map Slot.name).take tokens.length := by
  obtain ⟨-, -, -, rfl⟩ := bind_eq_ok_iff.mp h
  exact map_fst_entries u.slots tokens

theorem nodup_of_bind : (a.values.map Prod.fst).Nodup := by
  rw [names_of_bind h]
  exact u.orderly.nodup.sublist (List.take_sublist _ _)

theorem value?_of_bind {name : String} {held : Token} :
    a.value? name = some held ↔
      ∃ (i : Nat) (slot : Slot) (token : Token), u.slots[i]? = some slot ∧
        tokens[i]? = some token ∧ slot.name = name ∧ Keeps slot.kind token held := by
  rw [Arguments.value?, Entries.lookup_eq_some_iff (nodup_of_bind h)]
  obtain ⟨-, -, hfits, rfl⟩ := bind_eq_ok_iff.mp h
  exact mem_entries_iff hfits

end

/-- The tokens belong to the slots at their places. -/
structure Positional (u : Usage) (tokens : List Token) : Prop where
  ok_iff : (∃ a, u.bind tokens = .ok a) ↔
    u.required ≤ tokens.length ∧ tokens.length ≤ u.slots.length ∧ Fits u.slots tokens
  size : ∀ a, u.bind tokens = .ok a →
    a.size = tokens.length ∧ (a.values.map Prod.fst).Nodup
  value : ∀ a, u.bind tokens = .ok a → ∀ name held, a.value? name = some held ↔
    ∃ (i : Nat) (slot : Slot) (token : Token), u.slots[i]? = some slot ∧
      tokens[i]? = some token ∧ slot.name = name ∧ Keeps slot.kind token held
  error_iff : ∀ e, u.bind tokens = .error e ↔ u.Refuses u.slots tokens e

/-- Whatever slots a usage can be built from, tokens are bound to them place by place. -/
theorem positional_of_build {directive : String} {slots : List Slot}
    (h : build directive slots = .ok u) (tokens : List Token) :
    u.directive = directive ∧ u.slots = slots ∧ u.Positional tokens := by
  obtain ⟨hdirective, hslots⟩ := parts_of_build h
  refine ⟨hdirective, hslots, ?_⟩
  constructor
  case ok_iff =>
    simp only [bind_eq_ok_iff, exists_and_left, exists_eq, and_true]
  case size =>
    intro a ha
    obtain ⟨-, hlength, -, rfl⟩ := bind_eq_ok_iff.mp ha
    refine ⟨?_, nodup_of_bind ha⟩
    rw [Arguments.size, entries, List.length_zipWith, Nat.min_eq_right hlength]
  case value => exact fun a ha name held => value?_of_bind ha
  case error_iff => exact fun e => bind_eq_error_iff

/-- A single column in the slot of a list, and an optional slot without a token. -/
theorem positional_of_build_of_single_column :
    ∃ u, build "inert" [.required "flag" .boolean, .required "n" .numeric,
        .trailing "cols" .columnList, .trailing "note" .text] = .ok u ∧
      u.Positional [.boolean true, .numeric (.int 3), .column "a"] ∧
      ∃ a, u.bind [.boolean true, .numeric (.int 3), .column "a"] = .ok a ∧
        a.value? "cols" = some (.columnList ["a"]) ∧ a.value? "note" = none := by
  have hbuild : build "inert" [.required "flag" .boolean, .required "n" .numeric,
      .trailing "cols" .columnList, .trailing "note" .text] = .ok ⟨"inert",
        [.required "flag" .boolean, .required "n" .numeric, .trailing "cols" .columnList,
          .trailing "note" .text], by decide⟩ := rfl
  exact ⟨_, hbuild, (positional_of_build hbuild _).2.2, _, rfl, rfl, rfl⟩

end Usage

end RowScript
