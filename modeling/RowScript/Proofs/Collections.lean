import RowScript.Proofs.Members
import RowScript.Proofs.Scalars

/-!
Arrays and objects written and read again. A reader takes a value off its text, whatever
follows behind the end of the value; with blanks in front of the text it still does, so the
items may stand on lines of their own or not. Item by item, what is left of the text is what
stands behind the item, and with it the state of an object changes as its members are put
into it.
-/

namespace RowScript.Json

variable {α σ : Type}

/-- A text, which may start with blanks, from which a reader takes a value. -/
structure Written (reader : Reader α) (text : List Char) (x : α) : Prop where
  starts : ∃ c more, skipBlank text = c :: more ∧ c ≠ ']'
  takes : ∀ rest, Ends rest → reader (text ++ rest) = .ok (x, rest)

/-- Blanks in front of a text mean nothing to a reader. -/
def Skips (reader : Reader α) : Prop := ∀ text, reader (skipBlank text) = reader text

theorem blank_nil : Blank [] := List.forall_mem_nil _

theorem skipBlank_append_of_blank {gap : List Char} (h : Blank gap) (text : List Char) :
    skipBlank (gap ++ text) = skipBlank text := by
  rw [skipBlank, List.dropWhile_append, List.dropWhile_eq_nil_iff.mpr h]
  rfl

theorem skipBlank_append_of_cons {text more : List Char} {c : Char}
    (h : skipBlank text = c :: more) (rest : List Char) :
    skipBlank (text ++ rest) = c :: (more ++ rest) := by
  rw [skipBlank] at h ⊢
  rw [List.dropWhile_append, h]
  rfl

theorem skipBlank_of_not {c : Char} (h : isBlank c = false) (rest : List Char) :
    skipBlank (c :: rest) = c :: rest := by
  simp [skipBlank, h]

theorem skipBlank_skipBlank (text : List Char) : skipBlank (skipBlank text) = skipBlank text := by
  induction text with
  | nil => rfl
  | cons c text ih =>
      by_cases h : isBlank c = true
      · have hskip : skipBlank (c :: text) = skipBlank text := List.dropWhile_cons_of_pos h
        rw [hskip, ih]
      · rw [skipBlank_of_not (Bool.eq_false_iff.mpr h), skipBlank_of_not (Bool.eq_false_iff.mpr h)]

theorem ends_behind_gap {gap : List Char} (h : Blank gap) {c : Char} (hc : c ∈ closers)
    (rest : List Char) : Ends (gap ++ c :: rest) := by
  cases gap with
  | nil => exact ends_cons.mpr hc
  | cons b gap =>
      have hb := h b List.mem_cons_self
      simp only [isBlank, Bool.or_eq_true, beq_iff_eq] at hb
      rw [List.cons_append, ends_cons]
      obtain ((rfl | rfl) | rfl) | rfl := hb <;> decide

theorem Written.behind_gap {reader : Reader α} {text gap : List Char} {x : α}
    (hskip : Skips reader) (hgap : Blank gap) (h : Written reader text x) :
    Written reader (gap ++ text) x := by
  constructor
  case starts =>
    rw [skipBlank_append_of_blank hgap]
    exact h.starts
  case takes =>
    intro rest hrest
    rw [List.append_assoc, ← hskip, skipBlank_append_of_blank hgap, hskip]
    exact h.takes rest hrest

/-- The pieces of an array or object behind others, each behind a comma. -/
def further (pieces : List (List Char)) : List Char := pieces.flatMap (',' :: ·)

theorem further_cons (piece : List Char) (pieces : List (List Char)) (rest : List Char) :
    further (piece :: pieces) ++ rest = ',' :: (piece ++ (further pieces ++ rest)) := by
  simp [further]

theorem length_further_cons (piece : List Char) (pieces : List (List Char)) :
    (further (piece :: pieces)).length = piece.length + (further pieces).length + 1 := by
  simp [further]

theorem intercalate_cons (piece : List Char) (pieces : List (List Char)) :
    [','].intercalate (piece :: pieces) = piece ++ further pieces := by
  induction pieces generalizing piece with
  | nil => simp [further]
  | cons other pieces ih =>
      rw [List.intercalate_cons_cons, ih]
      simp [further]

theorem ends_further (pieces : List (List Char)) {rest : List Char} (h : Ends rest) :
    Ends (further pieces ++ rest) := by
  cases pieces with
  | nil => exact h
  | cons piece pieces =>
      rw [further_cons, ends_cons]
      decide

section Next

variable {close : Char} {first : Bool} {gap text more : List Char} {c : Char}

theorem next_close (hclose : isBlank close = false) (hgap : Blank gap) (rest : List Char) :
    next close first (gap ++ close :: rest) = .ok (.closed rest) := by
  rw [next, skipBlank_append_of_blank hgap, skipBlank_of_not hclose]
  simp

theorem next_comma (hclose : close ≠ ',') (h : skipBlank text = c :: more) (hc : c ≠ close) :
    next close false (',' :: text) = .ok (.more (skipBlank text)) := by
  simp [next, skipBlank_of_not, h, hc, hclose.symm, isBlank]

/-- The first piece is read as if it stood behind a comma. -/
theorem next_first (hclose : close ≠ ',') (h : skipBlank text = c :: more) (hc : c ≠ close) :
    next close true text = next close false (',' :: text) := by
  rw [next_comma hclose h hc]
  simp [next, h, hc]

end Next

section Items

variable {item : Reader α} {texts : List (List Char)} {xs : List α} {gap : List Char}

theorem items_first {text more : List Char} {c : Char} (h : skipBlank text = c :: more)
    (hc : c ≠ ']') (fuel : Nat) :
    items item fuel true text = items item fuel false (',' :: text) := by
  cases fuel with
  | zero => rfl
  | succ fuel => rw [items, items, next_first (by decide) h hc]

theorem items_further (hskip : Skips item) (h : List.Forall₂ (Written item) texts xs)
    (hgap : Blank gap) (rest : List Char) {fuel : Nat} (hfuel : (further texts).length < fuel) :
    items item fuel false (further texts ++ (gap ++ ']' :: rest)) = .ok (xs, rest) := by
  induction h generalizing fuel with
  | nil =>
      obtain ⟨fuel, rfl⟩ := Nat.exists_eq_add_one.mpr (Nat.zero_lt_of_lt hfuel)
      rw [further, List.flatMap_nil, List.nil_append, items, next_close (by decide) hgap]
  | @cons text x texts xs hwritten _ ih =>
      obtain ⟨fuel, rfl⟩ := Nat.exists_eq_add_one.mpr (Nat.zero_lt_of_lt hfuel)
      have hlength : (further texts).length < fuel := by
        rw [length_further_cons] at hfuel
        omega
      have hends : Ends (further texts ++ (gap ++ ']' :: rest)) :=
        ends_further texts (ends_behind_gap hgap (by decide) rest)
      obtain ⟨c, more, hstart, hc⟩ := hwritten.starts
      rw [further_cons, items, next_comma (by decide) (skipBlank_append_of_cons hstart _) hc]
      simp only [hskip _, hwritten.takes _ hends, ih hlength]

theorem array_joined (hskip : Skips item) (h : List.Forall₂ (Written item) texts xs)
    (hgap : Blank gap) (rest : List Char) :
    array item ([','].intercalate texts ++ (gap ++ ']' :: rest)) = .ok (xs, rest) := by
  cases h with
  | nil => rw [List.intercalate_nil, List.nil_append, array, items, next_close (by decide) hgap]
  | @cons text x texts xs hwritten hrest =>
      obtain ⟨c, more, hstart, hc⟩ := hwritten.starts
      rw [intercalate_cons, List.append_assoc, array,
        items_first (skipBlank_append_of_cons hstart _) hc, ← further_cons]
      refine items_further hskip (.cons hwritten hrest) hgap rest ?_
      simp only [length_further_cons, List.length_append, List.length_cons]
      omega

end Items

section Members

variable {value : Reader α} {put : σ → String → α → σ} {texts : List (List Char)}
  {kept : List (String × α)} {gap : List Char}

/-- A member is written as its key, a colon and the text of its value. -/
inductive Member (value : Reader α) : List Char → String × α → Prop where
  | intro {gap text : List Char} {x : α} (key : String) (hgap : Blank gap)
      (h : Written value text x) : Member value (gap ++ (stringText key ++ ':' :: text)) (key, x)

/-- The text of a member behind blanks and the opening quote of its key. -/
theorem Member.exists_key {text : List Char} {member : String × α} (h : Member value text member) :
    ∃ written, Written value written member.2 ∧
      skipBlank text = '"' :: (member.1.toList.flatMap escapeChar ++ '"' :: ':' :: written) := by
  obtain @⟨gap, text, x, key, hgap, hwritten⟩ := h
  refine ⟨text, hwritten, ?_⟩
  rw [skipBlank_append_of_blank hgap, stringText, List.cons_append, List.cons_append,
    skipBlank_of_not (by decide)]
  simp

theorem takeMember_append {key : String} {text : List Char} {x : α} (h : Written value text x)
    (state : σ) {rest : List Char} (hrest : Ends rest) :
    takeMember value put state key (':' :: (text ++ rest)) = .ok (put state key x, rest) := by
  rw [takeMember, memberValue, expectColon, skipBlank_of_not (by decide)]
  simp only [h.takes rest hrest]

theorem members_first {text more : List Char} {c : Char} (h : skipBlank text = c :: more)
    (hc : c ≠ '\x7d') (fuel : Nat) (member : σ → String → Reader σ) (state : σ) :
    members member fuel true state text = members member fuel false state (',' :: text) := by
  cases fuel with
  | zero => rfl
  | succ fuel => rw [members, members, next_first (by decide) h hc]

theorem members_further (h : List.Forall₂ (Member value) texts kept) (hgap : Blank gap)
    (rest : List Char) {fuel : Nat} (hfuel : (further texts).length < fuel) (state : σ) :
    members (takeMember value put) fuel false state (further texts ++ (gap ++ '\x7d' :: rest)) =
      .ok (putAll put state kept, rest) := by
  induction h generalizing fuel state with
  | nil =>
      obtain ⟨fuel, rfl⟩ := Nat.exists_eq_add_one.mpr (Nat.zero_lt_of_lt hfuel)
      rw [further, List.flatMap_nil, List.nil_append, members, next_close (by decide) hgap]
      rfl
  | @cons text member texts kept hmember _ ih =>
      obtain ⟨fuel, rfl⟩ := Nat.exists_eq_add_one.mpr (Nat.zero_lt_of_lt hfuel)
      have hlength : (further texts).length < fuel := by
        rw [length_further_cons] at hfuel
        omega
      have hends : Ends (further texts ++ (gap ++ '\x7d' :: rest)) :=
        ends_further texts (ends_behind_gap hgap (by decide) rest)
      obtain ⟨written, hwritten, hkey⟩ := hmember.exists_key
      have hnext := skipBlank_append_of_cons hkey (further texts ++ (gap ++ '\x7d' :: rest))
      have hstring := string_append member.1
        (':' :: (written ++ (further texts ++ (gap ++ '\x7d' :: rest))))
      rw [further_cons, members, next_comma (by decide) hnext (by decide), hnext]
      simp only [List.append_assoc, List.cons_append, hstring, takeMember_append hwritten _ hends,
        ih hlength]
      rfl

theorem object_joined (put : σ → String → α → σ) (start : σ)
    (h : List.Forall₂ (Member value) texts kept) (hgap : Blank gap) (rest : List Char) :
    object (takeMember value put) start ([','].intercalate texts ++ (gap ++ '\x7d' :: rest)) =
      .ok (putAll put start kept, rest) := by
  cases h with
  | nil =>
      rw [List.intercalate_nil, List.nil_append, object, members, next_close (by decide) hgap]
      rfl
  | @cons text member texts kept hmember hrest =>
      obtain ⟨written, hwritten, hkey⟩ := hmember.exists_key
      rw [intercalate_cons, List.append_assoc, object,
        members_first (skipBlank_append_of_cons hkey _) (by decide), ← further_cons]
      refine members_further (.cons hmember hrest) hgap rest ?_ start
      simp only [length_further_cons, List.length_append, List.length_cons]
      omega

end Members

end RowScript.Json
