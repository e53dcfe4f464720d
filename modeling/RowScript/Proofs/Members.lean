import Mathlib.Data.List.Induction
import Mathlib.Data.List.TakeWhile
import RowScript.Proofs.Columns
import RowScript.Row.Json

/-!
The members of a JSON object. An object is read by taking its members into a state one
after the other, and so the same is read as by keeping all of them, in the order of the
text and with names that come twice, and taking them afterwards. A row takes a member by
setting a column, which leaves the first place and the last value of every name.
-/

namespace RowScript

namespace Json

variable {σ α : Type}

/-- Read the value of a member and put it into the state under its key. -/
def takeMember (value : Reader α) (put : σ → String → α → σ) (state : σ) (key : String) :
    Reader σ := fun source =>
  match memberValue value source with
  | .error e => .error e
  | .ok (x, rest) => .ok (put state key x, rest)

def putAll (put : σ → String → α → σ) (start : σ) (taken : List (String × α)) : σ :=
  taken.foldl (fun state member => put state member.1 member.2) start

/-- The members of an object as they come, with none left out. -/
def keepMember (value : Reader α) : List (String × α) → String → Reader (List (String × α)) :=
  takeMember value fun seen key x => seen ++ [(key, x)]

variable {value : Reader α} {put : σ → String → α → σ} {start : σ}

theorem takeMember_eq (seen : List (String × α)) (key : String) (text : List Char) :
    takeMember value put (putAll put start seen) key text =
      (keepMember value seen key text).map fun kept => (putAll put start kept.1, kept.2) := by
  rw [takeMember, keepMember, takeMember]
  cases memberValue value text with
  | error e => rfl
  | ok read => simp [Except.map, putAll]

/-- At every member the state is what the members kept so far come to. -/
theorem members_eq (fuel : Nat) (first : Bool) (seen : List (String × α)) (text : List Char) :
    members (takeMember value put) fuel first (putAll put start seen) text =
      (members (keepMember value) fuel first seen text).map
        fun kept => (putAll put start kept.1, kept.2) := by
  induction fuel generalizing first seen text with
  | zero => rfl
  | succ fuel ih =>
      simp only [members]
      split
      · rfl
      · rfl
      · split
        · rfl
        · rw [takeMember_eq]
          cases keepMember value seen _ _ with
          | error e => rfl
          | ok kept => exact ih false kept.1 kept.2
      · rfl

theorem object_eq (value : Reader α) (put : σ → String → α → σ) (start : σ)
    (text : List Char) :
    object (takeMember value put) start text =
      (object (keepMember value) [] text).map fun kept => (putAll put start kept.1, kept.2) :=
  members_eq _ true [] text

def Blank (gap : List Char) : Prop := ∀ c ∈ gap, isBlank c = true

theorem exists_gap (text : List Char) : ∃ gap, Blank gap ∧ text = gap ++ skipBlank text :=
  ⟨text.takeWhile isBlank, fun _ hc => List.mem_takeWhile_imp hc,
    List.takeWhile_append_dropWhile.symm⟩

theorem blank_of_skipBlank {text : List Char} (h : skipBlank text = []) : Blank text :=
  List.dropWhile_eq_nil_iff.mp h

/-- What stands in front of an item: white space and, from the second item on, a comma. -/
inductive Lead : Bool → List Char → Prop where
  | first {gap : List Char} (hgap : Blank gap) : Lead true gap
  | further {gap behind : List Char} (hgap : Blank gap) (hbehind : Blank behind) :
      Lead false (gap ++ ',' :: behind)

/-- The items of an array stand in a text one behind the other, each where the text that the
item in front of it takes has ended, and behind the closing bracket stands the rest. -/
inductive Listed (takes : List Char → α → List Char → Prop) :
    Bool → List Char → List α → List Char → Prop where
  | closed {first : Bool} {gap rest : List Char} (hgap : Blank gap) :
      Listed takes first (gap ++ ']' :: rest) [] rest
  | item {first : Bool} {lead text behind rest : List Char} {x : α} {xs : List α}
      (hlead : Lead first lead) (hitem : takes text x behind)
      (hmore : Listed takes false behind xs rest) :
      Listed takes first (lead ++ text) (x :: xs) rest

theorem Listed.imp {takes takes' : List Char → α → List Char → Prop} {first : Bool}
    {text rest : List Char} {xs : List α} (h : Listed takes first text xs rest)
    (himp : ∀ {text x behind}, takes text x behind → takes' text x behind) :
    Listed takes' first text xs rest := by
  induction h with
  | closed hgap => exact .closed hgap
  | item hlead hitem _ ih => exact .item hlead (himp hitem) ih

/-- All that can come next in front of a closing bracket. -/
theorem next_cases {close : Char} {first : Bool} {text : List Char} {found : Next}
    (h : next close first text = .ok found) :
    (∃ gap rest, Blank gap ∧ text = gap ++ close :: rest ∧ found = .closed rest) ∨
      ∃ lead start, Lead first lead ∧ text = lead ++ start ∧ found = .more start := by
  obtain ⟨gap, hgap, htext⟩ := exists_gap text
  rw [next] at h
  cases hskip : skipBlank text with
  | nil => simp [hskip] at h
  | cons c more =>
      simp only [hskip] at h htext
      split at h
      · rename_i hclose
        cases h
        exact .inl ⟨gap, more, hgap, hclose ▸ htext, rfl⟩
      · split at h
        · rename_i hfirst
          cases h
          exact .inr ⟨gap, c :: more, hfirst ▸ .first hgap, htext, rfl⟩
        · rename_i hfurther
          obtain ⟨behind, hbehind, hmore⟩ := exists_gap more
          split at h
          · rename_i hcomma
            split at h
            · cases h
            · rename_i start hstart
              split at h
              · cases h
              · cases h
                refine .inr ⟨gap ++ ',' :: behind, _, ?_, ?_, rfl⟩
                · rw [Bool.eq_false_iff.mpr hfurther]
                  exact .further hgap hbehind
                · rw [htext, hcomma, hmore, hstart, List.append_assoc, List.cons_append]
          · cases h

theorem listed_of_items {item : Reader α} {fuel : Nat} {first : Bool} {text rest : List Char}
    {xs : List α} (h : items item fuel first text = .ok (xs, rest)) :
    Listed (fun text x behind => item text = .ok (x, behind)) first text xs rest := by
  induction fuel generalizing first text xs with
  | zero => cases h
  | succ fuel ih =>
      rw [items] at h
      split at h
      · cases h
      · rename_i hnext
        cases h
        obtain ⟨gap, _, hgap, rfl, ⟨⟩⟩ | ⟨_, _, -, -, ⟨⟩⟩ := next_cases hnext
        exact .closed hgap
      · rename_i hnext
        split at h
        · cases h
        · rename_i hitem
          split at h
          · cases h
          · rename_i hmore
            cases h
            obtain ⟨_, _, -, -, ⟨⟩⟩ | ⟨lead, _, hlead, rfl, ⟨⟩⟩ := next_cases hnext
            exact .item hlead hitem (ih hmore)

end Json

namespace Row

/-- The members of a JSON object as values, in the order of the text. -/
def readMembers (depth : Nat) : Json.Reader (List (String × Value)) := fun source =>
  match Json.skipBlank source with
  | [] => .error .unfinished
  | '\x7b' :: rest => Json.object (Json.keepMember (Value.read depth)) [] rest
  | source => .error (Json.wrongType "an object of column names to values" source)

theorem takeMember_set (depth : Nat) :
    Json.takeMember (Value.read depth) set = fun (row : Row) name source =>
      match Json.memberValue (Value.read depth) source with
      | .error e => .error e
      | .ok (value, rest) => .ok (row.set name value, rest) := by
  funext row name source
  rw [Json.takeMember]
  cases Json.memberValue (Value.read depth) source <;> rfl

/-- A row is what its members come to. -/
theorem read_eq (depth : Nat) (source : List Char) :
    read depth source =
      (readMembers depth source).map fun kept => (ofList kept.1, kept.2) := by
  rw [read, readMembers]
  cases Json.skipBlank source with
  | nil => rfl
  | cons c rest =>
      by_cases hc : c = '\x7b'
      · have hobject := Json.object_eq (Value.read depth) set empty rest
        rw [takeMember_set] at hobject
        subst hc
        exact hobject
      · simp [hc, Except.map]

theorem names_ofList (members : List (String × Value)) :
    (ofList members).names = (members.map Prod.fst).eraseDups := by
  induction members using List.reverseRecOn with
  | nil => rfl
  | append_singleton members member ih =>
      rw [ofList, List.foldl_append, ← ofList, List.foldl_cons, List.foldl_nil, names_set, ih,
        List.map_append, List.eraseDups_append]
      by_cases h : member.1 ∈ members.map Prod.fst
      · simp [h, List.removeAll]
      · simp [h, List.removeAll, List.eraseDups_cons]

theorem value?_ofList (members : List (String × Value)) (name : String) :
    (ofList members).value? name = members.reverse.lookup name := by
  induction members using List.reverseRecOn with
  | nil => rfl
  | append_singleton members member ih =>
      rw [ofList, List.foldl_append, ← ofList, List.foldl_cons, List.foldl_nil, value?_set, ih,
        List.reverse_append]
      exact (Entries.lookup_cons name member members.reverse).symm

end Row

end RowScript
