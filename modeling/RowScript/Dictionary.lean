/-!
Lists of entries in ascending order of their keys, each key once. The operations
are stated for plain lists of pairs, as a column value holds such a list inside
itself; `Dictionary` is the same with the order in the type. Two dictionaries
with the same values are equal, as the order leaves no choice.
-/

namespace RowScript

namespace Entries

variable {α : Type}

/-- Keys in strictly ascending order. -/
def Sorted (entries : List (String × α)) : Prop :=
  entries.Pairwise (·.1 < ·.1)

/-- The entries with a value put under a key, instead of the one that was there. -/
def insert (key : String) (value : α) : List (String × α) → List (String × α)
  | [] => [(key, value)]
  | (other, held) :: rest =>
    if key < other then (key, value) :: (other, held) :: rest
    else if key = other then (key, value) :: rest
    else (other, held) :: insert key value rest

theorem mem_insert {key : String} {value : α} {entries : List (String × α)} {entry : String × α}
    (h : entry ∈ insert key value entries) : entry = (key, value) ∨ entry ∈ entries := by
  induction entries with
  | nil => exact .inl (List.mem_singleton.mp h)
  | cons head rest ih =>
    simp only [insert] at h
    split at h
    · exact List.mem_cons.mp h
    · split at h
      · exact (List.mem_cons.mp h).imp id (List.mem_cons_of_mem _)
      · rcases List.mem_cons.mp h with rfl | h
        · exact .inr List.mem_cons_self
        · exact (ih h).imp id (List.mem_cons_of_mem _)

theorem not_lt_and_ne_iff {a b : String} : ¬a < b ∧ a ≠ b ↔ b < a := by
  constructor
  · rintro ⟨hlt, hne⟩
    apply Decidable.byContradiction
    intro h
    exact hne (String.le_antisymm (String.not_lt.mp h) (String.not_lt.mp hlt))
  · intro h
    exact ⟨fun h' => String.lt_irrefl _ (String.lt_trans h h'),
      fun he => String.lt_irrefl _ (he ▸ h)⟩

theorem Sorted.insert {key : String} {value : α} {entries : List (String × α)}
    (h : Sorted entries) : Sorted (insert key value entries) := by
  induction entries with
  | nil => exact List.pairwise_singleton _ _
  | cons head rest ih =>
    obtain ⟨hhead, hrest⟩ := List.pairwise_cons.mp h
    simp only [Entries.insert]
    split
    · rename_i hlt
      refine List.pairwise_cons.mpr ⟨fun entry hentry => ?_, h⟩
      rcases List.mem_cons.mp hentry with rfl | hentry
      · exact hlt
      · exact String.lt_trans hlt (hhead entry hentry)
    · rename_i hnlt
      split
      · rename_i heq
        exact List.pairwise_cons.mpr ⟨fun entry hentry => heq ▸ hhead entry hentry, hrest⟩
      · rename_i hne
        refine List.pairwise_cons.mpr ⟨fun entry hentry => ?_, ih hrest⟩
        rcases mem_insert hentry with rfl | hentry
        · exact not_lt_and_ne_iff.mp ⟨hnlt, hne⟩
        · exact hhead entry hentry

theorem lookup_cons (key : String) (head : String × α) (rest : List (String × α)) :
    (head :: rest).lookup key = if key = head.1 then some head.2 else rest.lookup key := by
  obtain ⟨other, held⟩ := head
  by_cases h : key = other
  · simp [h]
  · simp [List.lookup_cons, h, beq_eq_false_iff_ne.mpr h]

/-- Among different keys every entry is found under its key. -/
theorem lookup_eq_some_iff {entries : List (String × α)} (h : (entries.map Prod.fst).Nodup)
    {key : String} {value : α} : entries.lookup key = some value ↔ (key, value) ∈ entries := by
  induction entries with
  | nil => simp
  | cons head rest ih =>
    obtain ⟨hhead, hrest⟩ := List.nodup_cons.mp h
    rw [lookup_cons, List.mem_cons, ← ih hrest]
    split
    · rename_i heq
      subst heq
      have habsent : rest.lookup head.1 ≠ some value := fun hsome =>
        hhead (List.mem_map.mpr ⟨_, (ih hrest).mp hsome, rfl⟩)
      simp [habsent, Prod.ext_iff, eq_comm]
    · rename_i hne
      simp [hne, Prod.ext_iff]

theorem lookup_insert (key other : String) (value : α) (entries : List (String × α)) :
    (insert key value entries).lookup other =
      if other = key then some value else entries.lookup other := by
  induction entries with
  | nil => simp [insert, lookup_cons]
  | cons head rest ih =>
    simp only [insert]
    split
    · simp [lookup_cons]
    · split
      · rename_i heq
        simp only [lookup_cons, ← heq]
        split <;> rfl
      · rename_i hne
        simp only [lookup_cons, ih]
        split
        · rename_i hhead
          have hother : other ≠ key := fun h => hne (h.symm.trans hhead)
          rw [if_neg hother]
        · rfl

end Entries

structure Dictionary (α : Type) where
  entries : List (String × α)
  sorted : Entries.Sorted entries

namespace Dictionary

variable {α : Type}

def empty : Dictionary α := ⟨[], .nil⟩

instance : Inhabited (Dictionary α) := ⟨empty⟩

def find? (d : Dictionary α) (key : String) : Option α :=
  d.entries.lookup key

def contains (d : Dictionary α) (key : String) : Bool :=
  (d.find? key).isSome

def insert (d : Dictionary α) (key : String) (value : α) : Dictionary α :=
  ⟨Entries.insert key value d.entries, d.sorted.insert⟩

/-- The entries of a list in any order; of two with one key the later counts. -/
def ofList (entries : List (String × α)) : Dictionary α :=
  entries.foldl (fun d (key, value) => d.insert key value) empty

def keys (d : Dictionary α) : List String :=
  d.entries.map (·.1)

theorem find?_insert (d : Dictionary α) (key other : String) (value : α) :
    (d.insert key value).find? other = if other = key then some value else d.find? other :=
  Entries.lookup_insert key other value d.entries

end Dictionary

end RowScript
