import Mathlib.Algebra.Ring.Nat
import Mathlib.Data.List.Nodup
import RowScript.Context

/-!
Counting as a list of charges. All that directives and pipelines do to a context is to
add amounts to counters, one after the other; what a context counts in the end is the
sum of the charges, and it knows the counters that were charged. Neither depends on the
order of the charges, so runs that charge the same leave the same context.
-/

namespace RowScript

namespace Entries

variable {α : Type} {entries others : List (String × α)}

theorem Sorted.nodup_keys (h : Sorted entries) : (entries.map Prod.fst).Nodup := by
  refine List.pairwise_map.mpr (List.Pairwise.imp ?_ h)
  intro a b hlt heq
  exact String.lt_irrefl a.1 (heq ▸ hlt)

theorem Sorted.mem_iff_lookup (h : Sorted entries) (key : String) (value : α) :
    (key, value) ∈ entries ↔ entries.lookup key = some value :=
  (lookup_eq_some_iff h.nodup_keys).symm

theorem Sorted.nodup (h : Sorted entries) : entries.Nodup :=
  h.nodup_keys.of_map

/-- In ascending order the values under the keys determine the list. -/
theorem Sorted.ext (h : Sorted entries) (ho : Sorted others)
    (hlookup : ∀ key, entries.lookup key = others.lookup key) : entries = others := by
  have hmem : ∀ entry, entry ∈ entries ↔ entry ∈ others := by
    intro ⟨key, value⟩
    rw [h.mem_iff_lookup, ho.mem_iff_lookup, hlookup]
  have hperm : entries.Perm others := (List.perm_ext_iff_of_nodup h.nodup ho.nodup).mpr hmem
  exact hperm.eq_of_pairwise
    (fun a b _ _ hab hba => absurd (String.lt_trans hab hba) (String.lt_irrefl _)) h ho

end Entries

theorem Dictionary.ext_find? {α : Type} {d other : Dictionary α}
    (h : ∀ key, d.find? key = other.find? key) : d = other := by
  obtain ⟨entries, hentries⟩ := d
  obtain ⟨others, hothers⟩ := other
  obtain rfl := hentries.ext hothers h
  rfl

namespace Context

/-- Whether a counter was ever added to, were it nothing. -/
def knows (c : Context) (name : String) : Bool := c.counters.contains name

theorem find?_counters (c : Context) (name : String) :
    c.counters.find? name = if c.knows name then some (c.counter name) else none := by
  rw [knows, Dictionary.contains, counter]
  cases c.counters.find? name <;> rfl

theorem counters_ext {c other : Context} (hcounter : ∀ name, c.counter name = other.counter name)
    (hknows : ∀ name, c.knows name = other.knows name) : c.counters = other.counters := by
  apply Dictionary.ext_find?
  intro name
  rw [find?_counters, find?_counters, hcounter, hknows]

theorem counter_increment (c : Context) (name other : String) (amount : Nat) :
    (c.increment name amount).counter other =
      c.counter other + if other = name then amount else 0 := by
  simp only [counter, increment, Dictionary.find?_insert]
  by_cases h : other = name <;> simp [h]

theorem knows_increment (c : Context) (name other : String) (amount : Nat) :
    (c.increment name amount).knows other = (c.knows other || other == name) := by
  simp only [knows, increment, Dictionary.contains, Dictionary.find?_insert]
  by_cases h : other = name <;> simp [h]

/-- Add the amounts of a list to their counters, one after the other. -/
def charge (c : Context) (charges : List (String × Nat)) : Context :=
  charges.foldl (fun c (name, amount) => c.increment name amount) c

/-- All that a list of charges adds to one counter. -/
def total (name : String) : List (String × Nat) → Nat
  | [] => 0
  | (other, amount) :: charges => (if name = other then amount else 0) + total name charges

/-- Whether a list of charges adds to a counter, were it nothing. -/
def mentions (name : String) (charges : List (String × Nat)) : Bool :=
  charges.any (name == ·.1)

variable (c : Context) (charges more : List (String × Nat)) (name other : String) (amount : Nat)

@[simp] theorem total_nil : total name [] = 0 := rfl

@[simp] theorem total_cons :
    total name ((other, amount) :: more) = (if name = other then amount else 0) + total name more :=
  rfl

@[simp] theorem total_append :
    total name (charges ++ more) = total name charges + total name more := by
  induction charges with
  | nil => simp
  | cons head charges ih => simp only [List.cons_append, total, ih, Nat.add_assoc]

@[simp] theorem mentions_nil : mentions name [] = false := rfl

@[simp] theorem mentions_cons :
    mentions name ((other, amount) :: more) = (name == other || mentions name more) := rfl

@[simp] theorem mentions_append :
    mentions name (charges ++ more) = (mentions name charges || mentions name more) :=
  List.any_append

theorem charge_cons :
    c.charge ((other, amount) :: more) = (c.increment other amount).charge more := rfl

theorem charge_append : c.charge (charges ++ more) = (c.charge charges).charge more :=
  List.foldl_append

theorem counter_charge : (c.charge charges).counter name = c.counter name + total name charges := by
  induction charges generalizing c with
  | nil => rfl
  | cons head charges ih =>
      rw [charge_cons, ih, counter_increment, total_cons, Nat.add_assoc]

theorem knows_charge : (c.charge charges).knows name = (c.knows name || mentions name charges) := by
  induction charges generalizing c with
  | nil => rw [mentions_nil, Bool.or_false]; rfl
  | cons head charges ih =>
      rw [charge_cons, ih, knows_increment, mentions_cons, Bool.or_assoc]

/-- Charging touches the counters and nothing else. -/
theorem charge_frame : c.charge charges = { c with counters := (c.charge charges).counters } := by
  induction charges generalizing c with
  | nil => rfl
  | cons head charges ih =>
      rw [charge_cons, ih]
      rfl

variable {charges more}

/-- Charges that add up to the same leave the same context. -/
theorem charge_congr (htotal : ∀ name, total name charges = total name more)
    (hmentions : ∀ name, mentions name charges = mentions name more) :
    c.charge charges = c.charge more := by
  have hcounters : (c.charge charges).counters = (c.charge more).counters := by
    apply counters_ext
    · intro name
      rw [counter_charge, counter_charge, htotal]
    · intro name
      rw [knows_charge, knows_charge, hmentions]
  rw [charge_frame c charges, charge_frame c more, hcounters]

/-- Charges that are those of two lists taken together, in any order. -/
structure Merges (whole first second : List (String × Nat)) : Prop where
  totals : ∀ name, total name whole = total name first + total name second
  mentioned : ∀ name, mentions name whole = (mentions name first || mentions name second)

theorem merges_nil : Merges [] [] [] := ⟨fun _ => rfl, fun _ => rfl⟩

theorem merges_single (name : String) (m n : Nat) :
    Merges [(name, m + n)] [(name, m)] [(name, n)] := by
  constructor
  · intro other
    by_cases h : other = name <;> simp [h]
  · intro other
    simp

theorem Merges.append {whole first second whole' first' second' : List (String × Nat)}
    (h : Merges whole first second) (h' : Merges whole' first' second') :
    Merges (whole ++ whole') (first ++ first') (second ++ second') := by
  constructor
  · intro name
    simp only [total_append, h.totals, h'.totals]
    omega
  · intro name
    simp only [mentions_append, h.mentioned, h'.mentioned, Bool.or_assoc, Bool.or_left_comm]

theorem Merges.charge_eq {whole first second : List (String × Nat)}
    (h : Merges whole first second) (c : Context) :
    c.charge whole = (c.charge first).charge second := by
  rw [← charge_append]
  apply charge_congr
  · intro name
    rw [h.totals, total_append]
  · intro name
    rw [h.mentioned, mentions_append]

/-- Add an amount to the word under a name, unless the sum is no word. -/
def addWord (words : Dictionary UInt64) (name : String) (amount : Nat) :
    Option (Dictionary UInt64) :=
  let held := (words.find? name).getD 0
  if held.toNat + amount < 2 ^ 64 then
    some (words.insert name (held + UInt64.ofNat amount))
  else none

/-- Charge counters that are words of sixty-four bits, up to the first that overflows. -/
def chargeWords (words : Dictionary UInt64) : List (String × Nat) → Option (Dictionary UInt64)
  | [] => some words
  | (name, amount) :: charges =>
    match addWord words name amount with
    | none => none
    | some words => chargeWords words charges

/-- The words are the counters of the context. -/
def Agrees (words : Dictionary UInt64) (c : Context) : Prop :=
  ∀ name, c.counters.find? name = (words.find? name).map UInt64.toNat

theorem Agrees.counter_eq {words : Dictionary UInt64} {c : Context} (h : Agrees words c)
    (name : String) : c.counter name = ((words.find? name).getD 0).toNat := by
  rw [counter, h]
  cases words.find? name <;> rfl

variable {words sums : Dictionary UInt64} {c : Context}

theorem addWord_of_lt (h : Agrees words c) (hlt : (c.increment name amount).counter name < 2 ^ 64) :
    ∃ sums, addWord words name amount = some sums ∧ Agrees sums (c.increment name amount) := by
  rw [counter_increment, if_pos rfl, h.counter_eq] at hlt
  refine ⟨_, if_pos hlt, fun other => ?_⟩
  rw [increment, Dictionary.find?_insert, Dictionary.find?_insert]
  split
  · rw [Option.map_some, h.counter_eq, UInt64.toNat_add, UInt64.toNat_ofNat', Nat.add_mod_mod,
      Nat.mod_eq_of_lt hlt]
  · exact h other

theorem lt_of_addWord (h : Agrees words c) (hsums : addWord words name amount = some sums) :
    (c.increment name amount).counter name < 2 ^ 64 := by
  rw [counter_increment, if_pos rfl, h.counter_eq]
  exact (Option.ite_none_right_eq_some.mp hsums).1

theorem agrees_of_addWord (h : Agrees words c) (hsums : addWord words name amount = some sums) :
    Agrees sums (c.increment name amount) := by
  obtain ⟨sums', hsums', hagrees⟩ := addWord_of_lt name amount h (lt_of_addWord name amount h hsums)
  rw [hsums] at hsums'
  cases hsums'
  exact hagrees

/-- Counters that are words count what those without a bound count, unless one overflows. -/
theorem agrees_of_chargeWords (h : Agrees words c) (hsums : chargeWords words charges = some sums) :
    Agrees sums (c.charge charges) := by
  fun_induction chargeWords words charges generalizing c with
  | case1 words =>
      cases hsums
      exact h
  | case2 => cases hsums
  | case3 words name amount charges added hadded ih =>
      rw [charge_cons]
      exact ih (agrees_of_addWord name amount h hadded) hsums

/-- No word overflows on the way if no counter is beyond the words in the end, for a charge makes
no counter less. -/
theorem isSome_chargeWords_iff (h : Agrees words c) :
    (chargeWords words charges).isSome ↔ ∀ name, (c.charge charges).counter name < 2 ^ 64 := by
  constructor
  · intro hsome name
    obtain ⟨sums, hsums⟩ := Option.isSome_iff_exists.mp hsome
    rw [(agrees_of_chargeWords h hsums).counter_eq]
    exact UInt64.toNat_lt _
  · intro hlt
    induction charges generalizing words c with
    | nil => rfl
    | cons head charges ih =>
        obtain ⟨name, amount⟩ := head
        have hname := hlt name
        rw [charge_cons, counter_charge] at hname
        obtain ⟨added, hadded, hagrees⟩ :=
          addWord_of_lt name amount h (Nat.lt_of_le_of_lt (Nat.le_add_right _ _) hname)
        rw [chargeWords, hadded]
        exact ih hagrees hlt

end Context

end RowScript
