import Mathlib.Data.List.Induction
import RowScript.Directive.Registry
import RowScript.Proofs.Binding
import RowScript.Proofs.ByteOrder
import RowScript.Proofs.Counters

/-!
Registries through their registrations. A call either puts a whole entry under the name that
it is for, with the usage that the directive said of itself, or is refused and changes nothing.
So whatever was called before, a name shows the last entry that was accepted for it, and
nothing if there is none.
-/

namespace RowScript

namespace Usage

theorem build_eq_self (u : Usage) : build u.directive u.slots = .ok u := by
  rw [build]
  split
  · rfl
  · rename_i fault hfault
    rw [u.faultless] at hfault
    cases hfault

end Usage

namespace Registry

variable {δ : Type}

theorem mem_names_iff {r : Registry δ} {name : String} :
    name ∈ r.names ↔ (r.entries.find? name).isSome := by
  rw [names, Dictionary.keys, Dictionary.find?, Option.isSome_iff_exists]
  simp only [List.mem_map, Prod.exists, exists_and_right, exists_eq_right]
  exact exists_congr fun g => (r.entries.sorted.mem_iff_lookup name g)

theorem pairwise_names (r : Registry δ) :
    (r.names.map Text.bytes).Pairwise (· < ·) := by
  rw [names, Dictionary.keys, List.map_map, List.pairwise_map]
  exact r.entries.sorted.imp fun h => Text.bytes_lt_bytes h

variable [Directive δ]

/-- The entry that a call of `register` is for, if it is accepted. -/
def registration? (info : Info) (fresh : δ) : Option (Registration δ) :=
  match Directive.define fresh with
  | .error _ => none
  | .ok usage => if usage.directive = info.name then some ⟨info, fresh, usage⟩ else none

/-- What keeps a call of `register` from being accepted. -/
inductive Refuses (info : Info) (fresh : δ) : ScriptError → Prop where
  | undefined {e : ScriptError} (h : Directive.define fresh = .error e) : Refuses info fresh e
  | misnamed {usage : Usage} (h : Directive.define fresh = .ok usage)
      (hname : usage.directive ≠ info.name) :
      Refuses info fresh (.invalidDefinition info.name
        ("usage definition names '" ++ usage.directive ++ "'"))

variable {r : Registry δ} {info : Info} {fresh : δ} {name : String} {g : Registration δ}

theorem register_eq_ok_iff {changed : Registry δ} :
    r.register info fresh = (.ok (), changed) ↔
      ∃ g, registration? info fresh = some g ∧ changed.entries = r.entries.insert info.name g := by
  rw [register, registration?]
  cases Directive.define fresh with
  | error e => simp
  | ok usage =>
      by_cases hname : usage.directive = info.name
      · simp only [if_pos hname, Prod.mk.injEq, true_and, Option.some.injEq, exists_eq_left']
        constructor
        · rintro rfl
          rfl
        · intro h
          cases changed
          exact congrArg Registry.mk h.symm
      · simp [hname]

theorem register_eq_error_iff {e : ScriptError} {changed : Registry δ} :
    r.register info fresh = (.error e, changed) ↔ Refuses info fresh e ∧ changed = r := by
  constructor
  · intro h
    rw [register] at h
    split at h
    · rename_i hdefine
      cases h
      exact ⟨.undefined hdefine, rfl⟩
    · rename_i usage hdefine
      split at h
      · cases h
      · rename_i hname
        cases h
        exact ⟨.misnamed hdefine hname, rfl⟩
  · rintro ⟨hrefuses, rfl⟩
    cases hrefuses with
    | undefined h => rw [register, h]
    | misnamed h hname =>
        rw [register, h]
        exact if_neg hname

/-- An entry in which everything belongs to one registration: the name under which it is kept
is that of the information and of the usage, and the usage is what the directive says of itself
and one that can be built. -/
structure Genuine (name : String) (g : Registration δ) : Prop where
  info : g.info.name = name
  usage : g.usage.directive = name
  defined : Directive.define g.fresh = .ok g.usage
  built : Usage.build g.usage.directive g.usage.slots = .ok g.usage

theorem registration?_eq_some_iff :
    registration? info fresh = some g ↔ Genuine info.name g ∧ g.info = info ∧ g.fresh = fresh := by
  rw [registration?]
  constructor
  · intro h
    split at h
    · cases h
    · rename_i usage hdefine
      split at h
      · rename_i hname
        cases h
        exact ⟨⟨rfl, hname, hdefine, usage.build_eq_self⟩, rfl, rfl⟩
      · cases h
  · rintro ⟨⟨-, husage, hdefine, -⟩, rfl, rfl⟩
    rw [hdefine]
    exact if_pos husage

/-- The registry behind a call of `register`. -/
def perform (r : Registry δ) (call : Info × δ) : Registry δ :=
  (r.register call.1 call.2).2

def after (r : Registry δ) (history : List (Info × δ)) : Registry δ := history.foldl perform r

theorem after_concat (r : Registry δ) (history : List (Info × δ)) (call : Info × δ) :
    r.after (history ++ [call]) = (r.after history).perform call := by
  rw [after, List.foldl_append]
  rfl

theorem perform_of_refuses {e : ScriptError} (h : Refuses info fresh e) :
    r.perform (info, fresh) = r := by
  rw [perform, register_eq_error_iff.mpr ⟨h, rfl⟩]

theorem entries_perform (h : registration? info fresh = some g) :
    (r.perform (info, fresh)).entries = r.entries.insert info.name g := by
  have hchanged : r.register info fresh = (.ok (), ⟨r.entries.insert info.name g⟩) :=
    register_eq_ok_iff.mpr ⟨g, h, rfl⟩
  rw [perform, hchanged]

theorem refuses_of_none (h : registration? info fresh = none) : ∃ e, Refuses info fresh e := by
  rcases hresult : (empty : Registry δ).register info fresh with ⟨result, changed⟩
  cases result with
  | error e => exact ⟨e, (register_eq_error_iff.mp hresult).1⟩
  | ok =>
      obtain ⟨g, hg, -⟩ := register_eq_ok_iff.mp hresult
      exact absurd (h.symm.trans hg) (by simp)

/-- The last entry that the calls put under a name. -/
def latest? (name : String) (history : List (Info × δ)) : Option (Registration δ) :=
  (history.filterMap fun call => registration? call.1 call.2).reverse.find? (·.info.name = name)

theorem latest?_concat_of_some (history : List (Info × δ))
    (h : registration? info fresh = some g) :
    latest? name (history ++ [(info, fresh)]) =
      if name = info.name then some g else latest? name history := by
  have hinfo : g.info = info := (registration?_eq_some_iff.mp h).2.1
  simp only [latest?, List.filterMap_append, List.filterMap_cons, h, List.filterMap_nil,
    List.reverse_append, List.reverse_singleton, List.singleton_append, List.find?_cons, hinfo]
  by_cases hname : name = info.name
  · simp [hname]
  · simp [hname, Ne.symm hname]

theorem latest?_concat_of_none (history : List (Info × δ))
    (h : registration? info fresh = none) :
    latest? name (history ++ [(info, fresh)]) = latest? name history := by
  simp [latest?, h]

theorem genuine_of_latest? {history : List (Info × δ)} (h : latest? name history = some g) :
    Genuine name g ∧ (g.info, g.fresh) ∈ history := by
  rw [latest?] at h
  have hname : g.info.name = name := by simpa using List.find?_some h
  have hmem := List.mem_reverse.mp (List.mem_of_find?_eq_some h)
  obtain ⟨call, hcall, hentry⟩ := List.mem_filterMap.mp hmem
  obtain ⟨hgenuine, hinfo, hfresh⟩ := registration?_eq_some_iff.mp hentry
  rw [← hinfo, hname] at hgenuine
  rw [hinfo, hfresh]
  exact ⟨hgenuine, hcall⟩

theorem isSome_latest?_iff {history : List (Info × δ)} :
    (latest? name history).isSome ↔
      ∃ call ∈ history, (registration? call.1 call.2).isSome ∧ call.1.name = name := by
  rw [latest?, List.find?_isSome]
  simp only [List.mem_reverse, List.mem_filterMap, decide_eq_true_eq, Option.isSome_iff_exists]
  constructor
  · rintro ⟨g, ⟨call, hcall, hentry⟩, hname⟩
    rw [(registration?_eq_some_iff.mp hentry).2.1] at hname
    exact ⟨call, hcall, ⟨g, hentry⟩, hname⟩
  · rintro ⟨call, hcall, ⟨g, hentry⟩, hname⟩
    rw [← (registration?_eq_some_iff.mp hentry).2.1] at hname
    exact ⟨g, ⟨call, hcall, hentry⟩, hname⟩

/-- The last call decides for its name, and otherwise what the calls in front of it left. -/
theorem find?_after (r : Registry δ) (history : List (Info × δ)) (name : String) :
    (r.after history).entries.find? name =
      (latest? name history).or (r.entries.find? name) := by
  induction history using List.reverseRecOn with
  | nil => rfl
  | append_singleton history call ih =>
      obtain ⟨info, fresh⟩ := call
      rw [after_concat]
      cases hentry : registration? info fresh with
      | none =>
          obtain ⟨e, hrefuses⟩ := refuses_of_none hentry
          rw [perform_of_refuses hrefuses, latest?_concat_of_none history hentry, ih]
      | some g =>
          rw [entries_perform hentry, Dictionary.find?_insert,
            latest?_concat_of_some history hentry, ih]
          split <;> rfl

theorem ofCatalog_eq (catalog : List (Info × δ)) : ofCatalog catalog = empty.after catalog := rfl

/-- What a registry shows under a name, in each of its views. -/
inductive Shows (r : Registry δ) (name : String) : Option (Registration δ) → Prop where
  | absent (hnames : name ∉ r.names) (hhas : r.has name = false) (hinfo : r.info? name = none)
      (husage : r.usage? name = none) (hcreate : r.create? name = none) : Shows r name none
  | present {g : Registration δ} (hgenuine : Genuine name g) (hnames : name ∈ r.names)
      (hhas : r.has name = true) (hinfo : r.info? name = some g.info)
      (husage : r.usage? name = some g.usage) (hcreate : r.create? name = some g.fresh) :
      Shows r name (some g)

theorem shows_of_find? {found : Option (Registration δ)} (h : r.entries.find? name = found)
    (hgenuine : ∀ g, found = some g → Genuine name g) : r.Shows name found := by
  cases found with
  | none =>
      refine .absent ?_ ?_ ?_ ?_ ?_
      · rw [mem_names_iff, h]
        exact Bool.false_ne_true
      all_goals simp [has, info?, usage?, create?, Dictionary.contains, h]
  | some g =>
      refine .present (hgenuine g rfl) ?_ ?_ ?_ ?_ ?_
      · rw [mem_names_iff, h]
        rfl
      all_goals simp [has, info?, usage?, create?, Dictionary.contains, h]

/-- The registry shows under each name the last entry that was accepted for it, and lists the
names of the entries in the order of their bytes. A further call either fails for a reason of
its own and changes nothing, or changes what is under its name and nothing else. -/
structure Reflects (history : List (Info × δ)) (r : Registry δ) : Prop where
  ascending : (r.names.map Text.bytes).Pairwise (· < ·)
  listed : ∀ name, name ∈ r.names ↔
    ∃ call ∈ history, (registration? call.1 call.2).isSome ∧ call.1.name = name
  latest : ∀ name, r.Shows name (latest? name history)
  refused : ∀ info fresh e changed,
    r.register info fresh = (.error e, changed) ↔ Refuses info fresh e ∧ changed = r
  unchanged : ∀ info fresh e, Refuses info fresh e → r.perform (info, fresh) = r
  accepted : ∀ info fresh changed, r.register info fresh = (.ok (), changed) →
    r.perform (info, fresh) = changed ∧
      (∃ usage, Directive.define fresh = .ok usage ∧ usage.directive = info.name ∧
        changed.Shows info.name (some ⟨info, fresh, usage⟩)) ∧
      ∀ other ≠ info.name, changed.Shows other (latest? other history)

theorem shows_latest? {history : List (Info × δ)}
    (h : ∀ name, r.entries.find? name = latest? name history) (name : String) :
    r.Shows name (latest? name history) :=
  shows_of_find? (h name) fun _ hfound => (genuine_of_latest? hfound).1

theorem reflects_of_find? {history : List (Info × δ)}
    (h : ∀ name, r.entries.find? name = latest? name history) : Reflects history r := by
  constructor
  case ascending => exact pairwise_names r
  case listed =>
    intro name
    rw [mem_names_iff, h, isSome_latest?_iff]
  case latest => exact shows_latest? h
  case refused => exact fun info fresh e changed => register_eq_error_iff
  case unchanged => exact fun info fresh e => perform_of_refuses
  case accepted =>
    intro info fresh changed hchanged
    obtain ⟨g, hentry, hinsert⟩ := register_eq_ok_iff.mp hchanged
    obtain ⟨hgenuine, rfl, rfl⟩ := registration?_eq_some_iff.mp hentry
    refine ⟨by rw [perform, hchanged], ⟨g.usage, hgenuine.defined, hgenuine.usage, ?_⟩, ?_⟩
    · refine shows_of_find? ?_ fun _ hfound => Option.some.inj hfound ▸ hgenuine
      rw [hinsert, Dictionary.find?_insert, if_pos rfl]
    · intro other hother
      refine shows_of_find? ?_ fun _ hfound => (genuine_of_latest? hfound).1
      rw [hinsert, Dictionary.find?_insert, if_neg hother, h]

theorem reflects_after_empty (history : List (Info × δ)) :
    Reflects history (empty.after history) := by
  refine reflects_of_find? fun name => ?_
  rw [find?_after]
  exact Option.or_none

/-- Whatever is registered, with success or without, a registry reflects the calls: one that
starts empty or with a catalog, such as that of the built-in directives, which are all
accepted. -/
theorem reflects_after :
    (∀ history : List (Info × δ), Reflects history (empty.after history)) ∧
      (∀ catalog history : List (Info × δ),
        Reflects (catalog ++ history) ((ofCatalog catalog).after history)) ∧
      (∀ history : List (Info × BuiltIn),
        Reflects (BuiltIn.catalog ++ history) (standard.after history)) ∧
      ∀ call ∈ BuiltIn.catalog, (registration? call.1 call.2).isSome := by
  refine ⟨reflects_after_empty, fun catalog history => ?_, fun history => ?_, by decide⟩
  · rw [ofCatalog_eq, after, after, ← List.foldl_append]
    exact reflects_after_empty (catalog ++ history)
  · rw [standard, ofCatalog_eq, after, after, ← List.foldl_append]
    exact reflects_after_empty (BuiltIn.catalog ++ history)

end Registry

end RowScript
