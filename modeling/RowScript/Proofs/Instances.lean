import Mathlib.Data.List.Nodup
import RowScript.Pipeline.Session

/-!
The lives of instances. A log is taken apart into the events about each instance, and what
these events may be is said once, as a grammar of lives. A ledger keeps a log and the
instances that are still held together: every other life in the log is over.
-/

namespace RowScript

namespace Event

variable {δ : Type} (kind : Kind) (n : Nat) (a b : List (Event δ))

@[simp] theorem serials_append : serials kind (a ++ b) = serials kind a ++ serials kind b := by
  simp [serials]

@[simp] theorem about_append : about n (a ++ b) = about n a ++ about n b :=
  List.filter_append _ _

variable {kind n a b}

theorem serials_of_all (h : ∀ e ∈ a, e.kind = kind) : serials kind a = a.map (·.serial) := by
  rw [serials, List.filter_eq_self.mpr fun e he => decide_eq_true (h e he)]

theorem serials_of_other {other : Kind} (h : ∀ e ∈ a, e.kind = other) (hkind : other ≠ kind) :
    serials kind a = [] := by
  rw [serials, List.filter_eq_nil_iff.mpr fun e he => by simpa [h e he] using hkind, List.map_nil]

theorem about_of_none (h : ∀ e ∈ a, e.serial ≠ n) : about n a = [] :=
  List.filter_eq_nil_iff.mpr fun e he => by simpa using h e he

theorem about_of_all (h : ∀ e ∈ a, e.serial = n) : about n a = a :=
  List.filter_eq_self.mpr fun e he => decide_eq_true (h e he)

/-- Events from some number on leave the instances below it alone. -/
theorem about_append_of_lt {base : Nat} (h : ∀ e ∈ b, base ≤ e.serial) (hn : n < base) :
    about n (a ++ b) = about n a := by
  rw [about_append, about_of_none fun e he heq => absurd (h e he) (by omega), List.append_nil]

theorem about_append_of_ge {base : Nat} (h : ∀ e ∈ a, e.serial < base) (hn : base ≤ n) :
    about n (a ++ b) = about n b := by
  rw [about_append, about_of_none fun e he heq => absurd (h e he) (by omega), List.nil_append]

theorem mem_about {e : Event δ} : e ∈ about n a ↔ e ∈ a ∧ e.serial = n := by
  simp [about]

end Event

open Event

variable {δ : Type}

/-- The life of an instance that is prepared and not yet destroyed. Only one that took
its arguments is ever run. -/
inductive Open (n : Nat) : Bool → List (Event δ) → Prop where
  | failed (fresh : δ) (arguments : Arguments) :
      Open n false [.created n fresh, .prepared n fresh arguments false]
  | serving (fresh : δ) (arguments : Arguments) (uses : List (Event δ))
      (huses : ∀ e ∈ uses, e.kind = .executed) :
      Open n true (.created n fresh :: .prepared n fresh arguments true :: uses)

/-- The whole life of an instance, if there is one of the number. -/
inductive Life (n : Nat) : List (Event δ) → Prop where
  | unborn : Life n []
  /-- Its statement gave it no arguments, so it was never prepared. -/
  | refused (fresh : δ) : Life n [.created n fresh]
  | failed (fresh d : δ) (arguments : Arguments) :
      Life n [.created n fresh, .prepared n fresh arguments false, .destroyed n d]
  | served (fresh d : δ) (arguments : Arguments) (uses : List (Event δ))
      (huses : ∀ e ∈ uses, e.kind = .executed) :
      Life n (.created n fresh :: .prepared n fresh arguments true ::
        (uses ++ [.destroyed n d]))

theorem Open.prepared {n : Nat} (fresh : δ) (arguments : Arguments) (taken : Bool) :
    Open n taken [.created n fresh, .prepared n fresh arguments taken] := by
  cases taken with
  | false => exact .failed fresh arguments
  | true => exact .serving fresh arguments [] nofun

theorem Open.destroyed {n : Nat} {taken : Bool} {events : List (Event δ)}
    (h : Open n taken events) (d : δ) : Life n (events ++ [.destroyed n d]) := by
  cases h with
  | failed fresh arguments => exact .failed fresh d arguments
  | serving fresh arguments uses huses => exact .served fresh d arguments uses huses

theorem Open.used {n : Nat} {events uses : List (Event δ)} (h : Open n true events)
    (huses : ∀ e ∈ uses, e.kind = .executed) : Open n true (events ++ uses) := by
  cases h with
  | serving fresh arguments before hbefore =>
      refine .serving fresh arguments (before ++ uses) ?_
      intro e he
      exact (List.mem_append.mp he).elim (hbefore e) (huses e)

theorem Open.ne_nil {n : Nat} {taken : Bool} : ¬Open n taken ([] : List (Event δ)) := nofun

namespace Pipeline

variable (steps : List (Step δ))

theorem kind_of_mem_destroyAll {e : Event δ} (h : e ∈ destroyAll steps) :
    e.kind = .destroyed ∧ e.serial ∈ steps.map (·.serial) := by
  obtain ⟨step, hstep, rfl⟩ := List.mem_map.mp h
  exact ⟨rfl, List.mem_map_of_mem hstep⟩

@[simp] theorem destroyed_destroyAll :
    serials .destroyed (destroyAll steps) = steps.map (·.serial) := by
  rw [serials_of_all fun e he => (kind_of_mem_destroyAll steps he).1, destroyAll, List.map_map]
  rfl

theorem serials_destroyAll {kind : Kind} (h : kind ≠ .destroyed) :
    serials kind (destroyAll steps) = [] :=
  serials_of_other (fun _ he => (kind_of_mem_destroyAll steps he).1) h.symm

theorem about_destroyAll_of_not_mem {n : Nat} (h : n ∉ steps.map (·.serial)) :
    about n (destroyAll steps) = [] :=
  about_of_none fun _ he hn => h (hn ▸ (kind_of_mem_destroyAll steps he).2)

/-- Steps with different numbers tell each instance of its end once. -/
theorem about_destroyAll {steps : List (Step δ)} (hdistinct : (steps.map (·.serial)).Nodup)
    {n : Nat} (h : n ∈ steps.map (·.serial)) :
    ∃ d, about n (destroyAll steps) = [.destroyed n d] := by
  induction steps with
  | nil => simp at h
  | cons step steps ih =>
      obtain ⟨hhead, hrest⟩ := List.nodup_cons.mp hdistinct
      have hsplit : about n (destroyAll (step :: steps)) =
          about n [.destroyed step.serial step.directive] ++ about n (destroyAll steps) :=
        about_append n [_] _
      rw [hsplit]
      by_cases hstep : step.serial = n
      · subst hstep
        rw [about_destroyAll_of_not_mem steps hhead]
        exact ⟨step.directive, by simp [about, serial]⟩
      · have hother : about n [Event.destroyed step.serial step.directive] = [] := by
          apply about_of_none
          intro e he
          rw [List.mem_singleton.mp he]
          exact hstep
        rw [hother, List.nil_append]
        exact ih hrest ((List.mem_cons.mp h).resolve_left (Ne.symm hstep))

end Pipeline

open Pipeline

/-- A log beside the instances that are held, in their order, and the number of the next
instance. -/
structure Ledger (log : List (Event δ)) (held : List Nat) (next : Nat) : Prop where
  balance : serials .prepared log = serials .destroyed log ++ held
  distinct : held.Nodup
  below : ∀ e ∈ log, e.serial < next
  open_of_mem : ∀ n ∈ held, ∃ taken, Open n taken (about n log)
  over_of_not_mem : ∀ n ∉ held, Life n (about n log)

namespace Ledger

variable {log : List (Event δ)} {held : List Nat} {next : Nat}

/-- An instance that is held has left its traces in the log. -/
theorem exists_mem (h : Ledger log held next) {n : Nat} (hn : n ∈ held) :
    ∃ e ∈ log, e.serial = n := by
  obtain ⟨taken, hopen⟩ := h.open_of_mem n hn
  obtain ⟨e, he⟩ := List.exists_mem_of_ne_nil (about n log) fun hnil =>
    Open.ne_nil (hnil ▸ hopen)
  exact ⟨e, mem_about.mp he⟩

theorem lt_of_mem (h : Ledger log held next) {n : Nat} (hn : n ∈ held) : n < next := by
  obtain ⟨e, he, rfl⟩ := h.exists_mem hn
  exact h.below e he

theorem nil (next : Nat) : Ledger ([] : List (Event δ)) [] next :=
  ⟨rfl, .nil, nofun, nofun, fun _ _ => .unborn⟩

theorem refused (n : Nat) (fresh : δ) : Ledger [.created n fresh] [] (n + 1) where
  balance := rfl
  distinct := .nil
  below e he := by
    rw [List.mem_singleton.mp he]
    exact Nat.lt_succ_self n
  open_of_mem := nofun
  over_of_not_mem m _ := by
    by_cases hm : n = m
    · subst hm
      rw [about_of_all fun e he => by rw [List.mem_singleton.mp he]; rfl]
      exact .refused fresh
    · rw [about_of_none fun e he => by rw [List.mem_singleton.mp he]; exact hm]
      exact .unborn

theorem prepared (n : Nat) (fresh : δ) (arguments : Arguments) (taken : Bool) :
    Ledger [.created n fresh, .prepared n fresh arguments taken] [n] (n + 1) := by
  have hserial : ∀ e ∈ [.created n fresh, .prepared n fresh arguments taken],
      Event.serial e = n := by simp [Event.serial]
  refine ⟨rfl, List.nodup_singleton n, ?_, ?_, ?_⟩
  · intro e he
    rw [hserial e he]
    exact Nat.lt_succ_self n
  · intro m hm
    obtain rfl := List.mem_singleton.mp hm
    rw [about_of_all hserial]
    exact ⟨taken, .prepared fresh arguments taken⟩
  · intro m hm
    rw [about_of_none fun e he heq =>
      hm (List.mem_singleton.mpr (heq.symm.trans (hserial e he)))]
    exact .unborn

theorem destroy {steps : List (Step δ)} (h : Ledger log (steps.map (·.serial)) next) :
    Ledger (log ++ destroyAll steps) [] next where
  balance := by
    rw [serials_append, serials_append, destroyed_destroyAll, ← h.balance,
      serials_destroyAll steps (by decide)]
  distinct := .nil
  below e he := by
    rcases List.mem_append.mp he with he | he
    · exact h.below e he
    · exact h.lt_of_mem (kind_of_mem_destroyAll steps he).2
  open_of_mem := nofun
  over_of_not_mem n _ := by
    rw [about_append]
    by_cases hn : n ∈ steps.map (·.serial)
    · obtain ⟨d, hd⟩ := about_destroyAll h.distinct hn
      obtain ⟨taken, hopen⟩ := h.open_of_mem n hn
      rw [hd]
      exact hopen.destroyed d
    · rw [about_destroyAll_of_not_mem steps hn, List.append_nil]
      exact h.over_of_not_mem n hn

/-- Running instances that are held and took their arguments leaves the books as they
are. -/
theorem use {uses : List (Event δ)} (h : Ledger log held next)
    (hready : ∀ n ∈ held, Open n true (about n log))
    (huses : ∀ e ∈ uses, e.kind = .executed ∧ e.serial ∈ held) :
    Ledger (log ++ uses) held next ∧ ∀ n ∈ held, Open n true (about n (log ++ uses)) := by
  have hkind (e : Event δ) (he : e ∈ uses) : e.kind = .executed := (huses e he).1
  have hserving (n : Nat) (hn : n ∈ held) : Open n true (about n (log ++ uses)) := by
    rw [about_append]
    exact (hready n hn).used fun e he => hkind e (mem_about.mp he).1
  refine ⟨⟨?_, h.distinct, ?_, fun n hn => ⟨true, hserving n hn⟩, ?_⟩, hserving⟩
  · rw [serials_append, serials_append, serials_of_other hkind (by decide),
      serials_of_other hkind (by decide), List.append_nil, List.append_nil]
    exact h.balance
  · intro e he
    rcases List.mem_append.mp he with he | he
    · exact h.below e he
    · exact h.lt_of_mem (huses e he).2
  · intro n hn
    have hidle : about n uses = [] := about_of_none fun e he heq => hn (heq ▸ (huses e he).2)
    rw [about_append, hidle, List.append_nil]
    exact h.over_of_not_mem n hn

theorem le_of_mem {base n : Nat} (h : Ledger log held next)
    (habove : ∀ e ∈ log, base ≤ e.serial) (hn : n ∈ held) : base ≤ n := by
  obtain ⟨e, he, rfl⟩ := h.exists_mem hn
  exact habove e he

/-- New instances can be entered behind the ones that are held. -/
theorem append {fresh : List (Event δ)} {added : List Nat} {base : Nat}
    (h : Ledger log held base) (hfresh : Ledger fresh added next)
    (habove : ∀ e ∈ fresh, base ≤ e.serial) (hnone : serials .destroyed fresh = [])
    (hnext : base ≤ next) : Ledger (log ++ fresh) (held ++ added) next := by
  constructor
  · rw [serials_append, serials_append, h.balance, hfresh.balance, hnone, List.append_nil,
      List.nil_append, List.append_assoc]
  · refine List.nodup_append.mpr ⟨h.distinct, hfresh.distinct, ?_⟩
    intro n hn m hm heq
    exact absurd (h.lt_of_mem hn) (Nat.not_lt.mpr (heq ▸ hfresh.le_of_mem habove hm))
  · intro e he
    rcases List.mem_append.mp he with he | he
    · exact Nat.lt_of_lt_of_le (h.below e he) hnext
    · exact hfresh.below e he
  · intro n hn
    rcases List.mem_append.mp hn with hn | hn
    · rw [about_append_of_lt habove (h.lt_of_mem hn)]
      exact h.open_of_mem n hn
    · rw [about_append_of_ge h.below (hfresh.le_of_mem habove hn)]
      exact hfresh.open_of_mem n hn
  · intro n hn
    obtain ⟨hheld, hadded⟩ := not_or.mp fun hmem => hn (List.mem_append.mpr hmem)
    rcases Nat.lt_or_ge n base with hlt | hge
    · rw [about_append_of_lt habove hlt]
      exact h.over_of_not_mem n hheld
    · rw [about_append_of_ge h.below hge]
      exact hfresh.over_of_not_mem n hadded

end Ledger

end RowScript
