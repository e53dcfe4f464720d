import RowScript.Proofs.Ownership

/-!
What a failed configuration leaves behind. A directive is held from when it is prepared,
and everything held is destroyed. The instance of a statement that cannot be given its
arguments is created before that is known and held by nobody, so it alone is never
destroyed.
-/

namespace RowScript

open Event

variable {δ : Type} [Directive δ]

namespace Pipeline

/-- The statement that keeps a script from being configured, if the script can be read at
all: the first that makes no directive. -/
def culprit? (registry : Registry δ) (script : String) : Option Statement :=
  ((Script.parse script).toOption.getD []).find? fun s => (made? registry s).isNone

/-- The instance that is created for a statement but not prepared. -/
def spare (registry : Registry δ) (serial : Nat) (culprit : Option Statement) : List Nat :=
  if culprit.any (refused registry) then [serial] else []

theorem serials_constructAll (registry : Registry δ) (serial : Nat)
    (statements : List Statement) :
    ∃ count, serials .prepared (constructAll registry serial statements).events =
        List.range' serial count ∧
      serials .created (constructAll registry serial statements).events =
        List.range' serial count ++ spare registry (serial + count)
          (statements.find? fun s => (made? registry s).isNone) := by
  induction statements generalizing serial with
  | nil => exact ⟨0, rfl, rfl⟩
  | cons s statements ih =>
      have h := attempt_construct registry serial s
      rw [constructAll]
      generalize construct registry serial s = first at h ⊢
      cases h with
      | unknown e hrefused hmade =>
          exact ⟨0, rfl, by simp [spare, hmade, hrefused, serials]⟩
      | refused fresh e hrefused hmade =>
          exact ⟨0, rfl, by simp [spare, hmade, hrefused, serials, kind, Event.serial]⟩
      | failed fresh d arguments e hrefused hmade =>
          exact ⟨1, rfl, by simp [spare, hmade, hrefused, serials, kind, Event.serial]⟩
      | taken fresh d arguments hmade =>
          obtain ⟨count, hprepared, hcreated⟩ := ih (serial + 1)
          refine ⟨count + 1, ?_, ?_⟩
          · simp only [serials_append, hprepared]
            rfl
          · simp only [serials_append, hcreated]
            rw [List.find?_cons_of_neg (by simp [hmade]), Nat.add_right_comm]
            rfl

end Pipeline

namespace Session

open Pipeline

variable {history : List (Operation δ)} {script : String} {e : Environment δ}

theorem destroyed_of_not_accepts (h : ¬(after history).Accepts script e) :
    serials .destroyed ((after history).events (.configure script e)) =
      (after history).held ++
        serials .prepared ((after history).events (.configure script e)) := by
  have hstage : ¬((after history).perform (.configure script e)).pipeline.isConfigured := by
    rw [isConfigured_perform_iff]
    rintro (⟨_, _, hop, haccepts⟩ | ⟨hkeeps, _⟩)
    · cases hop
      exact h haccepts
    · simp [Operation.tearsDown] at hkeeps
  have htears : (Operation.configure script e).tearsDown = true := rfl
  rw [destroyed_events, if_pos htears, if_neg hstage]

theorem created_of_not_accepts (h : ¬(after history).Accepts script e) :
    ∃ count, serials .prepared ((after history).events (.configure script e)) =
        List.range' (after history).next count ∧
      serials .created ((after history).events (.configure script e)) =
        List.range' (after history).next count ++
          spare e.registry ((after history).next + count) (culprit? e.registry script) := by
  obtain ⟨_, _, hevents⟩ | ⟨hok, _⟩ :=
    configure_eq_attempted (after history).next script e (after history).pipeline
  · obtain ⟨count, hprepared, hcreated⟩ := serials_constructAll e.registry (after history).next
      ((Script.parse script).toOption.getD [])
    rw [← attempted] at hprepared hcreated
    refine ⟨count, ?_, ?_⟩
    · rw [events, Operation.apply, hevents]
      simp [serials_destroyAll, hprepared]
    · rw [events, Operation.apply, hevents]
      simp [serials_destroyAll, hcreated, culprit?]
  · exact absurd hok h

/-- A failed configuration destroys whatever it prepared. It destroys everything that it
created exactly if the statement that fails is not one that was refused its arguments. -/
theorem destroyed_iff_of_not_accepts (h : ¬(after history).Accepts script e) :
    (∀ n ∈ serials .prepared ((after history).events (.configure script e)),
      n ∈ serials .destroyed ((after history).events (.configure script e))) ∧
    ((∀ n ∈ serials .created ((after history).events (.configure script e)),
      n ∈ serials .destroyed ((after history).events (.configure script e))) ↔
        ∀ s, culprit? e.registry script = some s → refused e.registry s = false) := by
  obtain ⟨count, hprepared, hcreated⟩ := created_of_not_accepts h
  rw [destroyed_of_not_accepts h, hcreated, hprepared]
  refine ⟨fun n hn => List.mem_append_right _ hn, ?_⟩
  have hspare : (after history).next + count ∉
      (after history).held ++ List.range' (after history).next count := by
    intro hmem
    rcases List.mem_append.mp hmem with hheld | hnew
    · have hlt := (sound_after history).ledger.lt_of_mem hheld
      omega
    · have hlt := (List.mem_range'_1.mp hnew).2
      omega
  constructor
  · intro hall s hs
    cases hrefused : refused e.registry s with
    | false => rfl
    | true =>
        refine absurd (hall _ (List.mem_append_right _ ?_)) hspare
        simp [spare, hs, hrefused]
  · intro hnone n hn
    have hempty : spare e.registry ((after history).next + count)
        (culprit? e.registry script) = [] := by
      cases hs : culprit? e.registry script with
      | none => rfl
      | some s => simp [spare, hnone s hs]
    rw [hempty, List.append_nil] at hn
    exact List.mem_append_right _ hn

/-- The second statement has no target for its column, so its instance, the third of the
session, is left alone. -/
theorem destroyed_iff_of_missing_target :
    serials .created ((after [.configure "drop :a" ⟨"", Registry.standard, .empty⟩]).events
        (.configure "drop :b\nrename :c" ⟨"", .standard, .empty⟩)) = [1, 2] ∧
      serials .destroyed ((after [.configure "drop :a" ⟨"", Registry.standard, .empty⟩]).events
        (.configure "drop :b\nrename :c" ⟨"", .standard, .empty⟩)) = [0, 1] ∧
      ¬∀ s, culprit? Registry.standard "drop :b\nrename :c" = some s →
        refused Registry.standard s = false := by
  have h := @destroyed_iff_of_not_accepts BuiltIn _
    [.configure "drop :a" ⟨"", Registry.standard, .empty⟩] "drop :b\nrename :c"
    ⟨"", .standard, .empty⟩ (by decide +kernel)
  refine ⟨by decide +kernel, by decide +kernel, ?_⟩
  rw [← h.2]
  decide +kernel

/-- Not every instance that a failed configuration creates is destroyed. -/
theorem exists_not_destroyed :
    ∃ (script : String) (e : Environment BuiltIn), ¬(after []).Accepts script e ∧
      serials .created ((after []).events (.configure script e)) = [0] ∧
      serials .destroyed ((after []).events (.configure script e)) = [] :=
  ⟨"rename :a", ⟨"", .standard, .empty⟩, by decide +kernel, by decide +kernel, by decide +kernel⟩

end Session

end RowScript
