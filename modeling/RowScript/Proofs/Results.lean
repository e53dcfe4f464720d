import Mathlib.Data.List.Forall2

/-!
Lists of results. Operations that go through a list and give up at the first element that
fails are known element by element where they succeed. Such lists can be cut, put together
and sent through one operation after the other.
-/

namespace RowScript

variable {α β γ : Type}

theorem forall₂_append_iff {R : α → β → Prop} {a b : List α} {out : List β} :
    List.Forall₂ R (a ++ b) out ↔
      ∃ x y, List.Forall₂ R a x ∧ List.Forall₂ R b y ∧ out = x ++ y := by
  constructor
  · intro h
    refine ⟨out.take a.length, out.drop a.length, ?_, ?_, (List.take_append_drop _ _).symm⟩
    · have htake := List.forall₂_take a.length h
      rwa [List.take_left] at htake
    · have hdrop := List.forall₂_drop a.length h
      rwa [List.drop_left] at hdrop
  · intro ⟨x, y, hx, hy, hout⟩
    rw [hout]
    exact List.rel_append hx hy

theorem forall₂_comp_iff {R : α → β → Prop} {S : β → γ → Prop} {rows : List α} {out : List γ} :
    (∃ mid, List.Forall₂ R rows mid ∧ List.Forall₂ S mid out) ↔
      List.Forall₂ (fun row done => ∃ middle, R row middle ∧ S middle done) rows out := by
  constructor
  · intro ⟨mid, hfirst, hsecond⟩
    induction hfirst generalizing out with
    | nil =>
        rw [List.forall₂_nil_left_iff.mp hsecond]
        exact .nil
    | cons hrow hfirst ih =>
        obtain ⟨done, rest, hdone, hrest, rfl⟩ := List.forall₂_cons_left_iff.mp hsecond
        exact .cons ⟨_, hrow, hdone⟩ (ih hrest)
  · intro h
    induction h with
    | nil => exact ⟨[], .nil, .nil⟩
    | cons hrow h ih =>
        obtain ⟨middle, hfirst, hsecond⟩ := hrow
        obtain ⟨mid, hrows, hout⟩ := ih
        exact ⟨middle :: mid, .cons hfirst hrows, .cons hsecond hout⟩

instance decidableEqError {ε : Type} [DecidableEq ε] (result : Except ε α) (e : ε) :
    Decidable (result = .error e) :=
  match result with
  | .ok _ => isFalse nofun
  | .error other => decidable_of_iff (other = e) ⟨congrArg _, Except.error.inj⟩

theorem exists_getElem? {R : α → β → Prop} {xs : List α} {ys : List β}
    (h : List.Forall₂ R xs ys) {i : Nat} {x : α} (hx : xs[i]? = some x) :
    ∃ y, ys[i]? = some y ∧ R x y := by
  induction h generalizing i with
  | nil => cases hx
  | cons hxy _ ih =>
      cases i with
      | zero =>
          obtain rfl := Option.some.inj hx
          exact ⟨_, rfl, hxy⟩
      | succ i => exact ih hx

end RowScript
