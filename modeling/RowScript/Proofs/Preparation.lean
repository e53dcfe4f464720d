import RowScript.Directive.BuiltIn

/-!
Preparing a directive that has been in use. An instance keeps nothing but its configuration, and
whatever happens to it, it stays a directive of its kind. Arguments that can be used settle the
whole configuration, and of others the first that is of no use settles the error, so what the
instance has been through does not show.
-/

namespace RowScript

/-- What can be done with an instance of a directive. -/
inductive Use where
  | prepare (arguments : Arguments)
  | execute (context : Context) (rows : List Row)
  | destroy

namespace BuiltIn

/-- The instance behind a use, whatever came of it. A built-in directive has nothing to release,
so it is the same one after it has been destroyed. -/
def behind (d : BuiltIn) : Use → BuiltIn
  | .prepare arguments => (Directive.prepare arguments d).1
  | .execute context rows => (Directive.execute d context rows).1
  | .destroy => d

/-- The directive of the same kind before its configuration. -/
def bare : BuiltIn → BuiltIn
  | getDate .. => getDate "" "" .milliseconds
  | parseAsDate _ => parseAsDate ""
  | rename .. => rename "" ""
  | drop _ => drop []
  | fill .. => fill "" ""

variable {d fresh used : BuiltIn} {a : Arguments}

/-- Arguments that cannot be used leave a directive of the same kind, too. -/
theorem bare_prepare (a : Arguments) (d : BuiltIn) : (prepare a d).1.bare = d.bare := by
  cases d with
  | getDate | parseAsDate | rename | drop | fill =>
      simp only [prepare]
      repeat' split
      all_goals rfl

theorem bare_behind (d : BuiltIn) (use : Use) : (d.behind use).bare = d.bare := by
  cases use with
  | prepare arguments => exact bare_prepare arguments d
  | execute context rows => rfl
  | destroy => rfl

theorem bare_foldl_behind (history : List Use) (d : BuiltIn) :
    (history.foldl behind d).bare = d.bare := by
  induction history generalizing d with
  | nil => rfl
  | cons use history ih => rw [List.foldl_cons, ih, bare_behind]

/-- A directive is prepared as if it had no configuration. -/
theorem prepare_bare (a : Arguments) (d : BuiltIn) :
    (prepare a d).2 = (prepare a d.bare).2 ∧
      ((prepare a d.bare).2 = .ok () → (prepare a d).1 = (prepare a d.bare).1) := by
  cases d with
  | getDate =>
      simp only [prepare, bare]
      cases a.column "source" with
      | error e => exact ⟨rfl, fun hok => by cases hok⟩
      | ok source =>
          cases a.column "destination" with
          | error e => exact ⟨rfl, fun hok => by cases hok⟩
          | ok destination =>
              cases fieldOf a with
              | error e => exact ⟨rfl, fun hok => by cases hok⟩
              | ok field => exact ⟨rfl, fun _ => rfl⟩
  | parseAsDate =>
      simp only [prepare, bare]
      cases a.column "column" with
      | error e => exact ⟨rfl, fun hok => by cases hok⟩
      | ok column => exact ⟨rfl, fun _ => rfl⟩
  | rename =>
      simp only [prepare, bare]
      cases a.column "source" with
      | error e => exact ⟨rfl, fun hok => by cases hok⟩
      | ok source =>
          cases a.column "target" with
          | error e => exact ⟨rfl, fun hok => by cases hok⟩
          | ok target => exact ⟨rfl, fun _ => rfl⟩
  | drop =>
      simp only [prepare, bare]
      cases a.columns "columns" with
      | error e => exact ⟨rfl, fun hok => by cases hok⟩
      | ok columns => exact ⟨rfl, fun _ => rfl⟩
  | fill =>
      simp only [prepare, bare]
      cases a.column "column" with
      | error e => exact ⟨rfl, fun hok => by cases hok⟩
      | ok column =>
          cases contentOf a with
          | error e => exact ⟨rfl, fun hok => by cases hok⟩
          | ok content => exact ⟨rfl, fun _ => rfl⟩

theorem prepare_of_same_kind (h : used.bare = fresh.bare) (a : Arguments) :
    (prepare a used).2 = (prepare a fresh).2 ∧
      ((prepare a fresh).2 = .ok () → (prepare a used).1 = (prepare a fresh).1) := by
  obtain ⟨hused, hsame⟩ := prepare_bare a used
  obtain ⟨hfresh, hsame'⟩ := prepare_bare a fresh
  rw [h] at hused hsame
  refine ⟨hused.trans hfresh.symm, fun hok => ?_⟩
  have hbare := hfresh.symm.trans hok
  exact (hsame hbare).trans (hsame' hbare).symm

theorem getDate_of_prepare {source destination : String} {field : DateField}
    (hop : a.contains "op" = false)
    (hok : (prepare a (getDate source destination field)).2 = .ok ()) :
    ∃ source' destination',
      a.column "source" = .ok source' ∧ a.column "destination" = .ok destination' ∧
      (prepare a (getDate source destination field)).1 =
        getDate source' destination' .milliseconds := by
  have hfield : fieldOf a = .ok .milliseconds := by
    rw [fieldOf, hop]
    rfl
  simp only [prepare, hfield] at hok ⊢
  cases hsource : a.column "source" with
  | error e => rw [hsource] at hok; cases hok
  | ok source' =>
      cases hdestination : a.column "destination" with
      | error e => rw [hsource, hdestination] at hok; cases hok
      | ok destination' => exact ⟨source', destination', rfl, rfl, rfl⟩

/-- An instance that has been in use takes arguments as a fresh one does. Once they are taken the
two are the same instance, so no batch and no context tells them apart, and a part of a timestamp
that the arguments leave open is not the one that earlier arguments gave. -/
structure Renewed (a : Arguments) (used fresh : BuiltIn) : Prop where
  result : (Directive.prepare a used).2 = (Directive.prepare a fresh).2
  same : (Directive.prepare a fresh).2 = .ok () →
    (Directive.prepare a used).1 = (Directive.prepare a fresh).1
  runs : (Directive.prepare a fresh).2 = .ok () → ∀ (c : Context) (rows : List Row),
    Directive.execute (Directive.prepare a used).1 c rows =
      Directive.execute (Directive.prepare a fresh).1 c rows
  usual : (Directive.prepare a fresh).2 = .ok () → a.contains "op" = false →
    ∀ source destination field, fresh = getDate source destination field →
      ∃ source' destination',
        a.column "source" = .ok source' ∧ a.column "destination" = .ok destination' ∧
        (Directive.prepare a used).1 = getDate source' destination' .milliseconds

/-- The arguments may be any, those that another usage has bound included. -/
theorem renewed_after (fresh : BuiltIn) (history : List Use) (a : Arguments) :
    Renewed a (history.foldl behind fresh) fresh := by
  obtain ⟨hresult, hmade⟩ := prepare_of_same_kind (bare_foldl_behind history fresh) a
  have hsame : (Directive.prepare a fresh).2 = .ok () →
      (Directive.prepare a (history.foldl behind fresh)).1 = (Directive.prepare a fresh).1 := hmade
  constructor
  case result => exact hresult
  case same => exact hsame
  case runs =>
    intro hok c rows
    rw [hsame hok]
  case usual =>
    rintro hok hop source destination field rfl
    rw [hsame hok]
    exact getDate_of_prepare hop hok

/-- The arguments in between fail for their operation, when the columns are taken already. -/
example :
    let named (source destination : String) : List (String × Token) :=
      [("source", .column source), ("destination", .column destination)]
    let d := [
      Use.prepare ⟨"get-date", "", named "a" "b" ++ [("op", .identifier "dow")]⟩,
      Use.prepare ⟨"get-date", "", named "c" "d" ++ [("op", .identifier "era")]⟩
    ].foldl behind (getDate "" "" .milliseconds)
    d = getDate "c" "d" .dayOfWeek ∧
      (Directive.prepare ⟨"get-date", "", named "e" "f"⟩ d).1 = getDate "e" "f" .milliseconds :=
  ⟨rfl, rfl⟩

end BuiltIn

end RowScript
