import RowScript.Proofs.Locations
import RowScript.Proofs.Segments

/-!
Scripts put together line by line. Behind another script, a script is read as if it stood
alone, only further down, and neither quotes nor comments of the first one matter to it.
Lines without a statement can therefore be put in anywhere, and all that changes is how
the lines behind them are counted.
-/

namespace RowScript

def Statement.relocate (move : Nat → Nat) (s : Statement) : Statement :=
  { s with line := move s.line }

def ScriptError.relocate (move : Nat → Nat) : ScriptError → ScriptError
  | token line cause => token (move line) cause
  | unknownDirective name line => unknownDirective name (move line)
  | statement line cause => statement (move line) cause
  | e => e

namespace Script

open Text

/-- How lines are counted where `count` lines were put in behind the line `place`. -/
def past (place count line : Nat) : Nat :=
  if line ≤ place then line else line + count

/-- A comment or a line of white space. -/
def Silent (line : List Char) : Prop :=
  isComment line = true ∨ ∀ c ∈ line, isBlank c = true

theorem lineStatements_of_silent {line : List Char} (h : Silent line) (number : Nat) :
    lineStatements number line = .ok [] := by
  rw [lineStatements]
  split
  next => rfl
  next hcomment =>
      have hblank := h.resolve_left hcomment
      have htrim : trim line = [] := by
        rw [trim, trimStart, List.dropWhile_eq_nil_iff.mpr hblank]
        rfl
      rw [parts_eq, (closed_of_blank hblank).split_eq]
      simp only [withOffsets, statementsOf, statement?, htrim]
      rfl

theorem statementsFrom_of_silent {texts : List (List Char)} (h : ∀ line ∈ texts, Silent line)
    (number : Nat) : statementsFrom number texts = .ok [] := by
  induction texts generalizing number with
  | nil => rfl
  | cons line texts ih =>
      obtain ⟨hline, htexts⟩ := List.forall_mem_cons.mp h
      simp only [statementsFrom, lineStatements_of_silent hline, ih htexts, List.append_nil]

theorem length_lines_le (text : List Char) : (lines text).length ≤ 1 + text.count '\n' := by
  fun_induction lines text with
  | case1 => exact Nat.zero_le _
  | case2 rest ih =>
      rw [List.count_cons_of_ne (by decide), List.count_cons_self, List.length_cons]
      omega
  | case3 rest ih =>
      rw [List.count_cons_self, List.length_cons]
      omega
  | case4 c rest hreturn hfeed hnone ih => exact Nat.le_add_right 1 _
  | case5 c rest hreturn hfeed line more hsome ih =>
      rw [List.count_cons_of_ne hfeed]
      rwa [hsome] at ih

theorem line_le_of_parse {script : String} {statements : List Statement} {s : Statement}
    (h : parse script = .ok statements) (hs : s ∈ statements) :
    1 ≤ s.line ∧ s.line ≤ 1 + script.toList.count '\n' := by
  obtain ⟨line, hline, -⟩ := exists_line_of_mem h hs
  exact ⟨hline.pos, hline.le.trans (length_lines_le _)⟩

theorem exists_token_of_parse {script : String} {e : ScriptError} (h : parse script = .error e) :
    ∃ line cause, e = .token line cause ∧ 1 ≤ line ∧ line ≤ 1 + script.toList.count '\n' := by
  obtain ⟨i, text, htext, herror⟩ := error_of_statementsFrom h
  obtain ⟨cause, hcause, -⟩ := pointsInto_of_lineStatements herror
  have hline := isLine_of_getElem? htext
  exact ⟨1 + i, cause, hcause, hline.pos, hline.le.trans (length_lines_le _)⟩

/-- What is read from a script whose lines are counted otherwise. -/
def relocate (move : Nat → Nat) (result : Except ScriptError (List Statement)) :
    Except ScriptError (List Statement) :=
  (result.map (List.map (Statement.relocate move))).mapError (ScriptError.relocate move)

theorem relocate_bind (move : Nat → Nat) (first second : Except ScriptError (List Statement)) :
    relocate move (first.bind fun before => second.map (before ++ ·)) =
      (relocate move first).bind fun before => (relocate move second).map (before ++ ·) := by
  cases first with
  | error e => rfl
  | ok before =>
      cases second with
      | error e => rfl
      | ok behind => simp only [Except.bind, relocate, Except.map, Except.mapError, List.map_append]

theorem relocate_relocate (move next : Nat → Nat) (result : Except ScriptError (List Statement)) :
    relocate next (relocate move result) = relocate (next ∘ move) result := by
  cases result with
  | error e => cases e <;> rfl
  | ok found => simp only [relocate, Except.map, Except.mapError, List.map_map]; rfl

theorem relocate_id (result : Except ScriptError (List Statement)) :
    relocate id result = result := by
  cases result with
  | error e => cases e <;> rfl
  | ok found => exact congrArg Except.ok (List.map_id found)

/-- Only the lines that a script has matter to what is read from it. -/
theorem relocate_parse_congr {move other : Nat → Nat} {script : String}
    (h : ∀ line, 1 ≤ line → line ≤ 1 + script.toList.count '\n' → move line = other line) :
    relocate move (parse script) = relocate other (parse script) := by
  cases hparse : parse script with
  | error e =>
      obtain ⟨line, cause, rfl, hlow, hhigh⟩ := exists_token_of_parse hparse
      simp only [relocate, Except.map, Except.mapError, ScriptError.relocate, h line hlow hhigh]
  | ok found =>
      refine congrArg Except.ok (List.map_congr_left fun s hs => ?_)
      obtain ⟨hlow, hhigh⟩ := line_le_of_parse hparse hs
      rw [Statement.relocate, Statement.relocate, h s.line hlow hhigh]

theorem parse_behind (first second : String) :
    parse (first ++ "\n" ++ second) = (parse first).bind fun before =>
      (relocate (· + (1 + first.toList.count '\n')) (parse second)).map (before ++ ·) := by
  have hdown (count : Nat) : ScriptError.down count = ScriptError.relocate (· + count) := by
    funext e
    cases e <;> rfl
  rw [parse_append, Nat.add_comm 1 (first.toList.count '\n'), statementsFrom_add, hdown, parse,
    parse]
  rfl

theorem parse_of_silent {script : String} (h : ∀ line ∈ lines script.toList, Silent line) :
    parse script = .ok [] :=
  statementsFrom_of_silent h 1

theorem parse_insert (first second : String) {middle : String}
    (h : ∀ line ∈ lines middle.toList, Silent line) :
    parse (first ++ "\n" ++ middle ++ "\n" ++ second) =
      relocate (past (1 + first.toList.count '\n') (1 + middle.toList.count '\n'))
        (parse (first ++ "\n" ++ second)) := by
  have hmiddle : parse (middle ++ "\n" ++ second) =
      relocate (· + (1 + middle.toList.count '\n')) (parse second) := by
    rw [parse_behind, parse_of_silent h, Except.bind]
    cases relocate (· + (1 + middle.toList.count '\n')) (parse second) <;> rfl
  generalize 1 + middle.toList.count '\n' = count at hmiddle ⊢
  have hfirst : relocate (past (1 + first.toList.count '\n') count) (parse first) =
      parse first :=
    (relocate_parse_congr fun _ _ hline => if_pos hline).trans (relocate_id _)
  have hsecond : relocate (past (1 + first.toList.count '\n') count)
      (relocate (· + (1 + first.toList.count '\n')) (parse second)) =
        relocate (· + (1 + first.toList.count '\n')) (relocate (· + count) (parse second)) := by
    rw [relocate_relocate, relocate_relocate]
    refine relocate_parse_congr fun line hline _ => ?_
    rw [Function.comp_apply, Function.comp_apply, past, if_neg (by omega), Nat.add_right_comm]
  rw [parse_behind first second, relocate_bind, hfirst, hsecond, ← hmiddle, ← parse_behind]
  simp only [String.append_assoc]

/-- How a script and another one below it are read. -/
structure LineByLine (first second : String) : Prop where
  failsFirst : ∀ e, parse first = .error e → parse (first ++ "\n" ++ second) = .error e
  failsSecond : ∀ before e, parse first = .ok before → parse second = .error e →
    ∃ line cause, e = .token line cause ∧
      parse (first ++ "\n" ++ second) =
        .error (.token (line + (1 + first.toList.count '\n')) cause)
  succeeds : ∀ before behind, parse first = .ok before → parse second = .ok behind →
    parse (first ++ "\n" ++ second) =
      .ok (before ++ behind.map (Statement.down (1 + first.toList.count '\n')))
  inserts : ∀ middle : String, (∀ line ∈ lines middle.toList, Silent line) →
    parse (first ++ "\n" ++ middle ++ "\n" ++ second) =
      relocate (past (1 + first.toList.count '\n') (1 + middle.toList.count '\n'))
        (parse (first ++ "\n" ++ second))

/-- Scripts one below the other are read one after the other, whatever texts they are. The
first error counts, the second script is further down by the lines of the first one and is
otherwise read as if it stood alone, and comments and blank lines between the two move it
further down and do nothing else. -/
theorem parse_line_by_line (first second : String) : LineByLine first second where
  failsFirst e h := by
    rw [parse_behind, h]
    rfl
  failsSecond before e hfirst hsecond := by
    obtain ⟨line, cause, rfl, -, -⟩ := exists_token_of_parse hsecond
    refine ⟨line, cause, rfl, ?_⟩
    rw [parse_behind, hfirst, hsecond]
    rfl
  succeeds before behind hfirst hsecond := by
    rw [parse_behind, hfirst, hsecond]
    rfl
  inserts middle h := parse_insert first second h

example : (parse "a 'x\\\r\n# 'y\nb; c").toOption =
    some [⟨1, "a", "'x\\", 2⟩, ⟨3, "b", "", 1⟩, ⟨3, "c", "", 4⟩] := by
  decide +kernel

end Script

end RowScript
