import Mathlib.Data.List.TakeWhile
import RowScript.Proofs.Splitting

/-!
Scripts line by line. A line feed between two scripts keeps their statements apart,
whatever the first one ends with: a carriage return in front of the line feed goes with
it, but as white space it would have been trimmed off the last statement of its line
anyway. A line's number reaches its statements and errors and nothing else.
-/

namespace RowScript.Text

theorem lines_cons {c : Char} {rest : List Char} (hc : c ≠ '\n')
    (hr : c = '\r' → rest.head? ≠ some '\n') :
    lines (c :: rest) =
      match lines rest with
      | [] => [[c]]
      | line :: more => (c :: line) :: more := by
  rw [lines.eq_def]
  split
  next h => simp at h
  next h =>
      obtain ⟨hreturn, rfl⟩ := List.cons.inj h
      exact absurd rfl (hr hreturn)
  next h => exact absurd (List.cons.inj h).1 hc
  next h =>
      obtain ⟨rfl, rfl⟩ := List.cons.inj h
      rfl

/-- A line is what stands in front of a line feed, but for a carriage return. -/
theorem lines_append_lineFeed {text : List Char} (h : '\n' ∉ text) :
    ∃ line, (line = text ∨ line ++ ['\r'] = text) ∧
      ∀ rest, lines (text ++ '\n' :: rest) = line :: lines rest := by
  induction text with
  | nil => exact ⟨[], .inl rfl, fun rest => by rw [List.nil_append, lines]⟩
  | cons c text ih =>
      obtain ⟨hc, htext⟩ := not_or.mp (mt List.mem_cons.mpr h)
      obtain ⟨line, hsame, hline⟩ := ih htext
      by_cases hreturn : c = '\r' ∧ text = []
      · obtain ⟨rfl, rfl⟩ := hreturn
        exact ⟨[], .inr rfl, fun rest => by rw [List.cons_append, List.nil_append, lines]⟩
      · refine ⟨c :: line, hsame.imp (congrArg (c :: ·)) (congrArg (c :: ·)), fun rest => ?_⟩
        rw [List.cons_append, lines_cons (Ne.symm hc), hline]
        intro hcr
        obtain ⟨d, more, rfl⟩ := List.exists_cons_of_ne_nil fun ht => hreturn ⟨hcr, ht⟩
        exact fun hd => htext (by simp_all)

theorem lines_append {text rest line : List Char} {more : List (List Char)} (h : '\n' ∉ text)
    (hr : text.getLast? ≠ some '\r') (hrest : lines rest = line :: more) :
    lines (text ++ rest) = (text ++ line) :: more := by
  induction text with
  | nil => exact hrest
  | cons c text ih =>
      obtain ⟨hc, htext⟩ := not_or.mp (mt List.mem_cons.mpr h)
      cases text with
      | nil =>
          rw [List.cons_append, lines_cons (Ne.symm hc), List.nil_append, hrest]
          · rfl
          · exact fun hcr => absurd (by rw [hcr]; rfl) hr
      | cons d text =>
          rw [List.cons_append, lines_cons (Ne.symm hc), ih htext (by simpa using hr)]
          · rfl
          · intro _ hd
            simp_all

theorem lines_of_not_mem {text : List Char} (h : '\n' ∉ text) :
    lines text = if text = [] then [] else [text] := by
  induction text with
  | nil => rfl
  | cons c text ih =>
      obtain ⟨hc, htext⟩ := not_or.mp (mt List.mem_cons.mpr h)
      rw [lines_cons (Ne.symm hc), ih htext]
      · cases text <;> rfl
      · intro _ hd
        exact htext (List.mem_of_mem_head? hd)

theorem trimStart_append_of_blank {lead : List Char} (h : ∀ c ∈ lead, isBlank c = true)
    (text : List Char) : trimStart (lead ++ text) = trimStart text :=
  List.dropWhile_append_of_pos h

theorem trimStart_append {text : List Char} (h : trimStart text ≠ []) (rest : List Char) :
    trimStart (text ++ rest) = trimStart text ++ rest := by
  have hne : (text.dropWhile isBlank).isEmpty = false := List.isEmpty_eq_false_iff.mpr h
  rw [trimStart, List.dropWhile_append, hne]
  rfl

theorem trimEnd_append_of_blank {trail : List Char} (h : ∀ c ∈ trail, isBlank c = true)
    (text : List Char) : trimEnd (text ++ trail) = trimEnd text := by
  have hreverse : ∀ c ∈ trail.reverse, isBlank c = true :=
    fun c hc => h c (List.mem_reverse.mp hc)
  rw [trimEnd, List.reverse_append, List.dropWhile_append_of_pos hreverse, trimEnd]

theorem trimEnd_append {text : List Char} (h : trimEnd text ≠ []) (front : List Char) :
    trimEnd (front ++ text) = front ++ trimEnd text := by
  have hne : (text.reverse.dropWhile isBlank).isEmpty = false := by
    rw [List.isEmpty_eq_false_iff]
    exact fun hnil => h (by rw [trimEnd, hnil, List.reverse_nil])
  rw [trimEnd, List.reverse_append, List.dropWhile_append, hne, if_neg Bool.false_ne_true,
    List.reverse_append, List.reverse_reverse, trimEnd]

/-- Trimming takes off all the white space around a text that has none at its ends. -/
theorem trim_surrounded {lead text trail : List Char} (hlead : ∀ c ∈ lead, isBlank c = true)
    (htrail : ∀ c ∈ trail, isBlank c = true) (hstart : trimStart text = text)
    (hend : trimEnd text = text) : trim (lead ++ (text ++ trail)) = text := by
  rw [trim, trimStart_append_of_blank hlead]
  by_cases htext : text = []
  · subst htext
    have hblank : trimStart trail = [] := List.dropWhile_eq_nil_iff.mpr htrail
    rw [List.nil_append, hblank]
    rfl
  · rw [trimStart_append (by rwa [hstart]), hstart, trimEnd_append_of_blank htrail, hend]

theorem exists_surrounding (text : List Char) :
    ∃ lead trail, (∀ c ∈ lead, isBlank c = true) ∧ (∀ c ∈ trail, isBlank c = true) ∧
      text = lead ++ (trim text ++ trail) := by
  refine ⟨text.takeWhile isBlank, ((trimStart text).reverse.takeWhile isBlank).reverse,
    fun c hc => List.mem_takeWhile_imp hc,
    fun c hc => List.mem_takeWhile_imp (List.mem_reverse.mp hc), ?_⟩
  rw [trim, trimEnd, ← List.reverse_append, List.takeWhile_append_dropWhile, List.reverse_reverse,
    trimStart, List.takeWhile_append_dropWhile]

end RowScript.Text

namespace RowScript.Script

open Text

theorem isComment_iff (line : List Char) :
    isComment line = true ↔ ['#'] <+: trimStart line ∨ ['/', '/'] <+: trimStart line := by
  rw [isComment]
  split
  next more h => simp [h]
  next more h => simp [h]
  next hhash hslash =>
      simp only [Bool.false_eq_true, false_iff, not_or]
      exact ⟨fun ⟨more, h⟩ => hhash more h.symm, fun ⟨more, h⟩ => hslash more h.symm⟩

theorem isComment_return (line : List Char) : isComment (line ++ ['\r']) = isComment line := by
  rw [Bool.eq_iff_iff, isComment_iff, isComment_iff]
  by_cases h : trimStart line = []
  · have hall := List.dropWhile_eq_nil_iff.mp h
    have hreturn : trimStart (line ++ ['\r']) = [] := by
      rw [trimStart_append_of_blank hall]
      rfl
    rw [h, hreturn]
  · have hhash : ['#'] ≠ trimStart line ++ ['\r'] :=
      fun hmark => by simpa using congrArg List.getLast? hmark
    have hslash : ['/', '/'] ≠ trimStart line ++ ['\r'] :=
      fun hmark => by simpa using congrArg List.getLast? hmark
    rw [trimStart_append h, List.prefix_concat_iff, List.prefix_concat_iff,
      or_iff_right hhash, or_iff_right hslash]

theorem statement?_return (line offset : Nat) (part : List Char) :
    statement? line offset (part ++ ['\r']) = statement? line offset part := by
  have hblank : ∀ c ∈ ['\r'], isBlank c = true := List.forall_mem_singleton.mpr rfl
  by_cases h : trimStart part = []
  · have hall := List.dropWhile_eq_nil_iff.mp h
    have htrim : trim (part ++ ['\r']) = [] := by
      rw [trim, trimStart_append_of_blank hall]
      rfl
    have hpart : trim part = [] := by rw [trim, h]; rfl
    simp only [statement?, htrim, hpart]
  · have htrim : trim (part ++ ['\r']) = trim part := by
      rw [trim, trimStart_append h, trimEnd_append_of_blank hblank, trim]
    have hbytes : byteLength (part ++ ['\r']) - byteLength (trimStart (part ++ ['\r'])) =
        byteLength part - byteLength (trimStart part) := by
      rw [trimStart_append h, byteLength_append, byteLength_append, Nat.add_sub_add_right]
    simp only [statement?, htrim, hbytes]

theorem extendFirst_append (c : Char) (front : List (List Char)) (last : List Char) :
    ∃ front' last', extendFirst c (front ++ [last]) = front' ++ [last'] ∧
      ∀ more, extendFirst c (front ++ [last ++ more]) = front' ++ [last' ++ more] := by
  cases front with
  | nil => exact ⟨[], c :: last, rfl, fun _ => rfl⟩
  | cons part front => exact ⟨(c :: part) :: front, last, rfl, fun _ => rfl⟩

/-- A carriage return at the end of a line goes to its last part, in whatever state the
quotes are. -/
theorem split_return (quote : Option Char) (text : List Char) :
    ∃ front last, split quote text = front ++ [last] ∧
      split quote (text ++ ['\r']) = front ++ [last ++ ['\r']] := by
  fun_induction split quote text with
  | case1 quote => cases quote <;> exact ⟨[], [], rfl, by simp [split, extendFirst]⟩
  | case2 rest ih =>
      obtain ⟨front, last, hsplit, hreturn⟩ := ih
      refine ⟨[] :: front, last, by rw [hsplit]; rfl, ?_⟩
      rw [List.cons_append, split, if_pos rfl, hreturn]
      rfl
  | case3 c rest hc ih =>
      obtain ⟨front, last, hsplit, hreturn⟩ := ih
      obtain ⟨front', last', hfirst, hmore⟩ := extendFirst_append c front last
      refine ⟨front', last', by rw [hsplit, hfirst], ?_⟩
      rw [List.cons_append, split, if_neg hc, hreturn, hmore]
  | case4 quote c rest ih =>
      obtain ⟨front, last, hsplit, hreturn⟩ := ih
      obtain ⟨front', last', hfirst, hmore⟩ := extendFirst_append c front last
      obtain ⟨front'', last'', hfirst', hmore'⟩ := extendFirst_append '\\' front' last'
      refine ⟨front'', last'', by rw [hsplit, hfirst, hfirst'], ?_⟩
      rw [List.cons_append, List.cons_append, split, hreturn, hmore, hmore']
  | case5 quote c rest hc ih =>
      obtain ⟨front, last, hsplit, hreturn⟩ := ih
      by_cases hlast : c = '\\' ∧ rest = []
      · obtain ⟨rfl, rfl⟩ := hlast
        exact ⟨[], ['\\'], by simp [split, extendFirst], by simp [split, extendFirst]⟩
      · obtain ⟨front', last', hfirst, hmore⟩ := extendFirst_append c front last
        refine ⟨front', last', by rw [hsplit, hfirst], ?_⟩
        rw [List.cons_append, split, hreturn, hmore]
        intro d more hslash hpair
        subst hslash
        obtain ⟨d', more', hrest⟩ := List.exists_cons_of_ne_nil fun h => hlast ⟨rfl, h⟩
        exact hc d' more' rfl hrest

theorem split_ne_nil (quote : Option Char) (text : List Char) : split quote text ≠ [] := by
  obtain ⟨front, last, hsplit, -⟩ := split_return quote text
  simp [hsplit]

theorem statementsOf_return (number offset : Nat) (front : List (List Char))
    (last : List Char) :
    statementsOf number (withOffsets offset (front ++ [last ++ ['\r']])) =
      statementsOf number (withOffsets offset (front ++ [last])) := by
  induction front generalizing offset with
  | nil => simp only [List.nil_append, withOffsets, statementsOf, statement?_return]
  | cons part front ih => simp only [List.cons_append, withOffsets, statementsOf, ih]

theorem statementsOf_split_return (number offset : Nat) (line : List Char) :
    statementsOf number (withOffsets offset (split none (line ++ ['\r']))) =
      statementsOf number (withOffsets offset (split none line)) := by
  obtain ⟨front, last, hsplit, hreturn⟩ := split_return none line
  rw [hsplit, hreturn, statementsOf_return]

theorem lineStatements_return (number : Nat) (line : List Char) :
    lineStatements number (line ++ ['\r']) = lineStatements number line := by
  rw [lineStatements, lineStatements, isComment_return, parts_eq, parts_eq,
    statementsOf_split_return]

theorem lineStatements_nil (number : Nat) : lineStatements number [] = .ok [] := by
  rw [lineStatements, parts_eq]
  rfl

theorem statementsFrom_append (number : Nat) (first rest : List (List Char)) :
    statementsFrom number (first ++ rest) =
      (statementsFrom number first).bind fun found =>
        (statementsFrom (number + first.length) rest).map (found ++ ·) := by
  induction first generalizing number with
  | nil =>
      simp only [List.nil_append, List.length_nil, Nat.add_zero, statementsFrom, Except.bind]
      cases statementsFrom number rest <;> rfl
  | cons line first ih =>
      have hnumber : number + 1 + first.length = number + (line :: first).length := by
        rw [List.length_cons]; omega
      simp only [List.cons_append, statementsFrom, ih, hnumber]
      cases lineStatements number line with
      | error e => rfl
      | ok found =>
          cases statementsFrom (number + 1) first with
          | error e => rfl
          | ok more =>
              simp only [Except.bind]
              cases statementsFrom (number + (line :: first).length) rest with
              | error e => rfl
              | ok last => simp only [Except.map, List.append_assoc]

/-- The lines in front of a line feed hold what the text in front of it holds. -/
theorem lines_split (first : List Char) :
    ∃ closed, closed.length = first.count '\n' + 1 ∧
      (∀ rest, lines (first ++ '\n' :: rest) = closed ++ lines rest) ∧
      ∀ number, statementsFrom number closed = statementsFrom number (lines first) := by
  induction hcount : first.count '\n' generalizing first with
  | zero =>
      have hfeed : '\n' ∉ first := List.count_eq_zero.mp hcount
      obtain ⟨line, hsame, hline⟩ := lines_append_lineFeed hfeed
      refine ⟨[line], rfl, hline, fun number => ?_⟩
      have hstatements : lineStatements number line = lineStatements number first := by
        obtain rfl | rfl := hsame
        · rfl
        · exact (lineStatements_return number line).symm
      rw [lines_of_not_mem hfeed, statementsFrom, hstatements]
      by_cases hempty : first = []
      · subst hempty
        rw [lineStatements_nil]
        rfl
      · rw [if_neg hempty]
        rfl
  | succ n ih =>
      have hfeed : '\n' ∈ first := List.count_pos_iff.mp (by omega)
      obtain ⟨before, after, rfl, hbefore⟩ := List.eq_append_cons_of_mem hfeed
      have hafter : after.count '\n' = n := by
        rw [List.count_append, List.count_cons_self, List.count_eq_zero.mpr hbefore] at hcount
        omega
      obtain ⟨line, -, hline⟩ := lines_append_lineFeed hbefore
      obtain ⟨closed, hlength, hlines, hstatements⟩ := ih after hafter
      refine ⟨line :: closed, by rw [List.length_cons, hlength], fun rest => ?_,
        fun number => ?_⟩
      · rw [List.append_assoc, List.cons_append, hline, hlines, List.cons_append]
      · rw [hline, statementsFrom, statementsFrom, hstatements]

/-- The statements of a script, a line feed and another script. -/
theorem parse_append (first second : String) :
    parse (first ++ "\n" ++ second) =
      (parse first).bind fun found =>
        (statementsFrom (1 + (first.toList.count '\n' + 1)) (lines second.toList)).map
          (found ++ ·) := by
  obtain ⟨closed, hlength, hlines, hstatements⟩ := lines_split first.toList
  have htext : (first ++ "\n" ++ second).toList = first.toList ++ '\n' :: second.toList := by
    simp
  rw [parse, htext, hlines, statementsFrom_append, hstatements, hlength, parse]

end RowScript.Script

namespace RowScript

/-- The statement that many lines further down. -/
def Statement.down (count : Nat) (s : Statement) : Statement :=
  { s with line := s.line + count }

/-- The error that many lines further down. -/
def ScriptError.down (count : Nat) : ScriptError → ScriptError
  | token line cause => token (line + count) cause
  | unknownDirective name line => unknownDirective name (line + count)
  | statement line cause => statement (line + count) cause
  | e => e

namespace Script

theorem statement?_add (line count offset : Nat) (part : List Char) :
    statement? (line + count) offset part =
      ((statement? line offset part).map (Option.map (Statement.down count))).mapError
        (ScriptError.down count) := by
  simp only [statement?]
  split
  next => rfl
  next => split <;> rfl

theorem statementsOf_add (line count : Nat) (found : List (Nat × List Char)) :
    statementsOf (line + count) found =
      ((statementsOf line found).map (List.map (Statement.down count))).mapError
        (ScriptError.down count) := by
  induction found with
  | nil => rfl
  | cons part rest ih =>
      obtain ⟨offset, part⟩ := part
      simp only [statementsOf, statement?_add, ih]
      cases statement? line offset part with
      | error e => rfl
      | ok s =>
          cases statementsOf line rest with
          | error e => rfl
          | ok more => cases s <;> rfl

theorem lineStatements_add (number count : Nat) (line : List Char) :
    lineStatements (number + count) line =
      ((lineStatements number line).map (List.map (Statement.down count))).mapError
        (ScriptError.down count) := by
  rw [lineStatements, lineStatements]
  split
  next => rfl
  next => exact statementsOf_add number count (parts line)

theorem statementsFrom_add (number count : Nat) (found : List (List Char)) :
    statementsFrom (number + count) found =
      ((statementsFrom number found).map (List.map (Statement.down count))).mapError
        (ScriptError.down count) := by
  induction found generalizing number with
  | nil => rfl
  | cons line rest ih =>
      have hnumber : number + count + 1 = number + 1 + count := by omega
      simp only [statementsFrom, lineStatements_add, hnumber, ih]
      cases lineStatements number line with
      | error e => rfl
      | ok first =>
          cases statementsFrom (number + 1) rest with
          | error e => rfl
          | ok more =>
              simp only [Except.map, Except.mapError, List.map_append]

/-- Behind another script the statements are further down, and otherwise the same. -/
theorem parse_append_of_ok {first second : String} {before behind : List Statement}
    (hfirst : parse first = .ok before) (hsecond : parse second = .ok behind) :
    parse (first ++ "\n" ++ second) =
      .ok (before ++ behind.map (Statement.down (first.toList.count '\n' + 1))) := by
  rw [parse] at hsecond
  rw [parse_append, hfirst, statementsFrom_add, hsecond]
  rfl

end Script

end RowScript
