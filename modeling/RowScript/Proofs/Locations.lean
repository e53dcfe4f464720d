import RowScript.Proofs.Lines
import RowScript.Proofs.Positions

/-!
Where statements and errors stand in a script. The parts of a line are put together again
by semicolons, so each of them stands at its offset, and what is found in a part stands in
the line as far behind. Lines are counted from one, and a later part or line is never in
front of an earlier one.
-/

namespace RowScript

open Text

/-- The text holds the name and the arguments of the statement with white space between
them, and the arguments begin at the place. -/
inductive Statement.StandsIn (s : Statement) (place : Nat) (text : List Char) : Prop where
  | intro (front gap behind : List Char)
      (htext : text = front ++ (s.name.toList ++ (gap ++ (s.arguments.toList ++ behind))))
      (hplace : place = byteLength (front ++ (s.name.toList ++ gap)))
      (hname : Grammar.Word s.name.toList) (hgap : ∀ c ∈ gap, isBlank c = true)
      (hne : s.arguments ≠ "" → gap ≠ [])

namespace Statement.StandsIn

variable {s : Statement} {place : Nat} {text : List Char}

theorem stands (h : s.StandsIn place text) : Stands s.arguments.toList place text := by
  obtain ⟨front, gap, behind, rfl, rfl⟩ := h
  exact ⟨front ++ (s.name.toList ++ gap), behind, by simp only [List.append_assoc], rfl⟩

theorem trans {whole : List Char} {base : Nat} (h : s.StandsIn place text)
    (hwhole : Stands text base whole) : s.StandsIn (base + place) whole := by
  obtain ⟨front, gap, behind, rfl, rfl, hname, hgap, hne⟩ := h
  obtain ⟨before, rest, rfl, rfl⟩ := hwhole
  refine .intro (before ++ front) gap (behind ++ rest) ?_ ?_ hname hgap hne
  · simp only [List.append_assoc]
  · rw [List.append_assoc, byteLength_append before]

end Statement.StandsIn

namespace Text

theorem prefix_trimEnd (text : List Char) : trimEnd text <+: text := by
  rw [trimEnd, ← List.reverse_suffix, List.reverse_reverse]
  exact List.dropWhile_suffix _

/-- Trimmed text stands behind the white space at the start. -/
theorem stands_trim (text : List Char) :
    Stands (trim text) (byteLength text - byteLength (trimStart text)) text := by
  have htrim : Stands (trim text) 0 (trimStart text) := stands_front (prefix_trimEnd _)
  exact htrim.trans (stands_of_suffix (List.dropWhile_suffix _))

/-- A text is its first word, white space, and the rest. -/
theorem exists_gap (text : List Char) :
    ∃ gap, text = firstWord text ++
        (gap ++ trimStart (text.drop (firstWord text).length)) ∧
      (∀ c ∈ gap, isBlank c = true) ∧
      (trimStart (text.drop (firstWord text).length) ≠ [] → gap ≠ []) := by
  have hsplit : firstWord text ++ text.dropWhile (!isBlank ·) = text :=
    List.takeWhile_append_dropWhile
  have hdrop : text.drop (firstWord text).length = text.dropWhile (!isBlank ·) := by
    have hleft := @List.drop_left _ (firstWord text) (text.dropWhile (!isBlank ·))
    rwa [hsplit] at hleft
  rw [hdrop, trimStart]
  refine ⟨(text.dropWhile (!isBlank ·)).takeWhile isBlank, ?_, ?_, ?_⟩
  · rw [List.takeWhile_append_dropWhile, hsplit]
  · exact fun c hc => List.mem_takeWhile_imp hc
  · cases hbehind : text.dropWhile (!isBlank ·) with
    | nil => exact fun h => absurd rfl h
    | cons c behind =>
        intro _
        have hc : isBlank c = true := by
          have hne : text.dropWhile (!isBlank ·) ≠ [] := hbehind ▸ List.cons_ne_nil c behind
          simpa [hbehind] using List.head_dropWhile_not (!isBlank ·) hne
        rw [List.takeWhile_cons_of_pos hc]
        exact List.cons_ne_nil _ _

end Text

namespace Script

theorem word_of_isIdentifier {name : List Char} (h : Lexer.isIdentifier name = true) :
    Grammar.Word name := by
  cases name with
  | nil => exact absurd h Bool.false_ne_true
  | cons c more =>
      obtain ⟨hc, hmore⟩ := Bool.and_eq_true_iff.mp h
      refine ⟨Grammar.isIdentifierStart_iff.mp hc, fun d hd => ?_⟩
      exact Grammar.isIdentifierChar_iff.mp (List.all_eq_true.mp hmore d hd)

/-- A statement stands in the part that holds it. -/
theorem standsIn_of_statement? {line offset : Nat} {part : List Char} {s : Statement}
    (h : statement? line offset part = .ok (some s)) :
    s.line = line ∧ ∃ place, s.offset = offset + place ∧ s.StandsIn place part := by
  obtain ⟨front, behind, hpart, hstart⟩ := stands_trim part
  obtain ⟨gap, htext, hgap, hempty⟩ := exists_gap (trim part)
  rw [statement?, hstart] at h
  simp only at h
  split at h
  next => cases h
  next =>
      generalize firstWord (trim part) = name at h htext hempty
      generalize trimStart ((trim part).drop name.length) = arguments at h htext hempty
      split at h
      next hname =>
          cases h
          refine ⟨rfl, byteLength (front ++ (name ++ gap)), ?_, ?_⟩
          · simp only [htext, byteLength_append]
            omega
          · refine .intro front gap behind ?_ ?_ ?_ hgap ?_
            · simp only [String.toList_ofList]
              rw [hpart, htext]
              simp only [List.append_assoc]
            · rw [String.toList_ofList]
            · exact String.toList_ofList ▸ word_of_isIdentifier hname
            · intro hne
              exact hempty fun hnil => hne (by rw [hnil])
      next => cases h

theorem pointsInto_of_statement? {line offset : Nat} {part : List Char} {e : ScriptError}
    (h : statement? line offset part = .error e) :
    ∃ cause : TokenError, e = .token line (cause.shift offset) ∧ cause.PointsInto part := by
  have htrim := stands_trim part
  rw [statement?] at h
  simp only at h
  split at h
  next => cases h
  next hne =>
      split at h
      next => cases h
      next =>
          cases h
          refine ⟨.unrecognized (String.ofList (firstWord (trim part)))
            (byteLength part - byteLength (trimStart part)), ?_, htrim.lt hne, _, .lexeme, ?_⟩
          · rw [TokenError.shift, Nat.add_comm]
          · exact (stands_front (List.takeWhile_prefix _)).trans htrim

theorem intercalate_extendFirst (c : Char) (found : List (List Char)) :
    [';'].intercalate (extendFirst c found) = c :: [';'].intercalate found := by
  cases found with
  | nil => rfl
  | cons part found => cases found <;> rfl

/-- Splitting loses the semicolons and nothing else. -/
theorem intercalate_split (quote : Option Char) (text : List Char) :
    [';'].intercalate (split quote text) = text := by
  fun_induction split quote text with
  | case1 => rfl
  | case2 rest ih =>
      rw [List.intercalate_cons_of_ne_nil (split_ne_nil none rest), ih]
      rfl
  | case3 c rest hc ih => rw [intercalate_extendFirst, ih]
  | case4 quote c rest ih => rw [intercalate_extendFirst, intercalate_extendFirst, ih]
  | case5 quote c rest hc ih => rw [intercalate_extendFirst, ih]

/-- Texts joined by semicolons stand where their offsets say. -/
theorem stands_of_mem_withOffsets {found : List (List Char)} {piece : Nat × List Char}
    {front : List Char} (h : piece ∈ withOffsets (byteLength front) found) :
    Stands piece.2 piece.1 (front ++ [';'].intercalate found) := by
  induction found generalizing front with
  | nil => cases h
  | cons part found ih =>
      rcases List.mem_cons.mp h with rfl | h
      · have hpart : part <+: [';'].intercalate (part :: found) := by
          cases found with
          | nil => exact List.intercalate_singleton.symm ▸ List.prefix_refl part
          | cons => exact ⟨_, (List.intercalate_cons_cons.trans (List.append_assoc _ _ _)).symm⟩
        exact (stands_front hpart).append_left front
      · have hne : found ≠ [] := by
          rintro rfl
          cases h
        have hbytes : byteLength front + byteLength part + 1 =
            byteLength (front ++ (part ++ [';'])) := by
          simp only [byteLength_append, Nat.add_assoc]
          rfl
        rw [hbytes] at h
        have hstands := ih h
        rwa [List.append_assoc, ← List.intercalate_cons_of_ne_nil hne] at hstands

theorem le_of_mem_withOffsets {offset : Nat} {found : List (List Char)}
    {piece : Nat × List Char} (h : piece ∈ withOffsets offset found) : offset ≤ piece.1 := by
  induction found generalizing offset with
  | nil => cases h
  | cons part found ih =>
      rcases List.mem_cons.mp h with rfl | h
      · exact Nat.le_refl offset
      · have hle := ih h
        omega

/-- Every part ends in front of the next. -/
theorem pairwise_withOffsets (offset : Nat) (found : List (List Char)) :
    (withOffsets offset found).Pairwise fun p q => p.1 + byteLength p.2 < q.1 := by
  induction found generalizing offset with
  | nil => exact .nil
  | cons part found ih =>
      refine .cons (fun piece hpiece => ?_) (ih _)
      exact Nat.lt_of_succ_le (le_of_mem_withOffsets hpiece)

theorem stands_of_mem_parts {line : List Char} {piece : Nat × List Char}
    (h : piece ∈ parts line) : Stands piece.2 piece.1 line := by
  rw [parts_eq] at h
  have hstands := @stands_of_mem_withOffsets _ _ [] h
  rwa [intercalate_split] at hstands

section

variable {number : Nat} {pieces : List (Nat × List Char)} {found : List Statement}

theorem mem_of_statementsOf {s : Statement} (h : statementsOf number pieces = .ok found)
    (hs : s ∈ found) : ∃ piece ∈ pieces, statement? number piece.1 piece.2 = .ok (some s) := by
  fun_induction statementsOf number pieces generalizing found with
  | case1 =>
      cases h
      cases hs
  | case2 | case3 => cases h
  | case4 offset part rest first hfirst more hrest ih =>
      cases h
      rcases List.mem_append.mp hs with hs | hs
      · exact ⟨_, List.mem_cons_self, by rw [hfirst, Option.mem_toList.mp hs]⟩
      · obtain ⟨piece, hpiece, hstatement⟩ := ih hrest hs
        exact ⟨piece, List.mem_cons_of_mem _ hpiece, hstatement⟩

theorem error_of_statementsOf {e : ScriptError} (h : statementsOf number pieces = .error e) :
    ∃ piece ∈ pieces, statement? number piece.1 piece.2 = .error e := by
  fun_induction statementsOf number pieces with
  | case1 => cases h
  | case2 offset part rest cause hfirst =>
      cases h
      exact ⟨_, List.mem_cons_self, hfirst⟩
  | case3 offset part rest first hfirst cause hrest ih =>
      cases h
      obtain ⟨piece, hpiece, hstatement⟩ := ih hrest
      exact ⟨piece, List.mem_cons_of_mem _ hpiece, hstatement⟩
  | case4 => cases h

/-- The statements of parts that follow each other follow each other. -/
theorem pairwise_statementsOf (hpieces : pieces.Pairwise fun p q => p.1 + byteLength p.2 < q.1)
    (h : statementsOf number pieces = .ok found) :
    found.Pairwise fun s t => s.offset < t.offset := by
  fun_induction statementsOf number pieces generalizing found with
  | case1 =>
      cases h
      exact .nil
  | case2 | case3 => cases h
  | case4 offset part rest first hfirst more hrest ih =>
      cases h
      obtain ⟨hbehind, hpieces⟩ := List.pairwise_cons.mp hpieces
      refine List.pairwise_append.mpr ⟨?_, ih hpieces hrest, ?_⟩
      · cases first with
        | none => exact .nil
        | some s => exact List.pairwise_singleton _ s
      · intro s hs t ht
        obtain ⟨piece, hpiece, hstatement⟩ := mem_of_statementsOf hrest ht
        rw [Option.mem_toList.mp hs] at hfirst
        obtain ⟨-, place, hplace, hstands⟩ := standsIn_of_statement? hfirst
        obtain ⟨-, place', hplace', -⟩ := standsIn_of_statement? hstatement
        have hle := hstands.stands.le
        have hlt := hbehind piece hpiece
        simp only at hlt
        omega

theorem standsIn_of_lineStatements {line : List Char} {s : Statement}
    (h : lineStatements number line = .ok found) (hs : s ∈ found) :
    s.line = number ∧ s.StandsIn s.offset line := by
  rw [lineStatements] at h
  split at h
  next =>
      cases h
      cases hs
  next =>
      obtain ⟨piece, hpiece, hstatement⟩ := mem_of_statementsOf h hs
      obtain ⟨hline, place, hplace, hstands⟩ := standsIn_of_statement? hstatement
      exact ⟨hline, hplace ▸ hstands.trans (stands_of_mem_parts hpiece)⟩

theorem pointsInto_of_lineStatements {line : List Char} {e : ScriptError}
    (h : lineStatements number line = .error e) :
    ∃ cause : TokenError, e = .token number cause ∧ cause.PointsInto line := by
  rw [lineStatements] at h
  split at h
  next => cases h
  next =>
      obtain ⟨piece, hpiece, hstatement⟩ := error_of_statementsOf h
      obtain ⟨cause, hcause, hpoints⟩ := pointsInto_of_statement? hstatement
      exact ⟨cause.shift piece.1, hcause, hpoints.shift (stands_of_mem_parts hpiece)⟩

theorem pairwise_lineStatements {line : List Char}
    (h : lineStatements number line = .ok found) :
    found.Pairwise fun s t => s.offset < t.offset := by
  rw [lineStatements] at h
  split at h
  next =>
      cases h
      exact .nil
  next => exact pairwise_statementsOf (pairwise_withOffsets 0 _) h

end

section

variable {number : Nat} {texts : List (List Char)} {found : List Statement}

theorem mem_of_statementsFrom {s : Statement} (h : statementsFrom number texts = .ok found)
    (hs : s ∈ found) :
    ∃ i line own, texts[i]? = some line ∧ lineStatements (number + i) line = .ok own ∧
      s ∈ own := by
  fun_induction statementsFrom number texts generalizing found with
  | case1 =>
      cases h
      cases hs
  | case2 | case3 => cases h
  | case4 number line texts own hline more hrest ih =>
      cases h
      rcases List.mem_append.mp hs with hs | hs
      · exact ⟨0, line, own, rfl, hline, hs⟩
      · obtain ⟨i, text, theirs, htext, htheirs, hs⟩ := ih hrest hs
        exact ⟨i + 1, text, theirs, htext, Nat.add_right_comm number 1 i ▸ htheirs, hs⟩

theorem error_of_statementsFrom {e : ScriptError} (h : statementsFrom number texts = .error e) :
    ∃ i line, texts[i]? = some line ∧ lineStatements (number + i) line = .error e := by
  fun_induction statementsFrom number texts with
  | case1 => cases h
  | case2 number line texts cause hline =>
      cases h
      exact ⟨0, line, rfl, hline⟩
  | case3 number line texts own hline cause hrest ih =>
      cases h
      obtain ⟨i, text, htext, hcause⟩ := ih hrest
      exact ⟨i + 1, text, htext, Nat.add_right_comm number 1 i ▸ hcause⟩
  | case4 => cases h

/-- Where a statement stands in front of another one. -/
def Precedes (s t : Statement) : Prop :=
  s.line < t.line ∨ s.line = t.line ∧ s.offset < t.offset

theorem pairwise_statementsFrom (h : statementsFrom number texts = .ok found) :
    found.Pairwise Precedes := by
  fun_induction statementsFrom number texts generalizing found with
  | case1 =>
      cases h
      exact .nil
  | case2 | case3 => cases h
  | case4 number line texts own hline more hrest ih =>
      cases h
      have hown {s : Statement} (hs : s ∈ own) : s.line = number :=
        (standsIn_of_lineStatements hline hs).1
      refine List.pairwise_append.mpr ⟨?_, ih hrest, ?_⟩
      · refine (pairwise_lineStatements hline).imp_of_mem fun hs ht hlt => ?_
        exact .inr ⟨(hown hs).trans (hown ht).symm, hlt⟩
      · intro s hs t ht
        obtain ⟨i, text, theirs, -, htheirs, ht⟩ := mem_of_statementsFrom hrest ht
        have hnext := (standsIn_of_lineStatements htheirs ht).1
        have hthis := hown hs
        exact .inl (by omega)

end

/-- The line of a script that has the number, counted from one. -/
structure IsLine (script : String) (number : Nat) (line : List Char) : Prop where
  pos : 1 ≤ number
  le : number ≤ (lines script.toList).length
  text : (lines script.toList)[number - 1]? = some line

theorem isLine_of_getElem? {script : String} {i : Nat} {line : List Char}
    (h : (lines script.toList)[i]? = some line) : IsLine script (1 + i) line := by
  obtain ⟨hlt, -⟩ := List.getElem?_eq_some_iff.mp h
  exact ⟨by omega, by omega, by rwa [Nat.add_sub_cancel_left]⟩

/-- The places that reading a script gives to statements and errors. -/
structure Located (script : String) : Prop where
  statement : ∀ statements, parse script = .ok statements → ∀ s ∈ statements,
    ∃ line, IsLine script s.line line ∧ s.StandsIn s.offset line ∧
      line.utf8Encode.extract s.offset (s.offset + s.arguments.utf8ByteSize) =
        s.arguments.toByteArray
  ordered : ∀ statements, parse script = .ok statements → statements.Pairwise Precedes
  unparsed : ∀ e, parse script = .error e →
    ∃ number cause line, e = .token number cause ∧ IsLine script number line ∧
      cause.PointsInto line
  unread : ∀ statements, parse script = .ok statements → ∀ s ∈ statements,
    ∀ e, s.tokens = .error e →
      ∃ cause line, e = .token s.line cause ∧ IsLine script s.line line ∧ cause.PointsInto line

theorem exists_line_of_mem {script : String} {statements : List Statement} {s : Statement}
    (h : parse script = .ok statements) (hs : s ∈ statements) :
    ∃ line, IsLine script s.line line ∧ s.StandsIn s.offset line := by
  obtain ⟨i, line, own, hline, hown, hs⟩ := mem_of_statementsFrom h hs
  obtain ⟨hnumber, hstands⟩ := standsIn_of_lineStatements hown hs
  exact ⟨line, hnumber ▸ isLine_of_getElem? hline, hstands⟩

/-- Each statement stands in its line as it says, its arguments at its offset, and later
statements stand further on. Each error that a script gives rise to before its directives
are asked names a line and a position in it where there is what the error speaks of. -/
theorem located (script : String) : Located script where
  statement statements h s hs := by
    obtain ⟨line, hline, hstands⟩ := exists_line_of_mem h hs
    have hbytes := hstands.stands.extract
    rw [← size_utf8Encode s.arguments.toList, String.utf8Encode_toList] at hbytes
    exact ⟨line, hline, hstands, hbytes⟩
  ordered statements h := pairwise_statementsFrom h
  unparsed e h := by
    obtain ⟨i, line, hline, herror⟩ := error_of_statementsFrom h
    obtain ⟨cause, hcause, hpoints⟩ := pointsInto_of_lineStatements herror
    exact ⟨1 + i, cause, line, hcause, isLine_of_getElem? hline, hpoints⟩
  unread statements h s hs e he := by
    obtain ⟨line, hline, hstands⟩ := exists_line_of_mem h hs
    rw [Statement.tokens] at he
    split at he
    next cause htokens =>
        cases he
        exact ⟨cause.shift s.offset, line, rfl, hline,
          (tokenize_error htokens).shift hstands.stands⟩
    next => cases he

example : (parse "drop :é; drop 'a").toOption.map (·.map Statement.tokens) =
    some [.ok [.column "é"], .error (.token 1 (.unterminatedQuote 15))] := by
  decide +kernel

end Script

end RowScript
