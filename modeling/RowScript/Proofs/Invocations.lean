import RowScript.Proofs.Segments

/-!
Scripts put together from invocations. Names and argument texts that are accepted on
their own stay so in a script: whether a semicolon or a line feed stands between two of
them, each comes back as one statement with its name, its line and its tokens.
-/

namespace RowScript.Script

open Text Grammar

theorem bare_of_isIdentifier {name : List Char} (h : Lexer.isIdentifier name = true) :
    ∃ c more, name = c :: more ∧ WordStart c ∧ ∀ d ∈ name, Bare d := by
  cases name with
  | nil => exact absurd h (by decide)
  | cons c more =>
      obtain ⟨hstart, hmore⟩ := Bool.and_eq_true_iff.mp h
      have hc := isIdentifierStart_iff.mp hstart
      refine ⟨c, more, rfl, hc, List.forall_mem_cons.mpr ⟨hc.wordChar.bare, fun d hd => ?_⟩⟩
      exact (isIdentifierChar_iff.mp (List.all_eq_true.mp hmore d hd)).bare

theorem trimStart_of_bare {c : Char} (hc : Bare c) (more : List Char) :
    trimStart (c :: more) = c :: more := by
  rw [trimStart, List.dropWhile_cons_of_neg (by simp [hc.1])]

theorem trim_named {name lead gap core trail : List Char}
    (hname : Lexer.isIdentifier name = true) (hlead : ∀ c ∈ lead, isBlank c = true)
    (hgap : ∀ c ∈ gap, isBlank c = true) (hne : gap ≠ [])
    (htrail : ∀ c ∈ trail, isBlank c = true) (hstart : trimStart core = core)
    (hend : trimEnd core = core) :
    ∃ rest, trim (lead ++ (name ++ (gap ++ (core ++ trail)))) = name ++ rest ∧
      Stops (fun c => (!isBlank c) = true) rest ∧ trimStart rest = core := by
  obtain ⟨c, more, hcons, hc, hbare⟩ := bare_of_isIdentifier hname
  have hnameNil : name ≠ [] := hcons ▸ List.cons_ne_nil c more
  have hbegin : trimStart (name ++ (gap ++ (core ++ trail))) =
      name ++ (gap ++ (core ++ trail)) := by
    rw [hcons, List.cons_append, trimStart_of_bare hc.wordChar.bare]
  rw [trim, trimStart_append_of_blank hlead, hbegin]
  by_cases hcore : core = []
  · subst hcore
    have hblank : ∀ c ∈ gap ++ trail, isBlank c = true :=
      List.forall_mem_append.mpr ⟨hgap, htrail⟩
    refine ⟨[], ?_, stops_nil _, rfl⟩
    rw [List.nil_append, trimEnd_append_of_blank hblank,
      (endsNonblank_of_bare hnameNil hbare).trimEnd_eq, List.append_nil]
  · refine ⟨gap ++ core, ?_, ?_, by rw [trimStart_append_of_blank hgap, hstart]⟩
    · rw [← List.append_assoc gap, ← List.append_assoc name, trimEnd_append_of_blank htrail,
        ← List.append_assoc name, trimEnd_append (by rwa [hend]), hend]
    · obtain ⟨d, gap', rfl⟩ := List.exists_cons_of_ne_nil hne
      exact stops_cons.mpr (by simp [hgap d List.mem_cons_self])

/-- A name, a gap and arguments without white space at their ends, and any white space
around them, are the statement of that name with those arguments. -/
theorem statement?_of_name {name lead gap core trail : List Char} (line offset : Nat)
    (hname : Lexer.isIdentifier name = true) (hlead : ∀ c ∈ lead, isBlank c = true)
    (hgap : ∀ c ∈ gap, isBlank c = true) (hne : gap ≠ [])
    (htrail : ∀ c ∈ trail, isBlank c = true) (hstart : trimStart core = core)
    (hend : trimEnd core = core) :
    ∃ place, statement? line offset (lead ++ (name ++ (gap ++ (core ++ trail)))) =
      .ok (some ⟨line, String.ofList name, String.ofList core, place⟩) := by
  obtain ⟨rest, htrim, hstops, hrest⟩ :=
    trim_named hname hlead hgap hne htrail hstart hend
  obtain ⟨c, more, hcons, _, hbare⟩ := bare_of_isIdentifier hname
  have hfirst : firstWord (name ++ rest) = name :=
    takeWhile_append_of_stops (fun c hc => by simp [(hbare c hc).1]) hstops
  have harguments : trimStart ((name ++ rest).drop name.length) = core := by
    rw [List.drop_left, hrest]
  have htext : name ++ rest = c :: (more ++ rest) := by rw [hcons, List.cons_append]
  simp only [statement?, htrim, htext]
  simp only [← htext, hfirst, harguments, hname, if_true]
  exact ⟨_, rfl⟩

end RowScript.Script

namespace RowScript

/-- The name of a directive and the text of its arguments. -/
structure Invocation where
  name : String
  text : String

/-- What stands between two invocations: a semicolon or a line feed, among spaces. -/
structure Separation where
  newline : Bool
  before : Nat
  behind : Nat

def spaces (count : Nat) : List Char := List.replicate count ' '

def Separation.text (s : Separation) : List Char :=
  spaces s.before ++ (if s.newline then '\n' else ';') :: spaces s.behind

theorem blank_of_mem_spaces {count : Nat} : ∀ c ∈ spaces count, Text.isBlank c = true := by
  intro c hc
  rw [List.eq_of_mem_replicate hc]
  rfl

namespace Invocation

def written (i : Invocation) : List Char := i.name.toList ++ ' ' :: i.text.toList

/-- An invocation in words that are accepted on their own, in one line. -/
structure WellFormed (i : Invocation) : Prop where
  name : isIdentifier i.name = true
  line : '\n' ∉ i.text.toList
  tokens : ∃ tokens, tokenize i.text = .ok tokens

/-- The invocation as it stands among the spaces of the separations around it. -/
def padded (i : Invocation) (before behind : Nat) : List Char :=
  spaces before ++ (i.written ++ spaces behind)

/-- A statement at a line with the invocation's name and tokens. -/
def ReadAs (i : Invocation) (line : Nat) (s : Statement) : Prop :=
  s.name = i.name ∧ s.line = line ∧ ∃ tokens, tokenize i.text = .ok tokens ∧ s.tokens = .ok tokens

/-- Invocations put together to a text. -/
def joinedText (first : Invocation) (rest : List (Separation × Invocation)) : List Char :=
  first.written ++ rest.flatMap fun (s, i) => s.text ++ i.written

def joined (first : Invocation) (rest : List (Separation × Invocation)) : String :=
  String.ofList (joinedText first rest)

/-- The invocations and their lines, the first of which has the given number. -/
def numbered (line : Nat) (first : Invocation) :
    List (Separation × Invocation) → List (Nat × Invocation)
  | [] => [(line, first)]
  | (s, next) :: rest =>
    (line, first) :: numbered (if s.newline then line + 1 else line) next rest

open Text Script Grammar

theorem length_numbered (line : Nat) (first : Invocation)
    (rest : List (Separation × Invocation)) :
    (numbered line first rest).length = rest.length + 1 := by
  induction rest generalizing line first with
  | nil => rfl
  | cons item rest ih => rw [numbered, List.length_cons, ih, List.length_cons]

theorem getElem?_numbered (line : Nat) (first : Invocation)
    (rest : List (Separation × Invocation)) (k : Nat) :
    (numbered line first rest)[k]? =
      ((first :: rest.map Prod.snd)[k]?).map fun i =>
        (line + (rest.take k).countP (·.1.newline), i) := by
  induction rest generalizing line first k with
  | nil => cases k <;> simp [numbered]
  | cons item rest ih =>
      obtain ⟨s, next⟩ := item
      cases k with
      | zero => simp [numbered]
      | succ k =>
          simp only [numbered, List.getElem?_cons_succ, ih, List.map_cons, List.take_succ_cons,
            List.countP_cons]
          congr 1
          funext i
          cases s.newline
          · simp
          · simp only [if_true, Prod.mk.injEq, and_true]
            omega

/-- A text holds the given invocations if its statements are theirs. It may be the rest
of a line, so its first parts start at any offset, and it does not start with a comment. -/
def Holds (line offset : Nat) (text : List Char) (found : List (Nat × Invocation)) : Prop :=
  ∃ front more now later, lines text = front :: more ∧ isComment front = false ∧
    statementsOf line (withOffsets offset (split none front)) = .ok now ∧
    statementsFrom (line + 1) more = .ok later ∧
    List.Forall₂ (fun x s => x.2.ReadAs x.1 s) found (now ++ later)

theorem Holds.statementsFrom_lines {line : Nat} {text : List Char}
    {found : List (Nat × Invocation)} (h : Holds line 0 text found) :
    ∃ statements, statementsFrom line (lines text) = .ok statements ∧
      List.Forall₂ (fun x s => x.2.ReadAs x.1 s) found statements := by
  obtain ⟨front, more, now, later, hlines, hplain, hnow, hlater, hread⟩ := h
  refine ⟨now ++ later, ?_, hread⟩
  rw [hlines, statementsFrom, lineStatements, hplain, parts_eq, hnow, hlater]
  rfl

section Part

variable {i : Invocation} (h : i.WellFormed) (before behind line offset : Nat)
include h

theorem WellFormed.not_mem_lineFeed : '\n' ∉ i.padded before behind := by
  obtain ⟨_, _, _, _, hbare⟩ := bare_of_isIdentifier h.name
  have hspaces (count : Nat) : '\n' ∉ spaces count := fun hmem =>
    absurd (List.eq_of_mem_replicate hmem) (by decide)
  have hname : '\n' ∉ i.name.toList := fun hmem => absurd (hbare _ hmem) (by decide)
  simp [padded, written, hspaces, hname, h.line]

theorem WellFormed.closed : Closed (i.padded before behind) := by
  obtain ⟨_, _, _, _, hbare⟩ := bare_of_isIdentifier h.name
  obtain ⟨tokens, htokens⟩ := h.tokens
  have hname : Closed i.name.toList := closed_of_plain fun c hc => (hbare c hc).2
  have hspace : Closed [' '] := closed_of_plain (List.forall_mem_singleton.mpr (by decide))
  have htext : Closed i.text.toList := closed_of_tokens htokens
  have hwritten : Closed i.written := hname.append (hspace.append htext)
  exact (closed_of_blank blank_of_mem_spaces).append
    (hwritten.append (closed_of_blank blank_of_mem_spaces))

theorem WellFormed.isComment_append (rest : List Char) :
    isComment (i.padded before behind ++ rest) = false := by
  obtain ⟨c, more, hcons, hc, _⟩ := bare_of_isIdentifier h.name
  have hstart := isIdentifierStart_iff.mpr hc
  have hhash : '#' ≠ c := fun hc => absurd (hc ▸ hstart) (by decide)
  have hslash : '/' ≠ c := fun hc => absurd (hc ▸ hstart) (by decide)
  rw [Bool.eq_false_iff]
  intro hcomment
  rw [isComment_iff, padded, List.append_assoc, trimStart_append_of_blank blank_of_mem_spaces,
    written, hcons, List.cons_append, List.cons_append, List.cons_append,
    trimStart_of_bare hc.wordChar.bare] at hcomment
  simp [hhash, hslash] at hcomment

theorem WellFormed.exists_statement :
    ∃ s, statement? line offset (i.padded before behind) = .ok (some s) ∧ i.ReadAs line s := by
  obtain ⟨tokens, htokens⟩ := h.tokens
  obtain ⟨lead, core, trail, htext, hlead, htrail, hstart, hend, hcore⟩ := exists_core htokens
  have hgap : ∀ c ∈ ' ' :: lead, isBlank c = true := List.forall_mem_cons.mpr ⟨rfl, hlead⟩
  have hpart : i.written ++ spaces behind =
      i.name.toList ++ ((' ' :: lead) ++ (core ++ (trail ++ spaces behind))) := by
    simp [written, htext]
  obtain ⟨place, hplace⟩ := statement?_of_name line offset h.name blank_of_mem_spaces hgap
    (List.cons_ne_nil ' ' lead)
    (List.forall_mem_append.mpr ⟨htrail, blank_of_mem_spaces⟩) hstart hend
  refine ⟨_, by rw [padded, hpart, hplace], String.ofList_toList, rfl, tokens, htokens, ?_⟩
  simp only [Statement.tokens, tokenize, String.toList_ofList, hcore]

theorem WellFormed.holds : Holds line offset (i.padded before behind) [(line, i)] := by
  obtain ⟨s, hstatement, hread⟩ := h.exists_statement before behind line offset
  have hcomment := h.isComment_append before behind []
  rw [List.append_nil] at hcomment
  refine ⟨i.padded before behind, [], [s], [], ?_, hcomment, ?_, rfl, .cons hread .nil⟩
  · rw [lines_of_not_mem (h.not_mem_lineFeed before behind), if_neg (by simp [padded, written])]
  · rw [(h.closed before behind).split_eq, withOffsets, statementsOf, hstatement]
    rfl

theorem WellFormed.holds_lineFeed {rest : List Char} {found : List (Nat × Invocation)}
    (hrest : Holds (line + 1) 0 rest found) :
    Holds line offset (i.padded before behind ++ '\n' :: rest) ((line, i) :: found) := by
  obtain ⟨front, more, now, later, hlines, hplain, hnow, hlater, hread⟩ :=
    h.holds before behind line offset
  obtain ⟨statements, hstatements, hreads⟩ := hrest.statementsFrom_lines
  rw [lines_of_not_mem (h.not_mem_lineFeed before behind),
    if_neg (by simp [padded, written])] at hlines
  obtain ⟨rfl, rfl⟩ := List.cons.inj hlines
  obtain rfl : [] = later := Except.ok.inj hlater
  rw [List.append_nil] at hread
  obtain ⟨text, hsame, htext⟩ := lines_append_lineFeed (h.not_mem_lineFeed before behind)
  have hwhole : isComment text = false ∧
      statementsOf line (withOffsets offset (split none text)) = .ok now := by
    cases hsame with
    | inl hsame => exact ⟨by rwa [hsame], by rwa [hsame]⟩
    | inr hsame =>
        rw [← isComment_return, ← statementsOf_split_return, hsame]
        exact ⟨hplain, hnow⟩
  exact ⟨text, lines rest, now, statements, htext rest, hwhole.1, hwhole.2, hstatements,
    List.rel_append hread hreads⟩

theorem WellFormed.holds_semicolon {rest : List Char} {found : List (Nat × Invocation)}
    (hrest : Holds line (offset + byteLength (i.padded before behind) + 1) rest found) :
    Holds line offset (i.padded before behind ++ ';' :: rest) ((line, i) :: found) := by
  obtain ⟨s, hstatement, hread⟩ := h.exists_statement before behind line offset
  obtain ⟨front, more, now, later, hlines, _, hnow, hlater, hreads⟩ := hrest
  have hfeed : '\n' ∉ i.padded before behind ++ [';'] := by
    simp [h.not_mem_lineFeed before behind]
  refine ⟨i.padded before behind ++ ';' :: front, more, s :: now, later, ?_,
    h.isComment_append before behind _, ?_, hlater, .cons hread hreads⟩
  · rw [List.append_cons, lines_append hfeed (by simp) hlines, List.append_assoc,
      List.singleton_append]
  · rw [(h.closed before behind).split_semicolon, withOffsets, statementsOf, hstatement, hnow]
    rfl

end Part

theorem joinedText_cons (first next : Invocation) (newline : Bool) (before behind : Nat)
    (rest : List (Separation × Invocation)) (lead : Nat) :
    spaces lead ++ joinedText first ((⟨newline, behind, before⟩, next) :: rest) =
      first.padded lead behind ++ (if newline then '\n' else ';') ::
        (spaces before ++ joinedText next rest) := by
  simp [joinedText, Separation.text, padded]

theorem holds_joinedText {first : Invocation} {rest : List (Separation × Invocation)}
    (h : ∀ i ∈ first :: rest.map Prod.snd, i.WellFormed) (before line offset : Nat) :
    Holds line offset (spaces before ++ joinedText first rest) (numbered line first rest) := by
  induction rest generalizing first before line offset with
  | nil =>
      have hlast := (h first List.mem_cons_self).holds before 0 line offset
      simpa [joinedText, padded, spaces, numbered] using hlast
  | cons item rest ih =>
      obtain ⟨⟨newline, behind, before'⟩, next⟩ := item
      obtain ⟨hfirst, hrest⟩ := List.forall_mem_cons.mp h
      rw [joinedText_cons]
      cases newline with
      | true => exact hfirst.holds_lineFeed before behind line offset (ih hrest before' _ _)
      | false => exact hfirst.holds_semicolon before behind line offset (ih hrest before' _ _)

/-- Invocations that are accepted on their own make a script with one statement for each
of them, in their order, with its name, its line and its tokens. -/
theorem parse_joined (first : Invocation) (rest : List (Separation × Invocation))
    (h : ∀ i ∈ first :: rest.map Prod.snd, i.WellFormed) :
    ∃ statements, parse (joined first rest) = .ok statements ∧
      statements.length = rest.length + 1 ∧
      ∀ k i, (first :: rest.map Prod.snd)[k]? = some i →
        ∃ s, statements[k]? = some s ∧ s.name = i.name ∧
          s.line = 1 + (rest.take k).countP (·.1.newline) ∧
          ∃ tokens, tokenize i.text = .ok tokens ∧ s.tokens = .ok tokens := by
  obtain ⟨statements, hparse, hread⟩ := (holds_joinedText h 0 1 0).statementsFrom_lines
  refine ⟨statements, by rw [parse, joined, String.toList_ofList]; exact hparse, ?_, ?_⟩
  · rw [← hread.length_eq, length_numbered]
  · intro k i hi
    have hk : (numbered 1 first rest)[k]? = some (1 + (rest.take k).countP (·.1.newline), i) := by
      rw [getElem?_numbered, hi, Option.map_some]
    obtain ⟨hlength, heq⟩ := List.getElem?_eq_some_iff.mp hk
    have hbound : k < statements.length := hread.length_eq ▸ hlength
    obtain ⟨hname, hline, htokens⟩ := hread.get hlength hbound
    refine ⟨statements[k], List.getElem?_eq_getElem hbound, ?_⟩
    simp only [List.get_eq_getElem, heq] at hname hline htokens
    exact ⟨hname, hline, htokens⟩

/-- A semicolon and a quote inside quotes, and an empty text. -/
theorem parse_joined_quotes :
    (∀ i ∈ [⟨"fill", "'a;b'"⟩, ⟨"note", "\"it's; so\""⟩, ⟨"last", ""⟩], WellFormed i) ∧
      ∃ statements, parse "fill 'a;b'; note \"it's; so\"\nlast " = .ok statements ∧
        statements.length = 3 ∧
        ∃ s, statements[2]? = some s ∧ s.name = "last" ∧ s.line = 2 ∧ s.tokens = .ok [] := by
  have hfill : WellFormed ⟨"fill", "'a;b'"⟩ := ⟨by decide, by decide, _, by cbv⟩
  have hnote : WellFormed ⟨"note", "\"it's; so\""⟩ := ⟨by decide, by decide, _, by cbv⟩
  have hlast : WellFormed ⟨"last", ""⟩ := ⟨by decide, by decide, _, by cbv⟩
  have hwell : ∀ i ∈ [⟨"fill", "'a;b'"⟩, ⟨"note", "\"it's; so\""⟩, ⟨"last", ""⟩],
      WellFormed i := by
    simp only [List.forall_mem_cons, hfill, hnote, hlast, true_and]
    exact List.forall_mem_nil _
  obtain ⟨statements, hparse, hlength, hread⟩ := parse_joined ⟨"fill", "'a;b'"⟩
    [(⟨false, 0, 1⟩, ⟨"note", "\"it's; so\""⟩), (⟨true, 0, 0⟩, ⟨"last", ""⟩)] hwell
  obtain ⟨s, hs, hname, hline, tokens, htokens, hsame⟩ := hread 2 ⟨"last", ""⟩ rfl
  have hempty : tokenize "" = .ok [] := by cbv
  obtain rfl : [] = tokens := Except.ok.inj (hempty.symm.trans htokens)
  exact ⟨hwell, statements, hparse, hlength, s, hs, hname, hline, hsame⟩

end Invocation

end RowScript
